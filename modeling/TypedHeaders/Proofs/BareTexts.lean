import TypedHeaders.Proofs.CaseMappings
import TypedHeaders.Proofs.Integers
import TypedHeaders.Proofs.Scientific

/-!
# Bare texts

A text is *bare* if it has no blanks at its ends and no underscore in it. Numbers and
truth values are cast from bare texts, and each kind for a reason of its own:

* the texts of floats and decimals are tested for it (`Cast.isBare_iff`);
* the text of a truth value is `true` or `false` in lower case, and blanks and
  underscores are in lower case already (`isLower_of_isSpacer`);
* the text of an integer consists of a sign and of digits, but for one line feed that
  may come last, and that is a blank.

So all but integers are cast from bare texts only, and an integer that is cast from
another one has just a line feed too much (`Tag.isBareText_of_cast`).
-/

namespace TypedHeaders

open Text Numeral

/-- The text has no blanks at its ends, and no underscore. -/
structure IsBareText (s : List Char) : Prop where
  trimmed : IsTrimmed blank s
  noUnderscore : '_' ∉ s

theorem Cast.isBare_iff {s : List Char} : Cast.isBare s = true ↔ IsBareText s := by
  rw [isBare, Bool.and_eq_true, decide_eq_true_eq, trim_eq_self_iff]
  constructor
  · rintro ⟨htrimmed, hunderscore⟩
    exact ⟨htrimmed, by simpa using hunderscore⟩
  · rintro ⟨htrimmed, hunderscore⟩
    exact ⟨htrimmed, by simpa using hunderscore⟩

instance (s : List Char) : Decidable (IsBareText s) := decidable_of_iff _ Cast.isBare_iff

/-! ## Spacers -/

/-- Is the character one that may set digits apart, a blank or an underscore? -/
def isSpacer (c : Char) : Bool := c = '_' || blank.contains c

/-- A text without spacers is bare. -/
theorem IsBareText.of_forall {s : List Char} (hs : ∀ c ∈ s, isSpacer c = false) :
    IsBareText s where
  trimmed := .of_forall fun c hc => (Bool.or_eq_false_iff.1 (hs c hc)).2
  noUnderscore := fun h => Bool.noConfusion (hs '_' h)

namespace Text

theorem CharClass.exists_of_contains {k : CharClass} {c : Char} (hc : k.contains c = true) :
    ∃ ns ∈ k.points, c.toNat ∈ ns := by
  by_contra hnone
  push Not at hnone
  rw [not_contains hnone] at hc
  cases hc

theorem exists_of_isSpacer {c : Char} (hc : isSpacer c = true) :
    ∃ ns ∈ ['_'.toNat] :: blank.points, c.toNat ∈ ns := by
  rcases Bool.or_eq_true_iff.1 hc with hc | hc
  · obtain rfl : c = '_' := of_decide_eq_true hc
    exact ⟨_, List.mem_cons_self, List.mem_cons_self⟩
  · obtain ⟨ns, hns, hn⟩ := CharClass.exists_of_contains hc
    exact ⟨ns, List.mem_cons_of_mem _ hns, hn⟩

theorem spacers_disjoint_digits :
    bitsOfAll (['_'.toNat] :: blank.points) &&& bitsOfAll decimalDigits.points = 0 := by
  decide +kernel

/-- No digit is a spacer, whatever its script. -/
theorem isSpacer_of_digit? {c : Char} (hc : (digit? c).isSome = true) : isSpacer c = false := by
  by_contra hspacer
  rw [Bool.not_eq_false] at hspacer
  obtain ⟨ns, hns, hn⟩ := exists_of_isSpacer hspacer
  rw [digit?, Option.isSome_map, List.find?_isSome] at hc
  obtain ⟨ms, hms, hm⟩ :=
    CharClass.exists_of_contains (k := decimalDigits) (List.any_eq_true.2 hc)
  exact not_mem_of_bitsOfAll spacers_disjoint_digits hns hn ms hms hm

end Text

theorem isSpacer_of_mem {c : Char} (hc : c ∈ ['+', '-', '.', 'e', 'E']) : isSpacer c = false := by
  have hall : ['+', '-', '.', 'e', 'E'].all (fun c => !isSpacer c) = true := by decide
  simpa using List.all_eq_true.1 hall c hc

/-- A number in scientific notation is written without spacers. -/
theorem Numeral.Scientific.Written.isBareText {s : List Char} {x : Scientific}
    (h : Scientific.Written s x) : IsBareText s :=
  .of_forall fun _ hc => (h.mem_cases hc).elim isSpacer_of_digit? isSpacer_of_mem

/-! ## Truth values -/

namespace Text

theorem spacers_disjoint :
    bitsOfAll (['_'.toNat] :: blank.points) &&& bitsOfAll lowerMoved = 0 := by decide +kernel

/-- Spacers are in lower case. -/
theorem isLower_of_isSpacer {c : Char} (hc : isSpacer c = true) : IsLower c := by
  obtain ⟨ns, hns, hn⟩ := exists_of_isSpacer hc
  exact isLower_of_not_moved (not_mem_of_bitsOfAll spacers_disjoint hns hn)

/-- A character in lower case is still there when its text is put into lower case. -/
theorem mem_lowerFrom {c : Char} (hc : IsLower c) {s : List Char} (hmem : c ∈ s) (before : Bool) :
    c ∈ lowerFrom before s := by
  induction s generalizing before with
  | nil => cases hmem
  | cons d s ih =>
    rw [lowerFrom_cons]
    rcases List.mem_cons.1 hmem with rfl | hmem
    · rw [lowerAt, if_neg hc.1, hc.2]
      exact List.mem_cons_self
    · exact List.mem_append_right _ (ih hmem _)

end Text

namespace Cast

variable {raw : String}

theorem lowerCase_of_toBool {b : Bool} (h : toBool raw = .ok b) :
    lowerCase raw.toList ∈ ["true".toList, "false".toList] := by
  simp only [toBool] at h
  split at h
  · rename_i htrue
    exact htrue ▸ List.mem_cons_self
  · split at h
    · rename_i hfalse
      exact hfalse ▸ List.mem_cons_of_mem _ List.mem_cons_self
    · cases h

theorem isBareText_of_toBool {b : Bool} (h : toBool raw = .ok b) : IsBareText raw.toList := by
  have hletters : ∀ s ∈ ["true".toList, "false".toList], s.all (fun c => !isSpacer c) = true := by
    decide
  refine .of_forall fun c hc => ?_
  by_contra hspacer
  rw [Bool.not_eq_false] at hspacer
  have hmem := mem_lowerFrom (isLower_of_isSpacer hspacer) hc false
  have hnot := List.all_eq_true.1 (hletters _ (lowerCase_of_toBool h)) c hmem
  rw [hspacer] at hnot
  cases hnot

/-! ## Numbers -/

theorem isBareText_of_toFloat {x : Binary64} (h : toFloat raw = .ok x) : IsBareText raw.toList := by
  rw [← isBare_iff]
  by_contra hbare
  rw [toFloat, if_pos (by simpa using hbare)] at h
  cases h

theorem isBareText_of_toDecimal {d : Decimal} (h : toDecimal raw = .ok d) :
    IsBareText raw.toList := by
  rw [← isBare_iff]
  by_contra hbare
  rw [toDecimal, if_pos (by simpa using hbare)] at h
  cases h

/-- A text that writes an integer is bare, or a bare text of the same integer with a line feed. -/
theorem isBareText_of_integerText {s digits : List Char} {negative : Bool}
    (h : IntegerText s negative digits) :
    IsBareText s ∨ ∃ body, s = body ++ ['\n'] ∧ IsBareText body ∧
      IntegerText body negative digits := by
  obtain ⟨hsign, hne, hdigits, hending⟩ := h
  rename_i sign ending
  have hbody : IntegerText (sign ++ (digits ++ [])) negative digits :=
    .intro hsign hne hdigits (.inl rfl)
  have hbare : IsBareText (sign ++ (digits ++ [])) := by
    rw [List.append_nil]
    exact (Scientific.written_integer hsign hne hdigits).isBareText
  rcases hending with rfl | rfl
  · exact .inl hbare
  · exact .inr ⟨_, by simp, hbare, hbody⟩

end Cast

/-- A number or a truth value is cast from a bare text, or else it is an integer that is cast from a
    bare text and one line feed after it, just as from the bare text alone. -/
theorem Tag.isBareText_of_cast {tag : Tag} (htag : tag ∈ [.int, .float, .decimal, .boolean])
    {raw : String} {a : Atom} (ha : tag.cast raw = .ok a) :
    IsBareText raw.toList ∨
      tag = .int ∧ ∃ body : String, raw = body ++ "\n" ∧ IsBareText body.toList ∧
        tag.cast body = .ok a := by
  cases tag with
  | int =>
    rw [Tag.cast, map_eq_ok] at ha
    obtain ⟨n, hn, rfl⟩ := ha
    obtain ⟨negative, digits, htext, hlength, rfl⟩ := Cast.toInt_eq_ok_iff.1 hn
    -- Only an integer may be cast from more than a bare text: a line feed may follow it.
    refine (Cast.isBareText_of_integerText htext).imp_right ?_
    rintro ⟨body, hbody, hbare, hshort⟩
    rw [← String.toList_ofList (l := body)] at hbare hshort
    refine ⟨rfl, String.ofList body, ?_, hbare, ?_⟩
    · refine String.toList_inj.1 ?_
      rw [hbody, String.toList_append, String.toList_ofList]
      rfl
    · rw [Tag.cast, Cast.toInt_eq_ok_iff.2 ⟨negative, digits, hshort, hlength, rfl⟩]
      rfl
  | float =>
    rw [Tag.cast, map_eq_ok] at ha
    obtain ⟨x, hx, -⟩ := ha
    exact .inl (Cast.isBareText_of_toFloat hx)
  | decimal =>
    rw [Tag.cast, map_eq_ok] at ha
    obtain ⟨d, hd, -⟩ := ha
    exact .inl (Cast.isBareText_of_toDecimal hd)
  | boolean =>
    rw [Tag.cast, map_eq_ok] at ha
    obtain ⟨b, hb, -⟩ := ha
    exact .inl (Cast.isBareText_of_toBool hb)
  | string | other => simp at htag

/-- An integer with a line feed after it is cast as without; the letters of a truth value may be of
    either case, and have no blanks around them all the same. -/
theorem Tag.isBareText_of_cast_line_feed :
    (Tag.int.cast "+05\n" = .ok (.number (.int 5)) ∧
      ∃ body : String, "+05\n" = body ++ "\n" ∧ IsBareText body.toList ∧
        Tag.int.cast body = .ok (.number (.int 5))) ∧
    Tag.boolean.cast "tRUE" = .ok (.bool true) ∧ IsBareText "tRUE".toList := by
  have hint : Tag.int.cast "+05\n" = .ok (.number (.int 5)) := by decide +kernel
  have hbool : Tag.boolean.cast "tRUE" = .ok (.bool true) := by decide +kernel
  refine ⟨⟨hint, ?_⟩, hbool, (Tag.isBareText_of_cast (by simp) hbool).resolve_right (by simp)⟩
  rcases Tag.isBareText_of_cast (by simp) hint with hbare | ⟨-, hbody⟩
  · exact absurd hbare (by decide +kernel)
  · exact hbody

/-- An integer may be cast from a text that is not bare. -/
theorem Tag.cast_int_not_bare :
    Tag.int.cast "5\n" = .ok (.number (.int 5)) ∧ ¬IsBareText "5\n".toList := by
  decide +kernel

end TypedHeaders
