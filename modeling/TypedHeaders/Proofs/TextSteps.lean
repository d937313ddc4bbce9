import TypedHeaders.Conversion.Build
import TypedHeaders.Proofs.Limits
import TypedHeaders.Proofs.Soundness
import TypedHeaders.Proofs.Templates

/-!
# Texts under constraints

A text is converted in two parts. The constraints that the type checks itself are
put together, whatever their order: the text is stripped, measured and put into a
case (`Limits.reshape`). The other constraints follow one by one, and only one of
them can be met by a text at first: that it is a multiple of a number. Then it is
a template of which nothing comes (`exists_multipleOf`), and of all that is done to
such a text only the last change of case counts (`Constraint.checkAll_plain`).

So the text that comes of it may be converted again, unless it has grown too long
as it was put into a case, or stays in upper case after it was a template
(`textSettles`, `convert_text_again`).
-/

namespace TypedHeaders

open Text

/-! ## Cases -/

/-- The two cases that a text can be put into. -/
inductive LetterCase where
  | upper
  | lower
deriving DecidableEq

/-- The text in the case, if there is one to put it into. -/
def inCase : Option LetterCase → List Char → List Char
  | none, s => s
  | some .upper, s => upperCase s
  | some .lower, s => lowerCase s

theorem expands_inCase (k : Option LetterCase) (s : List Char) : Expands s (inCase k s) :=
  match k with
  | none => expands_refl s
  | some .upper => expands_upperCase s
  | some .lower => expands_lowerFrom s false

/-- What is in a case stays as it is. -/
theorem inCase_inCase_self (k : Option LetterCase) (s : List Char) :
    inCase k (inCase k s) = inCase k s :=
  match k with
  | none => rfl
  | some .upper => upperCase_eq_self fun _ => isUpper_of_mem_upperCase
  | some .lower => lowerFrom_eq_self fun _ => isLower_of_mem_lowerFrom

theorem trim_inCase {k : Option LetterCase} {s : List Char} (hs : trim whiteSpace s = s) :
    trim whiteSpace (inCase k s) = inCase k s :=
  (hs.symm ▸ expands_inCase k s : Expands (trim whiteSpace s) (inCase k s)).trim_eq

/-- The case that a text is in at the end, as far as it is changed. -/
def Reshaping.casing? (r : Reshaping) : Option LetterCase :=
  if r.toLower = some true then some .lower
  else if r.toUpper = some true then some .upper
  else none

/-! ## What the type checks itself -/

namespace Limits

variable {l : Limits} {s s' : String}

theorem recased_eq (l : Limits) (s : List Char) : l.recased s = inCase l.reshaping.casing? s := by
  rw [recased, Reshaping.casing?, reshaping]
  split_ifs <;> rfl

theorem stripped_stripped (l : Limits) (s : List Char) :
    l.stripped (l.stripped s) = l.stripped s := by
  unfold stripped
  split
  · exact trim_trim s
  · rfl

theorem stripped_eq_self {s : List Char} (hs : trim whiteSpace s = s) : l.stripped s = s := by
  unfold stripped
  split
  · exact hs
  · rfl

theorem stripped_inCase {k : Option LetterCase} {s : List Char} (hs : l.stripped s = s) :
    l.stripped (inCase k s) = inCase k s := by
  unfold stripped at hs ⊢
  split
  · rename_i hstrip
    rw [if_pos hstrip] at hs
    exact trim_inCase hs
  · rfl

theorem reshape_eq_ok :
    l.reshape s = .ok s' ↔ l.KeptBySize (l.stripped s.toList).length ∧
      s' = String.ofList (inCase l.reshaping.casing? (l.stripped s.toList)) := by
  rw [reshape, bind_eq_ok, ← recased_eq, ← orRefuse_size_eq_ok]
  exact ⟨fun ⟨_, hsize, hs'⟩ => ⟨hsize, (Except.ok.inj hs').symm⟩,
    fun ⟨hsize, hs'⟩ => ⟨(), hsize, hs' ▸ rfl⟩⟩

/-- A text that is stripped, short and in the case that limits ask for already stays as it is. -/
theorem reshape_self {s : List Char} (hstrip : l.stripped s = s) (hsize : l.KeptBySize s.length)
    (hcase : inCase l.reshaping.casing? s = s) :
    l.reshape (String.ofList s) = .ok (String.ofList s) := by
  rw [reshape_eq_ok, String.toList_ofList, hstrip, hcase]
  exact ⟨hsize, rfl⟩

/-- Can a text that is short enough be put into a case in which it is too long? -/
def mayOutgrow (l : Limits) : Bool :=
  l.maxLength.any (0 < ·) && l.reshaping.casing?.isSome

/-- A reshaped text that cannot have outgrown its limits stays as it is. -/
theorem reshape_again (hl : l.mayOutgrow = false) (hs : l.reshape s = .ok s') :
    l.reshape s' = .ok s' := by
  obtain ⟨hsize, rfl⟩ := reshape_eq_ok.1 hs
  have hself := stripped_inCase (k := l.reshaping.casing?) (l.stripped_stripped s.toList)
  generalize l.stripped s.toList = t at hsize hself ⊢
  refine reshape_self hself ⟨fun n hn => ?_, fun n hn => ?_⟩ (inCase_inCase_self _ t)
  · exact (hsize.min n hn).trans (expands_inCase _ t).length_le
  · have hmax := hsize.max n hn
    rw [mayOutgrow, Bool.and_eq_false_iff] at hl
    rcases hl with hl | hl
    · -- There is nothing to grow.
      obtain rfl : n = 0 := by simpa [Option.mem_def.1 hn] using hl
      obtain rfl := List.length_eq_zero_iff.1 (Nat.le_zero.1 hmax)
      cases l.reshaping.casing? with
      | none => exact Nat.le_refl 0
      | some k => cases k <;> exact Nat.le_refl 0
    · rw [Option.isSome_eq_false_iff, Option.isNone_iff_eq_none] at hl
      rw [hl]
      exact hmax

end Limits

/-! ## Plain texts -/

namespace Template.IsPlain

variable {s : List Char}

protected theorem inCase (hs : IsPlain s) (k : Option LetterCase) : IsPlain (inCase k s) :=
  match k with
  | none => hs
  | some .upper => hs.upperCase
  | some .lower => hs.lowerCase

/-- Only the case counts that a plain text is put into last. -/
theorem inCase_inCase (hs : IsPlain s) (k j : Option LetterCase) :
    inCase k (inCase j s) = inCase (k.or j) s :=
  match k, j with
  | none, _ | some .upper, none | some .lower, none => rfl
  | some .upper, some .upper => inCase_inCase_self (some .upper) s
  | some .lower, some .lower => inCase_inCase_self (some .lower) s
  | some .upper, some .lower => hs.upperCase_lowerCase
  | some .lower, some .upper => hs.lowerCase_upperCase

/-- Of all that reshaping does, only the change of case changes a plain text. -/
theorem apply_eq (hs : IsPlain s) (r : Reshaping) :
    r.apply (String.ofList s) = String.ofList (inCase r.casing? s) := by
  have hstrip : (if r.strip = some true then trim whiteSpace s else s) = s := by
    split
    · exact hs.trimmed
    · rfl
  rw [Reshaping.apply, String.toList_ofList]
  rw [hstrip, Reshaping.casing?]
  split_ifs with hupper hlower
  · exact congrArg String.ofList hs.lowerCase_upperCase
  all_goals rfl

theorem length_inCase (hs : IsPlain s) (k : Option LetterCase) :
    (inCase k s).length = s.length :=
  match k with
  | none => rfl
  | some .upper => hs.length_upperCase
  | some .lower => hs.length_lowerCase

end Template.IsPlain

/-! ## Constraints one by one -/

namespace Constraint

open Template

variable {c : Constraint} {cs : List Constraint} {schema : String} {s : List Char} {w : Value}

theorem check_reshape_text {r : Reshaping} {s : String} :
    (reshape r).check schema (.text s) = .ok (.text (r.apply s)) := rfl

theorem checkSize_text {holds : Nat → Bool} {reason : Nat → Reason} {s : String} :
    c.checkSize holds reason (.text s) = .ok w ↔ holds s.length = true ∧ w = .text s := by
  change (if holds s.length then Except.ok (Value.text s) else _) = _ ↔ _
  split
  · rename_i h
    exact ⟨fun hw => ⟨h, (Except.ok.inj hw).symm⟩, fun hw => hw.2 ▸ rfl⟩
  · rename_i h
    exact iff_of_false nofun fun hw => h hw.1

theorem check_multipleOf {m : Number} :
    (multipleOf m).check schema (.text (String.ofList s)) = .ok w ↔
      FillsEmpty m s ∧ w = .text (String.ofList s) := by
  rw [FillsEmpty, check]
  unfold checkMultiple
  dsimp only [Value.atom?]
  -- Only of what is filled with nothing there is no rest.
  cases fill (String.ofList s) m with
  | error e => exact iff_of_false (fun hw => by cases hw) fun hw => by cases hw.1
  | ok empty =>
    cases empty with
    | false => exact iff_of_false (fun hw => by cases hw) fun hw => by cases hw.1
    | true => exact ⟨fun hw => ⟨rfl, (Except.ok.inj hw).symm⟩, fun hw => hw.2 ▸ rfl⟩

/-- Of the constraints that the type does not check itself, a text meets one on multiples, if it is
    a template of which nothing comes. That infinity and NaN are allowed is no such constraint. -/
theorem exists_multipleOf (hc : (TypeExpr.plain .str).checks c = false) (hne : c ≠ allowInfNan true)
    (hw : c.check schema (.text (String.ofList s)) = .ok w) :
    ∃ m, c = multipleOf m ∧ FillsEmpty m s ∧ w = .text (String.ofList s) := by
  cases c with
  | multipleOf m => exact ⟨m, rfl, check_multipleOf.1 hw⟩
  | minLength | maxLength | reshape => cases hc
  | allowInfNan allowed =>
    cases allowed with
    | true => exact absurd rfl hne
    | false => cases hw
  | _ => cases hw

/-- The case that the constraint puts a text into. -/
def casing? : Constraint → Option LetterCase
  | reshape r => r.casing?
  | _ => none

/-- The case that constraints put a text into last. -/
def lastCasing? : List Constraint → Option LetterCase
  | [] => none
  | c :: cs => (lastCasing? cs).or c.casing?

theorem lastCasing?_multipleOf {m : Number} :
    lastCasing? (multipleOf m :: cs) = lastCasing? cs := Option.or_none

theorem check_plain (hs : IsPlain s) (hw : c.check schema (.text (String.ofList s)) = .ok w) :
    w = .text (String.ofList (inCase c.casing? s)) := by
  cases c with
  | reshape r => exact (Except.ok.inj hw).symm.trans (congrArg Value.text (hs.apply_eq r))
  | _ => exact eq_of_check rfl hw

/-- What a plain text is asked holds in lower case as well. -/
theorem check_lowerCase (hs : IsPlain s) (hw : c.check schema (.text (String.ofList s)) = .ok w) :
    c.check schema (.text (String.ofList (lowerCase s))) =
      .ok (.text (String.ofList (inCase (c.casing?.or (some .lower)) s))) := by
  have hsize : (String.ofList (lowerCase s)).length = (String.ofList s).length := by
    rw [String.length_ofList, String.length_ofList, hs.length_lowerCase]
  cases c with
  | reshape r =>
    rw [check_reshape_text, hs.lowerCase.apply_eq]
    exact congrArg (Except.ok <| Value.text <| String.ofList ·) (hs.inCase_inCase _ (some .lower))
  | minLength n | maxLength n =>
    rw [check] at hw ⊢
    exact checkSize_text.2 ⟨hsize.symm ▸ (checkSize_text.1 hw).1, rfl⟩
  | multipleOf m => exact check_multipleOf.2 ⟨(check_multipleOf.1 hw).1.lowerCase, rfl⟩
  | allowInfNan allowed =>
    cases allowed with
    | true => rfl
    | false => cases hw
  | _ => cases hw

/-- Of all that constraints do to a plain text, only the last change of case counts. -/
theorem checkAll_plain (hs : IsPlain s)
    (hw : checkAll schema cs (.text (String.ofList s)) = .ok w) :
    w = .text (String.ofList (inCase (lastCasing? cs) s)) := by
  induction cs generalizing schema s with
  | nil => exact (Except.ok.inj hw).symm
  | cons c cs ih =>
    obtain ⟨x, hx, hw⟩ := checkAll_cons.1 hw
    obtain rfl := check_plain hs hx
    rw [ih (hs.inCase _) hw, hs.inCase_inCase, lastCasing?]

/-- Constraints that a plain text meets are met in lower case as well. -/
theorem checkAll_lowerCase (hs : IsPlain s)
    (hw : checkAll schema cs (.text (String.ofList s)) = .ok w) :
    checkAll schema cs (.text (String.ofList (lowerCase s))) =
      .ok (.text (String.ofList (inCase ((lastCasing? cs).or (some .lower)) s))) := by
  induction cs generalizing schema s with
  | nil => rfl
  | cons c cs ih =>
    obtain ⟨x, hx, hw⟩ := checkAll_cons.1 hw
    obtain rfl := check_plain hs hx
    refine checkAll_cons.2 ⟨_, check_lowerCase hs hx, ?_⟩
    rw [lastCasing?]
    cases hcase : c.casing? with
    | none =>
      rw [hcase] at hw
      rw [Option.or_none]
      exact ih hs hw
    | some k =>
      -- Once the case is changed, it does not count any more what it was before.
      rw [hcase] at hw
      have hlast := checkAll_plain (hs.inCase (some k)) hw
      rw [hs.inCase_inCase] at hlast
      rw [Option.or_assoc, Option.some_or, ← hlast]
      exact hw

end Constraint

/-! ## Types of texts -/

open Constraint Template

/-- Is a text that is converted under the constraints converted to itself? If the type checks all of
    them, the text must not outgrow them. After a constraint on multiples it is a template, and must
    not be left in upper case, unless it is put into lower case first. -/
def textSettles (cs : List Constraint) : Bool :=
  let own := Limits.ofConstraints (cs.takeWhile (TypeExpr.plain .str).checks)
  match cs.dropWhile (TypeExpr.plain .str).checks with
  | [] => !own.mayOutgrow
  | .multipleOf _ :: rest =>
    own.reshaping.casing? = some .lower || lastCasing? rest ≠ some .upper
  | _ => true

/-- Limits that reshape a text to a template do not put it into upper case, and the template is as
    they ask for. -/
theorem Limits.reshape_template {l : Limits} {s : String} {t : List Char} {m : Number}
    (hs : l.reshape s = .ok (String.ofList t)) (ht : FillsEmpty m t) :
    l.KeptBySize t.length ∧
      (l.reshaping.casing? = none ∨ l.reshaping.casing? = some .lower ∧ lowerCase t = t) := by
  obtain ⟨hsize, hform⟩ := reshape_eq_ok.1 hs
  replace hform := String.ofList_injective hform
  cases hcase : l.reshaping.casing? with
  | none =>
    rw [hcase] at hform
    exact ⟨hform ▸ hsize, .inl rfl⟩
  | some k =>
    rw [hcase] at hform
    subst hform
    cases k with
    | upper => exact absurd (fun _ => isUpper_of_mem_upperCase) ht.not_upper
    | lower =>
      -- A template has no dot above a letter, so that no character became two.
      have hdot : '\u0307' ∉ lowerCase (l.stripped s.toList) := fun hd =>
        special_not_mem_plainChars.2 (ht.isPlain.mem _ hd)
      exact ⟨length_lowerFrom hdot ▸ hsize, .inr ⟨rfl, inCase_inCase_self (some .lower) _⟩⟩

/-- What limits and constraints make of a template, they make of it again. -/
theorem checkAll_template_again {l : Limits} {s : String} {t : List Char} {m : Number}
    {rest : List Constraint} {schema : String} {w : Value} (ht : FillsEmpty m t)
    (hs : l.reshape s = .ok (String.ofList t))
    (hcase : l.reshaping.casing? = some .lower ∨ lastCasing? rest ≠ some .upper)
    (hw : checkAll schema (.multipleOf m :: rest) (.text (String.ofList t)) = .ok w) :
    ∃ u u', w = .text u ∧ l.reshape u = .ok u' ∧
      checkAll schema (.multipleOf m :: rest) (.text u') = .ok w := by
  have hplain := ht.isPlain
  obtain ⟨hsize, hown⟩ := Limits.reshape_template hs ht
  -- In any case the template is stripped and measured as before.
  have hreshape (k : Option LetterCase) : l.reshape (String.ofList (inCase k t)) =
      .ok (String.ofList (inCase (l.reshaping.casing?.or k) t)) := by
    rw [Limits.reshape_eq_ok, String.toList_ofList, Limits.stripped_eq_self (hplain.inCase k).trimmed,
      hplain.length_inCase, hplain.inCase_inCase]
    exact ⟨hsize, rfl⟩
  have hlast : w = .text (String.ofList (inCase (lastCasing? rest) t)) := by
    have hlast := checkAll_plain hplain hw
    rwa [lastCasing?_multipleOf] at hlast
  refine ⟨_, _, hlast, hreshape _, ?_⟩
  rcases hown with hnone | ⟨hlower, hself⟩
  · rw [hnone, Option.none_or]
    cases hrest : lastCasing? rest with
    | none => exact hw
    | some k =>
      cases k with
      | upper => exact (hcase.elim (fun h => nomatch hnone.symm.trans h) fun h => h hrest).elim
      | lower =>
        have hagain := checkAll_lowerCase hplain hw
        rw [lastCasing?_multipleOf, hrest] at hagain
        rw [hlast, hrest]
        exact hagain
  · -- The template is put into lower case first, in which it was.
    rw [hlower, Option.some_or]
    exact (congrArg (fun u => checkAll schema _ (.text (String.ofList u))) hself).trans hw

section Conversion

open Converted

variable {cs : List Constraint} {s : String} {w : Value}

theorem convert_text_eq_ok :
    (convert (.plain .str) cs (.text s)).result = .ok w ↔
      ∃ t, (Limits.ofConstraints (cs.takeWhile (TypeExpr.plain .str).checks)).reshape s = .ok t ∧
        checkAll "str" (cs.dropWhile (TypeExpr.plain .str).checks) (.text t) = .ok w := by
  have hown {l : Limits} {v : Value} : (convertPlain .str l (.text s)).result = .ok v ↔
      ∃ t, l.reshape s = .ok t ∧ v = .text t := by
    constructor
    · intro hv
      obtain ⟨t, ht, hv⟩ := bind_result_eq_ok.1 hv
      obtain rfl : s = t := Except.ok.inj ht
      obtain ⟨s', hs', hv⟩ := bind_result_eq_ok.1 hv
      exact ⟨s', ofReason_result_eq_ok.1 hs', (pure_result_eq_ok.1 hv).symm⟩
    · rintro ⟨s', hs', rfl⟩
      exact bind_result_eq_ok.2 ⟨s, rfl, bind_result_eq_ok.2 ⟨s', ofReason_result_eq_ok.2 hs', rfl⟩⟩
  rw [convert, TypeExpr.within_result_eq_ok]
  simp only [hown]
  exact ⟨fun ⟨_, ⟨t, ht, hv⟩, hw⟩ => ⟨t, ht, hv ▸ hw⟩, fun ⟨t, ht, hw⟩ => ⟨_, ⟨t, ht, rfl⟩, hw⟩⟩

/-- A text that is converted under constraints that settle is converted to itself, if the conversion
    is one that can be built. -/
theorem convert_text_again (hbuilt : (TypeExpr.plain .str).inapplicable? cs = none)
    (hcs : textSettles cs = true) (hw : (convert (.plain .str) cs (.text s)).result = .ok w) :
    (convert (.plain .str) cs w).result = .ok w := by
  obtain ⟨t, ht, hrun⟩ := convert_text_eq_ok.1 hw
  obtain ⟨t, rfl⟩ : ∃ u, t = String.ofList u := ⟨t.toList, String.ofList_toList.symm⟩
  have hhead := List.head?_dropWhile_not (TypeExpr.plain .str).checks cs
  rw [TypeExpr.inapplicable?] at hbuilt
  unfold textSettles at hcs
  cases hrest : cs.dropWhile (TypeExpr.plain .str).checks with
  | nil =>
    rw [hrest] at hcs hrun
    obtain rfl := Except.ok.inj hrun
    rw [convert_text_eq_ok, hrest]
    exact ⟨_, Limits.reshape_again (Bool.not_eq_true' _ ▸ hcs) ht, rfl⟩
  | cons c rest =>
    rw [hrest] at hcs hhead hbuilt hrun
    obtain ⟨x, hx, -⟩ := checkAll_cons.1 hrun
    -- The first of the other constraints can only be one on multiples, and the text a template.
    have hne : c ≠ .allowInfNan true := by
      rintro rfl
      cases hbuilt
    obtain ⟨m, rfl, hfills, -⟩ := exists_multipleOf hhead hne hx
    have hcase := (Bool.or_eq_true _ _ ▸ hcs).imp of_decide_eq_true of_decide_eq_true
    obtain ⟨u, u', rfl, hu, hrun⟩ := checkAll_template_again hfills ht hcase hrun
    rw [convert_text_eq_ok, hrest]
    exact ⟨u', hu, hrun⟩

end Conversion

end TypedHeaders
