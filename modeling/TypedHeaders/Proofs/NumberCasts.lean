import TypedHeaders.Proofs.Comparison
import TypedHeaders.Proofs.Decimals

/-!
# One text as numbers of several kinds

The casts to numbers agree where more than one of them has a result, and each of them
takes what the one before takes (`Tag.casts_agree`):

* the text of an integer, unless a line feed ends it, is a number in scientific notation
  without a point and without an exponent, so it is cast to a decimal of the same value;
* a decimal is cast from the numbers in scientific notation with exponents in range
  (`Cast.toDecimal_eq_ok_iff`), and a float from all of them, as the one that is nearest;
* beside these a float is cast from the names of infinity and of NaN only
  (`Cast.exists_toFloat_iff`), which are no decimals: a name has no digits.
-/

namespace TypedHeaders

open Numeral

namespace Numeral.Binary64

/-! ## Names -/

/-- The text names infinity or NaN, in any mixture of cases, after a sign or none. -/
inductive IsName : List Char → Prop
  | intro {sign name : List Char} {negative : Bool} (hsign : IsSign sign negative)
    (hname : name.map Char.toLower ∈ ["inf".toList, "infinity".toList, "nan".toList]) :
    IsName (sign ++ name)

/-- The letters of the names, in both cases. -/
def nameLetters : List Char :=
  ['i', 'n', 'f', 't', 'y', 'a', 'I', 'N', 'F', 'T', 'Y', 'A']

theorem mem_nameLetters {c : Char} (hc : c.toLower ∈ nameLetters) : c ∈ nameLetters := by
  by_cases hupper : 'A'.toNat ≤ c.toNat ∧ c.toNat ≤ 'Z'.toNat
  · have hall : ∀ n ∈ List.range' 'A'.toNat 26, (Char.ofNat n).toLower ∈ nameLetters →
        Char.ofNat n ∈ nameLetters := by decide
    have hmem : c.toNat ∈ List.range' 'A'.toNat 26 :=
      List.mem_range'_1.2 ⟨hupper.1, Nat.lt_succ_of_le hupper.2⟩
    have hletter := hall c.toNat hmem
    rw [Char.ofNat_toNat] at hletter
    exact hletter hc
  · have hself : c.toLower = c := dif_neg hupper
    rwa [hself] at hc

variable {s name : List Char}

theorem mem_nameLetters_of_name
    (hname : name.map Char.toLower ∈ ["inf".toList, "infinity".toList, "nan".toList]) {c : Char}
    (hc : c ∈ name) : c ∈ nameLetters := by
  have hall : ["inf".toList, "infinity".toList, "nan".toList].all
      (fun t => t.all nameLetters.contains) = true := by decide
  have hletter := List.all_eq_true.1 (List.all_eq_true.1 hall _ hname) _ (List.mem_map_of_mem hc)
  exact mem_nameLetters (List.contains_iff_mem.1 hletter)

/-- A letter of a name is no sign, no digit and no point, and it does not set digits apart. -/
theorem of_mem_nameLetters {c : Char} (hc : c ∈ nameLetters) :
    (c ≠ '-' ∧ c ≠ '+') ∧ Text.digit? c = none ∧ c ≠ '.' ∧ isSpacer c = false := by
  have hall : nameLetters.all (fun c => ((c != '-' && c != '+') && (Text.digit? c).isNone &&
      c != '.' && !isSpacer c)) = true := by decide
  have hletter := List.all_eq_true.1 hall c hc
  simpa [and_assoc] using hletter

theorem takeSign_name {sign : List Char} {negative : Bool} (hsign : IsSign sign negative)
    (hname : name.map Char.toLower ∈ ["inf".toList, "infinity".toList, "nan".toList]) :
    takeSign (sign ++ name) = (negative, name) :=
  takeSign_append hsign fun _ hc =>
    (of_mem_nameLetters (mem_nameLetters_of_name hname (List.mem_of_mem_head? hc))).1

/-- Just the names are read as such. -/
theorem ofName?_isSome_iff : (ofName? s).isSome = true ↔ IsName s := by
  constructor
  · intro h
    obtain ⟨sign, hsign, hs⟩ := exists_sign s
    rw [hs]
    refine .intro hsign ?_
    simp only [ofName?] at h
    split at h
    · rename_i hinfinite
      rcases hinfinite with hname | hname <;> simp [hname]
    · split at h
      · rename_i hname
        simp [hname]
      · cases h
  · rintro ⟨hsign, hname⟩
    simp only [ofName?, takeSign_name hsign hname]
    split
    · rfl
    · rename_i hfinite
      simp only [List.mem_cons, List.not_mem_nil, or_false, ← or_assoc] at hname
      rw [if_pos (hname.resolve_left hfinite)]
      rfl

theorem IsName.isBareText (h : IsName s) : IsBareText s := by
  obtain ⟨hsign, hname⟩ := h
  refine .of_forall fun c hc => ?_
  rcases List.mem_append.1 hc with hc | hc
  · exact isSpacer_of_mem (List.mem_append_left ['.', 'e', 'E'] (hsign.mem hc))
  · exact (of_mem_nameLetters (mem_nameLetters_of_name hname hc)).2.2.2

/-- A name is no number in scientific notation, since it does not start with a digit or a point. -/
theorem IsName.parse_eq_none (h : IsName s) : Scientific.parse s = none := by
  rw [Option.eq_none_iff_forall_not_mem]
  intro x hx
  obtain ⟨c, hhead, hc⟩ := Scientific.startsNumber_of_parse hx
  obtain ⟨hsign, hname⟩ := h
  rw [takeSign_name hsign hname] at hhead
  obtain ⟨-, hdigit, hpoint, -⟩ :=
    of_mem_nameLetters (mem_nameLetters_of_name hname (List.mem_of_mem_head? hhead))
  rcases hc with hc | hc
  · rw [hdigit] at hc
    cases hc
  · exact hpoint hc

end Numeral.Binary64

/-! ## Floats and decimals -/

/-- A number is out of range if it is too large, or if its exponent is too small. -/
theorem Numeral.Decimal.not_inRange_iff {d : Decimal} :
    ¬d.inRange = true ↔ maxAdjusted < d.adjusted ∨ d.exponent < minExponent := by
  simp only [inRange, Bool.and_eq_true, decide_eq_true_eq]
  omega

namespace Cast

variable {raw : String}

/-- A float is cast from every text that is read as one: none has spacers. -/
theorem toFloat_eq_ok_iff {y : Binary64} :
    toFloat raw = .ok y ↔ Binary64.parse raw.toList = some y := by
  constructor
  · intro h
    rw [toFloat] at h
    split at h
    · cases h
    · split at h
      · rename_i y' hy'
        rw [hy', Except.ok.inj h]
      · cases h
  · intro h
    have hbare : IsBareText raw.toList := by
      rw [Binary64.parse] at h
      split at h
      · rename_i x hx
        exact (Scientific.written_of_parse hx).isBareText
      · exact (Binary64.ofName?_isSome_iff.1 (Option.isSome_of_mem h)).isBareText
    rw [toFloat, if_neg (by simp [isBare_iff.2 hbare])]
    simp only [h]

/-- A number in scientific notation is cast to the nearest float, whatever its exponent. -/
theorem toFloat_of_parse {x : Scientific} (hx : Scientific.parse raw.toList = some x) :
    toFloat raw = .ok (Decimal.ofScientific x).toBinary := by
  rw [toFloat_eq_ok_iff, Binary64.parse, hx]
  rfl

theorem toFloat_of_toDecimal {d : Decimal} (hd : toDecimal raw = .ok d) :
    toFloat raw = .ok d.toBinary := by
  obtain ⟨x, hx, rfl, -⟩ := toDecimal_eq_ok_iff.1 hd
  exact toFloat_of_parse hx

/-- Floats are cast from the numbers in scientific notation and from the names. -/
theorem exists_toFloat_iff :
    (∃ y, toFloat raw = .ok y) ↔
      (∃ x, Scientific.Written raw.toList x) ∨ Binary64.IsName raw.toList := by
  simp only [toFloat_eq_ok_iff, ← Scientific.parse_eq_some_iff, ← Binary64.ofName?_isSome_iff,
    ← Option.isSome_iff_exists, Binary64.parse]
  cases Scientific.parse raw.toList <;> simp

/-- The decimals that are in range are those that are cast. -/
theorem exists_toDecimal_iff :
    (∃ d, toDecimal raw = .ok d) ↔
      ∃ x, Scientific.Written raw.toList x ∧ (Decimal.ofScientific x).inRange = true := by
  simp only [toDecimal_eq_ok_iff, Scientific.parse_eq_some_iff]
  constructor
  · rintro ⟨d, x, hx, rfl, hrange⟩
    exact ⟨x, hx, hrange⟩
  · rintro ⟨x, hx, hrange⟩
    exact ⟨_, x, hx, rfl, hrange⟩

/-! ## Integers -/

/-- The decimal of a sign and of digits has the value of the integer. -/
theorem toRat_eq_signedValue (negative : Bool) (digits : List Char) :
    Decimal.toRat ⟨negative, ofDigits (digits.map digitValue), 0⟩ =
      signedValue negative digits := by
  rw [signedValue, ofDigits_eq]
  cases negative with
  | false => rw [Decimal.toRat_of_not_negative, zpow_zero, mul_one]; simp
  | true => rw [Decimal.toRat_of_negative, zpow_zero, mul_one]; simp

/-- An integer that is cast, and no line feed after it, is cast to a decimal of the same value. -/
theorem toDecimal_of_toInt {n : Int} (hn : toInt raw = .ok n)
    (hend : raw.toList.getLast? ≠ some '\n') :
    ∃ d, toDecimal raw = .ok d ∧ d.exponent = 0 ∧ d.toRat = n := by
  have hwidth := width_of_toInt hn
  obtain ⟨negative, digits, htext, -, rfl⟩ := toInt_eq_ok_iff.1 hn
  have hwritten : Scientific.Written raw.toList ⟨negative, digits.map digitValue, 0⟩ := by
    generalize raw.toList = s at htext hend
    obtain ⟨hsign, hne, hdigits, hending⟩ := htext
    rcases hending with rfl | rfl
    · rw [List.append_nil]
      exact Scientific.written_integer hsign hne hdigits
    · exact absurd (by simp) hend
  refine ⟨⟨negative, ofDigits (digits.map digitValue), 0⟩, ?_, rfl, toRat_eq_signedValue _ _⟩
  refine toDecimal_eq_ok_iff.2 ⟨_, Scientific.parse_of_written hwritten, rfl, ?_⟩
  -- So few digits are far below the largest exponent.
  rw [natAbs_signedValue, ← ofDigits_eq] at hwidth
  have hle : width (ofDigits (digits.map digitValue)) ≤ 4300 := hwidth
  by_contra hrange
  have hrange := Decimal.not_inRange_iff.1 hrange
  simp only [Decimal.adjusted, Decimal.maxAdjusted, Decimal.minExponent] at hrange
  omega

end Cast

/-- The casts of one text to numbers of several kinds agree. An integer is cast to a decimal of the
    same value with exponent zero, and to a float, unless a line feed ends its text; a decimal is
    cast to the float that is nearest to it; and a text of a float that is not cast to a decimal
    names infinity or NaN, or it writes a number of which the exponent is out of range. -/
theorem Tag.casts_agree (raw : String) :
    (∀ n : Int, raw.toList.getLast? ≠ some '\n' → Tag.int.cast raw = .ok (.number (.int n)) →
      ∃ d : Decimal, Tag.decimal.cast raw = .ok (.number (.decimal d)) ∧ d.exponent = 0 ∧
        d.toRat = n ∧ Tag.float.cast raw = .ok (.number (.float d.toBinary))) ∧
    (∀ d : Decimal, Tag.decimal.cast raw = .ok (.number (.decimal d)) →
      Tag.float.cast raw = .ok (.number (.float d.toBinary))) ∧
    ((∃ a, Tag.float.cast raw = .ok a) ∧ (¬∃ a, Tag.decimal.cast raw = .ok a) ↔
      Binary64.IsName raw.toList ∨ ∃ x, Scientific.Written raw.toList x ∧
        (Decimal.maxAdjusted < (Decimal.ofScientific x).adjusted ∨
          x.exponent < Decimal.minExponent)) := by
  have hdecimal : ∀ d, Tag.decimal.cast raw = .ok (.number (.decimal d)) ↔
      Cast.toDecimal raw = .ok d := by simp [Tag.cast, map_eq_ok]
  have hfloat : ∀ y, Tag.float.cast raw = .ok (.number (.float y)) ↔
      Cast.toFloat raw = .ok y := by simp [Tag.cast, map_eq_ok]
  refine ⟨fun n hend hn => ?_, fun d hd => ?_, ?_⟩
  · have hn : Cast.toInt raw = .ok n := by simpa [Tag.cast, map_eq_ok] using hn
    obtain ⟨d, hd, hexponent, hvalue⟩ := Cast.toDecimal_of_toInt hn hend
    exact ⟨d, (hdecimal d).2 hd, hexponent, hvalue,
      (hfloat _).2 (Cast.toFloat_of_toDecimal hd)⟩
  · exact (hfloat _).2 (Cast.toFloat_of_toDecimal ((hdecimal d).1 hd))
  · have hfloats : (∃ a, Tag.float.cast raw = .ok a) ↔ ∃ y, Cast.toFloat raw = .ok y := by
      simp [Tag.cast, map_eq_ok]
    have hdecimals : (∃ a, Tag.decimal.cast raw = .ok a) ↔ ∃ d, Cast.toDecimal raw = .ok d := by
      simp [Tag.cast, map_eq_ok]
    simp only [hfloats, hdecimals, Cast.exists_toFloat_iff, Cast.exists_toDecimal_iff]
    constructor
    · rintro ⟨⟨x, hx⟩ | hname, hnone⟩
      · exact .inr ⟨x, hx, Decimal.not_inRange_iff.1 fun hrange => hnone ⟨x, hx, hrange⟩⟩
      · exact .inl hname
    · rintro (hname | ⟨x, hx, hrange⟩)
      · refine ⟨.inr hname, ?_⟩
        rintro ⟨x, hx, -⟩
        rw [← Scientific.parse_eq_some_iff, hname.parse_eq_none] at hx
        cases hx
      · refine ⟨.inl ⟨x, hx⟩, ?_⟩
        rintro ⟨x', hx', hrange'⟩
        -- A text writes one number only.
        rw [← Scientific.parse_eq_some_iff] at hx hx'
        obtain rfl := Option.some.inj (hx.symm.trans hx')
        exact Decimal.not_inRange_iff.2 hrange hrange'

/-- Zeros may come first; a decimal may be too large for a finite float; and infinity is a float by
    name, but no decimal. -/
theorem Tag.casts_agree_zeros_and_infinity :
    (Tag.int.cast "-007" = .ok (.number (.int (-7))) ∧
      ∃ d : Decimal, Tag.decimal.cast "-007" = .ok (.number (.decimal d)) ∧ d.exponent = 0 ∧
        d.toRat = ((-7 : Int) : ℚ) ∧ Tag.float.cast "-007" = .ok (.number (.float d.toBinary))) ∧
    (Tag.decimal.cast "1e400" = .ok (.number (.decimal ⟨false, 1, 400⟩)) ∧
      Tag.float.cast "1e400" = .ok (.number (.float (.infinite false)))) ∧
    Binary64.IsName "-Infinity".toList ∧ (∃ a, Tag.float.cast "-Infinity" = .ok a) ∧
      ¬∃ a, Tag.decimal.cast "-Infinity" = .ok a := by
  have hint : Tag.int.cast "-007" = .ok (.number (.int (-7))) := by decide +kernel
  have hdecimal : Tag.decimal.cast "1e400" = .ok (.number (.decimal ⟨false, 1, 400⟩)) := by
    decide +kernel
  have hname : Binary64.IsName "-Infinity".toList := Binary64.ofName?_isSome_iff.1 (by decide)
  exact ⟨⟨hint, (Tag.casts_agree _).1 _ (by decide) hint⟩,
    ⟨hdecimal, (Tag.casts_agree _).2.1 _ hdecimal⟩,
    hname, (Tag.casts_agree _).2.2.2 (.inl hname)⟩

end TypedHeaders
