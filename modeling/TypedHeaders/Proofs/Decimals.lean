import TypedHeaders.Proofs.BareTexts

/-!
# Decimals as they are written

A decimal is written with its sign, its digits, a point among or before them, and an
exponent, of which all but the digits may be missing (`Decimal.chars_eq`). Wherever the
point is put, what stands before it and after it stands for the same number as the
digits alone, since only zeros are filled in, and the exponent makes up for the digits
after the point (`Splits`). So the text is read as the decimal that it is written for
(`Decimal.parse_chars`), and no other decimal is written so.

* `Scientific.parse_written`: the parts of a number are read as they are written;
* `Tag.cast_decimal`: a decimal that is cast from a text is cast again from its own.
-/

namespace TypedHeaders

namespace Numeral

/-! ## The parts -/

/-- Digits after a point, which is not written if there are none. -/
def afterPoint : List Char → List Char
  | [] => []
  | ds => '.' :: ds

theorem fractionWritten_afterPoint {fraction : List Char}
    (hfraction : ∀ c ∈ fraction, c.isDigit = true) :
    Scientific.FractionWritten (afterPoint fraction) (fraction.map digitValue) := by
  cases fraction with
  | nil => exact .none
  | cons c fraction =>
    exact .point (AreDigits.of_forall fun c hc => digit?_of_isDigit (hfraction c hc))

/-- A number in scientific notation is read part by part as it is written. -/
theorem Scientific.parse_written {sign whole fraction rest : List Char} {negative : Bool} {e : Int}
    (hsign : IsSign sign negative) (hne : whole ≠ [])
    (hdigits : ∀ c ∈ whole ++ fraction, c.isDigit = true) (hrest : ExponentWritten rest e) :
    parse (sign ++ (whole ++ (afterPoint fraction ++ rest))) =
      some ⟨negative, (whole ++ fraction).map digitValue, e - fraction.length⟩ := by
  have hwhole : AreDigits Text.digit? whole (whole.map digitValue) :=
    AreDigits.of_forall fun c hc => digit?_of_isDigit (hdigits c (List.mem_append_left _ hc))
  have hfraction := fractionWritten_afterPoint fun c hc =>
    hdigits c (List.mem_append_right whole hc)
  have htext := Written.intro hsign hwhole hfraction (by simp [hne]) hrest
  rwa [← List.map_append, List.length_map, ← parse_eq_some_iff] at htext

theorem isSign_exponent (e : Int) : IsSign [if e < 0 then '-' else '+'] (decide (e < 0)) := by
  by_cases he : e < 0
  · rw [if_pos he, decide_eq_true he]
    exact .minus
  · rw [if_neg he, decide_eq_false he]
    exact .plus

/-- An exponent is written with its sign, of either kind, and its digits. -/
theorem exponentWritten_exponentPart (e : Int) :
    Scientific.ExponentWritten (Decimal.exponentPart e) e := by
  have hdigits : AreDigits Text.digit? (digits e.natAbs) ((digits e.natAbs).map digitValue) :=
    AreDigits.of_forall fun _ hc => digit?_of_isDigit (isDigit_of_mem_digits hc)
  have hne : (digits e.natAbs).map digitValue ≠ [] := fun h =>
    Nat.toDigits_ne_nil (List.map_eq_nil_iff.1 h)
  have htext := Scientific.ExponentWritten.some (.inr rfl) (isSign_exponent e) hdigits hne
  rwa [ofDigits_digits, signed_natAbs] at htext

/-- After its sign the text starts with a digit or with a point, so that it is no name, of infinity
    or of NaN, with a sign or without. -/
def StartsNumber (s : List Char) : Prop :=
  ∃ c, (takeSign s).2.head? = some c ∧ ((Text.digit? c).isSome = true ∨ c = '.')

theorem Scientific.startsNumber_of_parse {s : List Char} {x : Scientific}
    (h : Scientific.parse s = some x) : StartsNumber s := by
  simp only [parse] at h
  cases hrest : (takeSign s).2 with
  | nil =>
    rw [hrest] at h
    cases h
  | cons c rest =>
    refine ⟨c, by rw [hrest]; rfl, ?_⟩
    -- Without a digit and without a point no digits at all are taken from the text.
    by_contra! hnone
    obtain ⟨hdigit, hpoint⟩ := hnone
    have hspan : spanDigits Text.digit? (c :: rest) = ([], c :: rest) := by
      rw [spanDigits, Option.not_isSome_iff_eq_none.1 hdigit]
    have hfraction : takeFraction (c :: rest) = ([], c :: rest) := by
      unfold takeFraction
      split
      · exact absurd (List.cons.inj ‹_›).1 hpoint
      · rfl
    rw [hrest, hspan] at h
    simp [hfraction] at h

/-! ## Placing the point -/

/-- The digits with a point before the last `places` of them, as what stands before the point and
    what stands after it. Zeros are filled in where there are too few digits. -/
structure Splits (ds : List Char) (places : Int) (whole fraction : List Char) : Prop where
  ne_nil : whole ≠ []
  isDigit : ∀ c ∈ whole ++ fraction, c.isDigit = true
  length : (fraction.length : Int) = places
  value : ofDigits ((whole ++ fraction).map digitValue) = ofDigits (ds.map digitValue)

/-- Zeros before digits do not count. -/
theorem ofDigits_zeros (n : Nat) (ds : List Nat) :
    ofDigits (List.replicate n 0 ++ ds) = ofDigits ds := by
  induction n with
  | zero => rfl
  | succ n ih =>
    rw [List.replicate_succ, List.cons_append]
    exact ih

theorem exists_placePoint {ds : List Char} {place : Int} (hds : ∀ c ∈ ds, c.isDigit = true)
    (hne : ds ≠ []) (hplace : place ≤ ds.length) :
    ∃ whole fraction, placePoint ds place = whole ++ afterPoint fraction ∧
      Splits ds (ds.length - place) whole fraction := by
  by_cases hpos : place ≤ 0
  · -- The point stands before all digits, and zeros between.
    refine ⟨['0'], List.replicate (-place).toNat '0' ++ ds, ?_, List.cons_ne_nil _ _, ?_, ?_, ?_⟩
    · have hsome : List.replicate (-place).toNat '0' ++ ds ≠ [] := by simp [hne]
      obtain ⟨c, rest, hrest⟩ := List.exists_cons_of_ne_nil hsome
      rw [placePoint, if_pos hpos, hrest]
      rfl
    · intro c hc
      rw [List.mem_append, List.mem_append] at hc
      rcases hc with hc | hc | hc
      · rw [List.mem_singleton.1 hc]
        rfl
      · rw [List.eq_of_mem_replicate hc]
        rfl
      · exact hds c hc
    · rw [List.length_append, List.length_replicate]
      omega
    · have hzeros : (['0'] ++ (List.replicate (-place).toNat '0' ++ ds)).map digitValue =
          List.replicate ((-place).toNat + 1) 0 ++ ds.map digitValue := by
        rw [List.replicate_succ]
        simp [digitValue]
      rw [hzeros, ofDigits_zeros]
  · by_cases hall : ds.length ≤ place.toNat
    · -- All digits stand before the point, which is not written.
      obtain rfl : place = ds.length := by omega
      refine ⟨ds, [], ?_, hne, ?_, ?_, ?_⟩
      · rw [placePoint, if_neg hpos, if_pos hall]
        simp [afterPoint]
      · simpa using hds
      · simp
      · simp
    · -- The point stands among the digits, with one of them or more on either side.
      refine ⟨ds.take place.toNat, ds.drop place.toNat, ?_, ?_, ?_, ?_, ?_⟩
      · have hsome : ds.drop place.toNat ≠ [] := by simpa using Nat.lt_of_not_le hall
        obtain ⟨c, rest, hrest⟩ := List.exists_cons_of_ne_nil hsome
        rw [placePoint, if_neg hpos, if_neg hall, hrest]
        rfl
      · simp [hne]
        omega
      · rwa [List.take_append_drop]
      · rw [List.length_drop]
        omega
      · rw [List.take_append_drop]

/-! ## Decimals -/

namespace Decimal

/-- The sign of a decimal. -/
def signChars (d : Decimal) : List Char := if d.negative then ['-'] else []

theorem isSign_signChars (d : Decimal) : IsSign d.signChars d.negative := by
  rw [signChars]
  cases d.negative with
  | false => exact .none
  | true => exact .minus

/-- What is written after the digits for an exponent: nothing is for zero. -/
inductive ExponentText : List Char → Int → Prop
  | none : ExponentText [] 0
  | some (e : Int) : ExponentText (exponentPart e) e

theorem ExponentText.written {rest : List Char} {e : Int} (h : ExponentText rest e) :
    Scientific.ExponentWritten rest e := by
  cases h with
  | none => exact .none
  | some => exact exponentWritten_exponentPart e

/-- The parts that a decimal is written with. -/
theorem chars_eq (d : Decimal) :
    ∃ whole fraction rest e,
      d.chars = d.signChars ++ (whole ++ (afterPoint fraction ++ rest)) ∧
      Splits (digits d.coefficient) (e - d.exponent) whole fraction ∧ ExponentText rest e := by
  have hdigits : ∀ c ∈ digits d.coefficient, c.isDigit = true := fun _ => isDigit_of_mem_digits
  have hne : digits d.coefficient ≠ [] := Nat.toDigits_ne_nil
  have hpos := List.length_pos_iff.2 hne
  have hchars : d.chars = d.signChars ++
      if d.exponent ≤ 0 ∧ -6 < d.exponent + (digits d.coefficient).length then
        placePoint (digits d.coefficient) (d.exponent + (digits d.coefficient).length)
      else
        placePoint (digits d.coefficient) 1 ++
          exponentPart (d.exponent + (digits d.coefficient).length - 1) := rfl
  by_cases hpositional : d.exponent ≤ 0 ∧ -6 < d.exponent + (digits d.coefficient).length
  · have hplace : d.exponent + (digits d.coefficient).length ≤ (digits d.coefficient).length := by
      omega
    obtain ⟨whole, fraction, hparts, hsplits⟩ := exists_placePoint hdigits hne hplace
    refine ⟨whole, fraction, [], 0, ?_, ?_, .none⟩
    · rw [hchars, if_pos hpositional, hparts, List.append_nil]
    · convert hsplits using 1
      omega
  · have hplace : (1 : Int) ≤ (digits d.coefficient).length := by omega
    obtain ⟨whole, fraction, hparts, hsplits⟩ := exists_placePoint hdigits hne hplace
    refine ⟨whole, fraction, exponentPart (d.exponent + (digits d.coefficient).length - 1),
      d.exponent + (digits d.coefficient).length - 1, ?_, ?_, .some _⟩
    · rw [hchars, if_neg hpositional, hparts, List.append_assoc]
    · convert hsplits using 1
      omega

/-- What is written for a decimal is read as that decimal. -/
theorem parse_chars (d : Decimal) : (Scientific.parse d.chars).map ofScientific = some d := by
  obtain ⟨whole, fraction, rest, e, hchars, hsplits, hrest⟩ := chars_eq d
  have hexponent : e - fraction.length = d.exponent := by
    have := hsplits.length
    omega
  have hparse := Scientific.parse_written d.isSign_signChars hsplits.ne_nil hsplits.isDigit
    hrest.written
  rw [hchars, hparse, hexponent]
  simp only [Option.map_some, ofScientific, hsplits.value, ofDigits_digits]

/-- Different decimals are written differently. -/
theorem text_injective : Function.Injective text := by
  intro d d' h
  have hchars : d.chars = d'.chars := String.ofList_inj.1 h
  have hparse := parse_chars d
  rw [hchars, parse_chars d'] at hparse
  exact (Option.some.inj hparse).symm

end Decimal

end Numeral

open Numeral

/-! ## Casting decimals -/

namespace Cast

variable {raw : String} {d : Decimal}

/-- A decimal is cast from the texts that write it, if it is within the range of exponents. -/
theorem toDecimal_eq_ok_iff :
    toDecimal raw = .ok d ↔
      ∃ x, Scientific.parse raw.toList = some x ∧ Decimal.ofScientific x = d ∧ d.inRange = true := by
  constructor
  · intro h
    rw [toDecimal] at h
    split at h
    · cases h
    · split at h
      · rename_i d' hd'
        obtain rfl := Except.ok.inj h
        obtain ⟨hparse, hrange⟩ := Option.filter_eq_some_iff.1 hd'
        obtain ⟨x, hx, hwritten⟩ := Option.map_eq_some_iff.1 hparse
        exact ⟨x, hx, hwritten, hrange⟩
      · cases h
  · rintro ⟨x, hx, rfl, hrange⟩
    have hbare := isBare_iff.2 (Scientific.written_of_parse hx).isBareText
    have hparse : Decimal.parse raw.toList = some (Decimal.ofScientific x) := by
      rw [Decimal.parse, hx]
      exact Option.filter_some_pos hrange
    rw [toDecimal, if_neg (by simp [hbare])]
    simp only [hparse]

theorem toDecimal_text (hd : d.inRange = true) : toDecimal d.text = .ok d := by
  obtain ⟨x, hx, hwritten⟩ := Option.map_eq_some_iff.1 d.parse_chars
  refine toDecimal_eq_ok_iff.2 ⟨x, ?_, hwritten, hd⟩
  rwa [Decimal.text, String.toList_ofList]

end Cast

/-- A decimal that is cast from a text is finite: its exponents are in range, and the text names no
    infinity and no NaN. It is the decimal that the text writes, with nothing rounded, and it is
    cast again from what is written for it, with its sign, its coefficient and its exponent. No two
    decimals are written alike, whatever their exponents. -/
theorem Tag.cast_decimal :
    (∀ (raw : String) (a : Atom), Tag.decimal.cast raw = .ok a →
      ∃ d : Decimal, a = .number (.decimal d) ∧ d.inRange = true ∧ StartsNumber raw.toList ∧
        (Scientific.parse raw.toList).map Decimal.ofScientific = some d ∧
        Tag.decimal.cast a.plain = .ok (.number (.decimal d))) ∧
    ∀ d d' : Decimal, d.text = d'.text → d = d' := by
  refine ⟨fun raw a ha => ?_, fun d d' h => Decimal.text_injective h⟩
  rw [Tag.cast, map_eq_ok] at ha
  obtain ⟨d, hd, rfl⟩ := ha
  obtain ⟨x, hx, hwritten, hrange⟩ := Cast.toDecimal_eq_ok_iff.1 hd
  refine ⟨d, rfl, hrange, Scientific.startsNumber_of_parse hx, ?_, ?_⟩
  · rw [hx, Option.map_some, hwritten]
  · change Tag.decimal.cast d.text = _
    rw [Tag.cast, Cast.toDecimal_text hrange]
    rfl

/-- Zeros at the end and the sign of zero are kept; a number that is written with an exponent may be
    written with another one; and decimals of equal value are not written alike. -/
theorem Tag.cast_decimal_zeros :
    (Tag.decimal.cast "-0.00" = .ok (.number (.decimal ⟨true, 0, -2⟩)) ∧
      Decimal.text ⟨true, 0, -2⟩ = "-0.00") ∧
    (Tag.decimal.cast "12.0e4" = .ok (.number (.decimal ⟨false, 120, 3⟩)) ∧
      Decimal.text ⟨false, 120, 3⟩ = "1.20E+5" ∧
      Tag.decimal.cast "1.20E+5" = .ok (.number (.decimal ⟨false, 120, 3⟩))) ∧
    Decimal.text ⟨false, 120, 3⟩ ≠ Decimal.text ⟨false, 12, 4⟩ := by
  have hzero : Tag.decimal.cast "-0.00" = .ok (.number (.decimal ⟨true, 0, -2⟩)) := by
    decide +kernel
  have hexponent : Tag.decimal.cast "12.0e4" = .ok (.number (.decimal ⟨false, 120, 3⟩)) := by
    decide +kernel
  have htext : Decimal.text ⟨false, 120, 3⟩ = "1.20E+5" := by decide +kernel
  obtain ⟨d, hd, -, -, -, hagain⟩ := Tag.cast_decimal.1 _ _ hexponent
  refine ⟨⟨hzero, by decide +kernel⟩, ⟨hexponent, htext, ?_⟩, fun h => ?_⟩
  · rw [← hd] at hagain
    exact htext ▸ hagain
  · exact absurd (Tag.cast_decimal.2 _ _ h) (by decide)

end TypedHeaders
