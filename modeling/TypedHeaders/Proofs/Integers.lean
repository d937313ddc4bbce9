import TypedHeaders.Cast
import TypedHeaders.Proofs.Digits
import TypedHeaders.Proofs.Results

/-!
# Integers as they are written

An integer is written with a sign or none, and one digit or more, which are the ten
of ASCII; zeros may come first, and one line feed may follow (`IntegerText`). Just
these texts are cast to integers, unless they have more than 4300 digits, and the
integer is the one that the digits stand for in base ten.

* `Cast.intParts?_eq_some_iff`: the sign and the digits are those of the text;
* `Tag.cast_int`: which texts are cast to which integers.
-/

namespace TypedHeaders

open Numeral

namespace Numeral

/-- A digit string stands for a number in base ten, with the ones last. -/
theorem ofDigits_eq (ds : List Nat) : ofDigits ds = Nat.ofDigits 10 ds.reverse := by
  rw [Nat.ofDigits_eq_foldr, List.foldr_reverse, ofDigits]
  congr 1
  funext n d
  rw [Nat.cast_id, Nat.add_comm]

/-- The digits that a text starts with are read, and the rest is left. -/
theorem spanDigits_eq (s : List Char) :
    spanDigits Text.asciiDigit? s =
      ((s.takeWhile Char.isDigit).map digitValue, s.dropWhile Char.isDigit) := by
  have hdigits : ∀ c ∈ s.takeWhile Char.isDigit, Text.asciiDigit? c = some (digitValue c) :=
    fun c hc => asciiDigit?_of_isDigit (List.mem_takeWhile_imp hc)
  have hrest : ∀ c ∈ (s.dropWhile Char.isDigit).head?, Text.asciiDigit? c = none := by
    intro c hc
    have hnot := List.head?_dropWhile_not Char.isDigit s
    rw [Option.mem_def.1 hc] at hnot
    exact if_neg (by simpa using hnot)
  have hspan := spanDigits_append (AreDigits.of_forall hdigits) hrest
  rwa [List.takeWhile_append_dropWhile] at hspan

end Numeral

/-- The text writes an integer, with this sign and these digits. -/
inductive IntegerText : List Char → Bool → List Char → Prop
  | intro {sign digits ending : List Char} {negative : Bool} (hsign : IsSign sign negative)
    (hne : digits ≠ []) (hdigits : ∀ c ∈ digits, c.isDigit = true)
    (hending : ending = [] ∨ ending = ['\n']) :
    IntegerText (sign ++ (digits ++ ending)) negative digits

namespace IntegerText

variable {s digits : List Char} {negative : Bool}

theorem ne_nil (h : IntegerText s negative digits) : digits ≠ [] := by
  cases h
  assumption

theorem isDigit (h : IntegerText s negative digits) : ∀ c ∈ digits, c.isDigit = true := by
  cases h
  assumption

/-- There is nothing in the text but a sign, digits of ASCII and a line feed. -/
theorem mem_cases (h : IntegerText s negative digits) {c : Char} (hc : c ∈ s) :
    c.isDigit = true ∨ c ∈ ['+', '-', '\n'] := by
  obtain ⟨hsign, -, hdigits, hending⟩ := h
  rw [List.mem_append, List.mem_append] at hc
  rcases hc with hc | hc | hc
  · exact .inr (List.mem_append_left ['\n'] (hsign.mem hc))
  · exact .inl (hdigits c hc)
  · rcases hending with rfl | rfl
    · cases hc
    · exact .inr (List.mem_append_right ['+', '-'] hc)

end IntegerText

/-- An integer is written with its sign, if it is negative, and its digits. -/
theorem integerText_integerChars (n : Int) :
    IntegerText (integerChars n) (decide (n < 0)) (Numeral.digits n.natAbs) := by
  have hne : Numeral.digits n.natAbs ≠ [] := Nat.toDigits_ne_nil
  have hdigits : ∀ c ∈ Numeral.digits n.natAbs, c.isDigit = true := fun _ => isDigit_of_mem_digits
  have hsigned {sign : List Char} {negative : Bool} (hsign : IsSign sign negative) :
      IntegerText (sign ++ Numeral.digits n.natAbs) negative (Numeral.digits n.natAbs) := by
    simpa using IntegerText.intro hsign hne hdigits (.inl rfl)
  rw [integerChars]
  by_cases hn : n < 0
  · rw [if_pos hn, decide_eq_true hn]
    exact hsigned .minus
  · rw [if_neg hn, decide_eq_false hn]
    exact hsigned .none

/-! ## Values -/

/-- The integer of a sign and of digits in base ten. -/
def signedValue (negative : Bool) (digits : List Char) : Int :=
  let n : Nat := Nat.ofDigits 10 (digits.map digitValue).reverse
  if negative then -(n : Int) else n

theorem natAbs_signedValue (negative : Bool) (digits : List Char) :
    (signedValue negative digits).natAbs = Nat.ofDigits 10 (digits.map digitValue).reverse := by
  rw [signedValue]
  cases negative with
  | false => exact Int.natAbs_natCast _
  | true => exact (Int.natAbs_neg _).trans (Int.natAbs_natCast _)

theorem natAbs_signedValue_lt {digits : List Char} (hdigits : ∀ c ∈ digits, c.isDigit = true)
    (negative : Bool) : (signedValue negative digits).natAbs < 10 ^ digits.length := by
  have hlt : ∀ d ∈ (digits.map digitValue).reverse, d < 10 := by
    intro d hd
    obtain ⟨c, hc, rfl⟩ := List.mem_map.1 (List.mem_reverse.1 hd)
    exact digitValue_lt_ten (hdigits c hc)
  rw [natAbs_signedValue]
  simpa using Nat.ofDigits_lt_base_pow_length (by decide) hlt

theorem signedValue_digits (n : Int) :
    signedValue (decide (n < 0)) (Numeral.digits n.natAbs) = n := by
  rw [signedValue, ← ofDigits_eq, ofDigits_digits]
  exact signed_natAbs n

/-! ## Reading -/

namespace Cast

variable {s : List Char} {negative : Bool} {digits : List Char}

theorem intParts?_of_integerText (h : IntegerText s negative digits) :
    intParts? s = some (negative, digits.map digitValue) := by
  obtain ⟨hsign, hne, hdigits, hending⟩ := h
  rename_i sign ending
  have hhead : ∀ c ∈ (digits ++ ending).head?, c ≠ '-' ∧ c ≠ '+' := by
    intro c hc
    rw [List.head?_append_of_ne_nil _ hne] at hc
    exact ne_sign_of_isDigit (hdigits c (List.mem_of_mem_head? hc))
  have hafter : ∀ c ∈ ending.head?, Text.asciiDigit? c = none := by
    rcases hending with rfl | rfl
    · simp
    · simp [Text.asciiDigit?]
  have hspan :=
    spanDigits_append (AreDigits.of_forall fun c hc => asciiDigit?_of_isDigit (hdigits c hc)) hafter
  simp only [intParts?, takeSign_append hsign hhead, hspan]
  cases hds : digits.map digitValue with
  | nil => exact absurd (List.map_eq_nil_iff.1 hds) hne
  | cons d ds => exact if_pos hending

theorem exists_of_intParts? {ds : List Nat} (h : intParts? s = some (negative, ds)) :
    ∃ digits, IntegerText s negative digits ∧ digits.map digitValue = ds := by
  obtain ⟨sign, hsign, hs⟩ := exists_sign s
  simp only [intParts?, spanDigits_eq] at h
  split at h
  · cases h
  · rename_i ds' rest hne hspan
    obtain ⟨rfl, rfl⟩ := Prod.mk.inj hspan
    split at h
    · rename_i hending
      obtain ⟨rfl, rfl⟩ := Prod.mk.inj (Option.some.inj h)
      have htext := IntegerText.intro hsign (fun hnil => hne (by rw [hnil]; rfl))
        (fun c hc => List.mem_takeWhile_imp hc) hending
      rw [List.takeWhile_append_dropWhile, ← hs] at htext
      exact ⟨_, htext, rfl⟩
    · cases h

/-- The sign and the digits of an integer are those that it is written with. -/
theorem intParts?_eq_some_iff {ds : List Nat} :
    intParts? s = some (negative, ds) ↔
      ∃ digits, IntegerText s negative digits ∧ digits.map digitValue = ds := by
  constructor
  · exact exists_of_intParts?
  · rintro ⟨digits, htext, rfl⟩
    exact intParts?_of_integerText htext

/-- Only so many digits are read, and they are read in base ten. -/
theorem toInt_eq_ok_iff {raw : String} {n : Int} :
    toInt raw = .ok n ↔
      ∃ negative digits, IntegerText raw.toList negative digits ∧ digits.length ≤ maxIntDigits ∧
        n = signedValue negative digits := by
  constructor
  · intro h
    unfold toInt at h
    split at h
    · cases h
    · rename_i negative ds hparts
      obtain ⟨digits, htext, rfl⟩ := intParts?_eq_some_iff.1 hparts
      split at h
      · cases h
      · rename_i hlength
        refine ⟨negative, digits, htext, by simpa using hlength, ?_⟩
        rw [← Except.ok.inj h, ofDigits_eq, signedValue]
  · rintro ⟨negative, digits, htext, hlength, rfl⟩
    have hle : ¬maxIntDigits < (digits.map digitValue).length := by simpa using hlength
    simp only [toInt, intParts?_of_integerText htext, if_neg hle, ofDigits_eq, signedValue]

/-- An integer that is not too long is cast to itself. -/
theorem toInt_integerText {n : Int} (hn : width n.natAbs ≤ maxIntDigits) :
    toInt (integerText n) = .ok n := by
  refine toInt_eq_ok_iff.2 ⟨_, _, ?_, hn, (signedValue_digits n).symm⟩
  rw [integerText, String.toList_ofList]
  exact integerText_integerChars n

/-- An integer that is cast has no more digits than may be read. -/
theorem width_of_toInt {raw : String} {n : Int} (hn : toInt raw = .ok n) :
    width n.natAbs ≤ maxIntDigits := by
  obtain ⟨negative, digits, htext, hlength, rfl⟩ := toInt_eq_ok_iff.1 hn
  have hwidth := (Nat.length_toDigits_le_iff (by decide) (List.length_pos_iff.2 htext.ne_nil)).2
    (natAbs_signedValue_lt htext.isDigit negative)
  exact hwidth.trans hlength

/-- A text that writes no integer is refused. -/
theorem toInt_of_not_integerText {raw : String}
    (h : ∀ negative digits, ¬IntegerText raw.toList negative digits) :
    toInt raw = .error (.invalidInt raw) := by
  cases hparts : intParts? raw.toList with
  | none => simp only [toInt, hparts]
  | some parts =>
    obtain ⟨digits, htext, -⟩ := intParts?_eq_some_iff.1 hparts
    exact absurd htext (h _ _)

end Cast

/-- An integer is cast exactly from a sign or none, one digit of ASCII or more and one line feed or
    none, as long as there are no more than 4300 digits, and it is the number that the digits stand
    for in base ten. So every integer of no more digits is cast from what is written for it; and
    where a text has a decimal digit of another script, it is refused. -/
theorem Tag.cast_int (raw : String) :
    (∀ a, Tag.int.cast raw = .ok a ↔
      ∃ negative digits, IntegerText raw.toList negative digits ∧ digits.length ≤ 4300 ∧
        a = .number (.int (signedValue negative digits))) ∧
    (∀ n : Int, (digits n.natAbs).length ≤ 4300 →
      Tag.int.cast (integerText n) = .ok (.number (.int n))) ∧
    ∀ c ∈ raw.toList, (Text.digit? c).isSome = true → c.isDigit = false →
      Tag.int.cast raw = .error (.invalidInt raw) := by
  refine ⟨fun a => ?_, fun n hn => ?_, fun c hc hdigit hascii => ?_⟩
  · rw [Tag.cast, map_eq_ok]
    constructor
    · rintro ⟨n, hn, rfl⟩
      obtain ⟨negative, digits, htext, hlength, rfl⟩ := Cast.toInt_eq_ok_iff.1 hn
      exact ⟨negative, digits, htext, hlength, rfl⟩
    · rintro ⟨negative, digits, htext, hlength, rfl⟩
      exact ⟨_, Cast.toInt_eq_ok_iff.2 ⟨negative, digits, htext, hlength, rfl⟩, rfl⟩
  · rw [Tag.cast, Cast.toInt_integerText hn]
    rfl
  · rw [Tag.cast, Cast.toInt_of_not_integerText]
    · rfl
    · intro negative digits htext
      rcases htext.mem_cases hc with h | h
      · exact absurd h (by simp [hascii])
      · fin_cases h <;> cases hdigit

/-- Zeros may come first and a line feed last; a digit of another script is not read, even beside
    one that is. -/
theorem Tag.cast_int_zeros_and_line_feed :
    Tag.int.cast "-007\n" = .ok (.number (.int (-7))) ∧
    Tag.int.cast (integerText (-12)) = .ok (.number (.int (-12))) ∧
    Tag.int.cast "1\u0663" = .error (.invalidInt "1\u0663") := by
  have hzeros : IntegerText "-007\n".toList true ['0', '0', '7'] := by
    have hlist : "-007\n".toList = ['-'] ++ (['0', '0', '7'] ++ ['\n']) := by decide
    rw [hlist]
    exact .intro .minus (List.cons_ne_nil _ _) (by simp) (.inr rfl)
  refine ⟨((Tag.cast_int _).1 _).2 ⟨_, _, hzeros, by decide, by decide⟩,
    (Tag.cast_int "").2.1 (-12) (by decide), ?_⟩
  exact (Tag.cast_int _).2.2 '\u0663' (by decide) (by decide) (by decide)

end TypedHeaders
