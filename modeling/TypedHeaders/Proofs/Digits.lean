import TypedHeaders.Numeral.Digits
import Mathlib

/-!
# Digits

The digits that a number is written with are read as that number
(`ofDigits_digits`), and they tell its size to a power of ten (`lt_pow_width`,
`pow_le_of_lt_width`). A sign and digits are taken from the start of a text just as
they are put there, if what follows them is none (`takeSign_append`,
`spanDigits_append`).
-/

namespace TypedHeaders.Numeral

/-! ## Reading what is written -/

/-- The value of a character that is a digit. -/
def digitValue (c : Char) : Nat := c.toNat - '0'.toNat

theorem toNat_of_isDigit {c : Char} (hc : c.isDigit = true) : 48 ≤ c.toNat ∧ c.toNat ≤ 57 := by
  simpa [Char.isDigit, UInt32.le_iff_toNat_le] using hc

theorem digitValue_lt_ten {c : Char} (hc : c.isDigit = true) : digitValue c < 10 := by
  have hrange := toNat_of_isDigit hc
  change c.toNat - 48 < 10
  omega

theorem isDigit_of_mem_digits {n : Nat} {c : Char} (hc : c ∈ digits n) : c.isDigit = true :=
  Nat.isDigit_of_mem_toDigits (by decide) (by decide) hc

theorem width_pos (n : Nat) : 0 < width n := Nat.length_toDigits_pos

/-- The characters are digits, and these are their values. -/
abbrev AreDigits (digit? : Char → Option Nat) : List Char → List Nat → Prop :=
  List.Forall₂ fun c d => digit? c = some d

theorem AreDigits.of_forall {digit? : Char → Option Nat} {s : List Char}
    (hs : ∀ c ∈ s, digit? c = some (digitValue c)) : AreDigits digit? s (s.map digitValue) :=
  List.forall₂_map_right_iff.2 (List.forall₂_same.2 hs)

/-- Just the digits that a text starts with are read. -/
theorem spanDigits_append {digit? : Char → Option Nat} {s rest : List Char} {ds : List Nat}
    (hs : AreDigits digit? s ds) (hrest : ∀ c ∈ rest.head?, digit? c = none) :
    spanDigits digit? (s ++ rest) = (ds, rest) := by
  induction hs with
  | nil =>
    cases rest with
    | nil => rfl
    | cons c rest => simp [spanDigits, hrest c rfl]
  | cons hc _ ih => rw [List.cons_append, spanDigits, hc, ih]

/-- Where every character is a digit, all of them are read. -/
theorem spanDigits_eq_self {digit? : Char → Option Nat} {s : List Char} {ds : List Nat}
    (hs : AreDigits digit? s ds) : spanDigits digit? s = (ds, []) := by
  have hend : ∀ c ∈ ([] : List Char).head?, digit? c = none := by simp
  have hspan := spanDigits_append hs hend
  rwa [List.append_nil] at hspan

/-- What is read from the start of a text are digits, and the rest comes after them. -/
theorem exists_spanDigits (digit? : Char → Option Nat) (s : List Char) :
    ∃ digits, AreDigits digit? digits (spanDigits digit? s).1 ∧
      s = digits ++ (spanDigits digit? s).2 := by
  induction s with
  | nil => exact ⟨[], .nil, rfl⟩
  | cons c s ih =>
    rw [spanDigits]
    cases hc : digit? c with
    | none => exact ⟨[], .nil, rfl⟩
    | some d =>
      obtain ⟨digits, hdigits, hs⟩ := ih
      exact ⟨c :: digits, .cons hc hdigits, congrArg (c :: ·) hs⟩

theorem asciiDigit?_of_isDigit {c : Char} (hc : c.isDigit = true) :
    Text.asciiDigit? c = some (digitValue c) := if_pos hc

/-- The digits of a number stand for that number. -/
theorem ofDigits_digits (n : Nat) : ofDigits ((digits n).map digitValue) = n := by
  rw [ofDigits, List.foldl_map]
  exact Nat.ofDigitChars_toDigits (by decide) (by decide)

/-! ## Signs -/

/-- A sign before a number, which may be missing, and whether it is that of a negative one. -/
inductive IsSign : List Char → Bool → Prop
  | none : IsSign [] false
  | plus : IsSign ['+'] false
  | minus : IsSign ['-'] true

theorem IsSign.mem {sign : List Char} {negative : Bool} (hsign : IsSign sign negative) {c : Char}
    (hc : c ∈ sign) : c ∈ ['+', '-'] := by
  cases hsign with
  | none => cases hc
  | plus => exact List.mem_cons.2 (.inl (List.mem_singleton.1 hc))
  | minus => exact List.mem_cons_of_mem _ hc

/-- A sign is taken from the start of a text, if there are not two of them. -/
theorem takeSign_append {sign rest : List Char} {negative : Bool} (hsign : IsSign sign negative)
    (hrest : ∀ c ∈ rest.head?, c ≠ '-' ∧ c ≠ '+') :
    takeSign (sign ++ rest) = (negative, rest) := by
  cases hsign with
  | none =>
    rw [List.nil_append]
    unfold takeSign
    split
    · exact absurd rfl (hrest '-' rfl).1
    · exact absurd rfl (hrest '+' rfl).2
    · rfl
  | plus => rfl
  | minus => rfl

theorem exists_sign (s : List Char) :
    ∃ sign, IsSign sign (takeSign s).1 ∧ s = sign ++ (takeSign s).2 := by
  unfold takeSign
  split
  · exact ⟨['-'], .minus, rfl⟩
  · exact ⟨['+'], .plus, rfl⟩
  · exact ⟨[], .none, rfl⟩

/-- No digit is a sign. -/
theorem ne_sign_of_isDigit {c : Char} (hc : c.isDigit = true) : c ≠ '-' ∧ c ≠ '+' := by
  constructor <;> rintro rfl <;> cases hc

/-- An integer is its magnitude with its sign. -/
theorem signed_natAbs (n : Int) :
    (if decide (n < 0) = true then -(n.natAbs : Int) else n.natAbs) = n := by
  by_cases hn : n < 0
  · rw [if_pos (decide_eq_true hn)]
    omega
  · rw [if_neg (by simpa using hn)]
    omega

/-! ## The size of a number -/

theorem lt_pow_width (n : Nat) : n < 10 ^ width n :=
  (Nat.length_toDigits_le_iff (by decide) (width_pos n)).1 (Nat.le_refl _)

/-- A number that is not zero has no leading zeros. -/
theorem pow_le_of_lt_width {n k : Nat} (hn : n ≠ 0) (hk : k < width n) : 10 ^ k ≤ n := by
  rcases Nat.eq_zero_or_pos k with rfl | hpos
  · exact Nat.pos_of_ne_zero hn
  · by_contra hlt
    have := (Nat.length_toDigits_le_iff (by decide) hpos).2 (Nat.lt_of_not_le hlt)
    exact absurd hk (Nat.not_lt.2 this)

end TypedHeaders.Numeral
