import TypedHeaders.Numeral.Shortest

/-!
# Decimal numbers

Decimal floating-point numbers keep what was written: a sign, a coefficient and
an exponent, so that 1.50 and 1.5 are different decimals of equal value, and
zero keeps its sign and its exponent. The *adjusted* exponent is that of the
leading digit.

* `Decimal.parse` reads scientific notation, within the range of exponents;
* `Decimal.text` writes a decimal so that nothing is lost: positionally if the
  exponent is not positive and the adjusted one is at least -6, and otherwise
  with an exponent;
* `Decimal.compare` compares values, and never computes a large power of ten;
* quotients have 28 significant digits (`Decimal.quotient`), which is what the
  test for a multiple works on (`Decimal.isMultipleOf`).
-/

namespace TypedHeaders.Numeral

/-- The decimal number `± coefficient × 10 ^ exponent`. -/
structure Decimal where
  negative : Bool
  coefficient : Nat
  exponent : Int
deriving DecidableEq, Repr

namespace Decimal

/-- The exponent of the leading digit. -/
def adjusted (d : Decimal) : Int := d.exponent + width d.coefficient - 1

/-- The largest adjusted exponent. -/
def maxAdjusted : Int := 999999999999999999

/-- The smallest exponent. -/
def minExponent : Int := -1999999999999999997

/-- Is the decimal within the range of exponents? -/
def inRange (d : Decimal) : Bool := d.adjusted ≤ maxAdjusted && minExponent ≤ d.exponent

/-- The decimal that a number in scientific notation writes. -/
def ofScientific (s : Scientific) : Decimal := ⟨s.negative, ofDigits s.digits, s.exponent⟩

/-- The decimal that a text writes, if its exponents are in range. -/
def parse (s : List Char) : Option Decimal :=
  ((Scientific.parse s).map ofScientific).filter inRange

/-- An integer as a decimal. -/
def ofInt (n : Int) : Decimal := ⟨n < 0, n.natAbs, 0⟩

/-- The decimal that the shortest text of a finite binary number writes. -/
def ofBinary? (x : Binary64) : Option Decimal := parse x.chars

/-- The decimal with exactly the value of a number of binary units: a unit is 2⁻¹⁰⁷⁴, which is
    5¹⁰⁷⁴ × 10⁻¹⁰⁷⁴. -/
def ofUnits (negative : Bool) (units : Nat) : Decimal := ⟨negative, units * Nat.pow 5 1074, -1074⟩

/-- The binary number nearest to a decimal. -/
def toBinary (d : Decimal) : Binary64 := .ofDecimal d.negative d.coefficient d.exponent

/-- The exponent part of a decimal's text. -/
def exponentPart (e : Int) : List Char :=
  'E' :: (if e < 0 then '-' else '+') :: digits e.natAbs

/-- The sign, the digits with their point, and the exponent if it is needed. -/
def chars (d : Decimal) : List Char :=
  let ds := digits d.coefficient
  let place := d.exponent + ds.length
  (if d.negative then ['-'] else []) ++
    if d.exponent ≤ 0 ∧ -6 < place then placePoint ds place
    else placePoint ds 1 ++ exponentPart (place - 1)

/-- The decimal as it is written. -/
def text (d : Decimal) : String := String.ofList d.chars

/-- The order of two magnitudes that are not zero, given by their coefficients and exponents: by
    the leading digit's place first, and at the same place by the digits. -/
def compareMagnitude (c₁ : Nat) (e₁ : Int) (c₂ : Nat) (e₂ : Int) : Ordering :=
  (compare (e₁ + width c₁) (e₂ + width c₂)).then <|
    compare (c₁ * Nat.pow 10 (e₁ - e₂).toNat) (c₂ * Nat.pow 10 (e₂ - e₁).toNat)

/-- Minus one, zero or one. -/
def sign (d : Decimal) : Int :=
  if d.coefficient = 0 then 0 else if d.negative then -1 else 1

/-- The order of the values of two decimals. -/
def compare (a b : Decimal) : Ordering :=
  match Ord.compare a.sign b.sign with
  | .eq =>
    if a.sign = 0 then .eq
    else
      let o := compareMagnitude a.coefficient a.exponent b.coefficient b.exponent
      if a.sign < 0 then o.swap else o
  | o => o

/-! ## Twenty-eight digits -/

/-- What a calculation of limited precision refuses. -/
inductive ArithmeticFault where
  /-- The result is too large. -/
  | overflow
  /-- The divisor is zero. -/
  | divisionByZero
  /-- The divisor and the dividend are zero. -/
  | divisionUndefined
  /-- The whole part of a quotient has more digits than the precision. -/
  | divisionImpossible
  /-- The modulus is zero. -/
  | zeroModulus
deriving DecidableEq, Repr

/-- The number of significant digits of a calculation. -/
def precision : Nat := 28

/-- The largest adjusted exponent of a calculation. -/
def calculationLimit : Int := 999999

/-- The smallest exponent of a calculation. -/
def calculationFloor : Int := -1000026

/-- How many digits must go from a number of `width` digits with this exponent. -/
def excess (width : Nat) (exponent : Int) : Nat :=
  max (width - precision) (calculationFloor - exponent).toNat

/-- The number `num / den × 10 ^ exponent`, rounded to the precision. The quotient is to be given
    with at least as many digits as the precision has, unless it is exact. -/
def rounded (negative : Bool) (num den : Nat) (exponent : Int) : Except ArithmeticFault Decimal :=
  let cut := excess (width (num / den)) exponent
  let kept :=
    if width (num / den) + 1 < cut then 0 else roundQuotient num (den * Nat.pow 10 cut)
  let d : Decimal := ⟨negative, kept, exponent + cut⟩
  -- Rounding up may have carried into one digit more than the precision.
  let d : Decimal := if precision < width kept then ⟨negative, kept / 10, d.exponent + 1⟩ else d
  if d.coefficient ≠ 0 ∧ calculationLimit < d.adjusted then .error .overflow else .ok d

/-- A number without the zeros at its end, and how many they were. -/
def dropZeros (n : Nat) : Nat × Nat :=
  let ds := digits n
  let zeros := (ds.reverse.takeWhile (· = '0')).length
  (n / Nat.pow 10 zeros, zeros)

/-- The decimal without zeros at its end; zero has the exponent zero. -/
def withoutZeros (d : Decimal) : Decimal :=
  if d.coefficient = 0 then { d with exponent := 0 }
  else
    let (c, zeros) := dropZeros d.coefficient
    ⟨d.negative, c, d.exponent + zeros⟩

/-- The decimal rounded to the precision and without zeros at its end. -/
def normalized (d : Decimal) : Except ArithmeticFault Decimal :=
  if d.coefficient = 0 then .ok d.withoutZeros
  else (rounded d.negative d.coefficient 1 d.exponent).map withoutZeros

/-- The quotient of two decimals, to the precision. -/
def quotient (a b : Decimal) : Except ArithmeticFault Decimal :=
  if b.coefficient = 0 then
    .error (if a.coefficient = 0 then .divisionUndefined else .divisionByZero)
  else
    let negative := a.negative != b.negative
    if a.coefficient = 0 then .ok ⟨negative, 0, 0⟩
    else
      let shift := precision + 1 + width b.coefficient
      rounded negative (a.coefficient * Nat.pow 10 shift) b.coefficient
        (a.exponent - b.exponent - shift)

/-- Is the decimal a whole multiple of the other, as far as their quotient to the precision
    tells? It is not if there is no quotient, or if its whole part has more digits than the
    precision. -/
def isMultipleOf (a b : Decimal) : Bool :=
  match quotient a b with
  | .error _ => false
  | .ok q =>
    q.coefficient = 0 ||
      (q.adjusted < precision &&
        (0 ≤ q.exponent ||
          q.coefficient % Nat.pow 10 (min (-q.exponent).toNat (2 * precision)) = 0))

/-- Does division by the other decimal leave a remainder? The whole part of the quotient must have
    no more digits than the precision. -/
def hasRemainder (a b : Decimal) : Except ArithmeticFault Bool :=
  if b.coefficient = 0 then
    .error (if a.coefficient = 0 then .divisionUndefined else .zeroModulus)
  else if a.coefficient = 0 then .ok false
  else if a.adjusted < b.adjusted then .ok true
  else if a.adjusted - b.adjusted > precision then .error .divisionImpossible
  else
    let num := a.coefficient * Nat.pow 10 (a.exponent - b.exponent).toNat
    let den := b.coefficient * Nat.pow 10 (b.exponent - a.exponent).toNat
    if precision < width (num / den) then .error .divisionImpossible
    else .ok (num % den ≠ 0)

/-! ## Counting digits -/

/-- How many digits a decimal has in all, and how many of them stand after the point, when it is
    written positionally. -/
def digitCounts (d : Decimal) : Nat × Nat :=
  if 0 ≤ d.exponent then (width d.coefficient + d.exponent.toNat, 0)
  else
    let places := d.exponent.natAbs
    (max (width d.coefficient) places, places)

end Decimal

end TypedHeaders.Numeral
