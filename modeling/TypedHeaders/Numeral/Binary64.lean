import TypedHeaders.Numeral.Scientific

/-!
# Binary64 numbers

Binary floating-point numbers of 64 bits, held exactly: a finite number is a
sign and a multiple of the smallest positive one, the *unit* 2⁻¹⁰⁷⁴. Comparison
is then comparison of integers, and rounding is division of naturals: a number
of units is representable if all but its 53 leading bits are zero, and the
nearest representable one is found by `roundUnits`, ties going to the one whose
last kept bit is zero.

* `Binary64.ofScientific` reads a number in scientific notation, correctly rounded;
* `Binary64.compare?` orders all but the NaN, which compares with nothing.
-/

namespace TypedHeaders.Numeral

/-- A binary floating-point number of 64 bits. -/
inductive Binary64 where
  /-- The number `± units × 2⁻¹⁰⁷⁴`. -/
  | finite (negative : Bool) (units : Nat)
  | infinite (negative : Bool)
  | nan
deriving DecidableEq, Repr

namespace Binary64

/-- How many units make one. -/
def unitsPerOne : Nat := Nat.pow 2 1074

/-- The number of units from which on every number is too large to be finite. -/
def unitsLimit : Nat := Nat.pow 2 2098

/-- The representable number of units that is nearest to `num / den`. -/
def roundUnits (num den : Nat) : Nat :=
  let step := Nat.pow 2 ((num / den).log2 - 52)
  roundQuotient num (den * step) * step

/-- The number nearest to `num / den` units. -/
def ofUnits (negative : Bool) (num den : Nat) : Binary64 :=
  let units := roundUnits num den
  if units < unitsLimit then .finite negative units else .infinite negative

/-- The number nearest to `digits × 10 ^ exponent`. Far outside the range of finite numbers the
    power of ten is not computed. -/
def ofDecimal (negative : Bool) (digits : Nat) (exponent : Int) : Binary64 :=
  if digits = 0 then .finite negative 0
  else if 400 < exponent + width digits then .infinite negative
  else if exponent + width digits < -400 then .finite negative 0
  else ofUnits negative (digits * Nat.pow 10 exponent.toNat * unitsPerOne)
    (Nat.pow 10 (-exponent).toNat)

/-- The number nearest to an integer. -/
def ofInt (n : Int) : Binary64 := ofUnits (n < 0) (n.natAbs * unitsPerOne) 1

/-- The number nearest to one in scientific notation. -/
def ofScientific (s : Scientific) : Binary64 :=
  ofDecimal s.negative (ofDigits s.digits) s.exponent

/-- The number that a text writes out by name: infinity or NaN, in any mixture of cases, with an
    optional sign. -/
def ofName? (s : List Char) : Option Binary64 :=
  let (negative, s) := takeSign s
  let name := s.map Char.toLower
  if name = "inf".toList ∨ name = "infinity".toList then some (.infinite negative)
  else if name = "nan".toList then some .nan
  else none

/-- The number that a text writes, in scientific notation or by name. -/
def parse (s : List Char) : Option Binary64 :=
  match Scientific.parse s with
  | some n => some (ofScientific n)
  | none => ofName? s

/-- A key that orders the numbers as the extended reals do; NaN has none. -/
def key? : Binary64 → Option Int
  | .finite negative units => some (if negative then -units else units)
  | .infinite negative => some (if negative then -unitsLimit else unitsLimit)
  | .nan => none

/-- How two numbers compare, if neither is NaN. -/
def compare? (x y : Binary64) : Option Ordering := do
  return compare (← x.key?) (← y.key?)

/-- Is the number neither infinite nor NaN? -/
def isFinite : Binary64 → Bool
  | .finite _ _ => true
  | _ => false

/-- How far a number may be from a multiple to count as one. -/
def tolerance : Binary64 := ofDecimal false 1 (-9)

/-- The whole number that is nearest to a number of units, the larger one of two that are equally
    near. -/
def nearestWhole (units : Nat) : Nat := (2 * units + unitsPerOne) / (2 * unitsPerOne)

/-- Is the number a whole multiple of the other, up to a billionth? The quotient is rounded to a
    whole number, and that many times the divisor is taken from the number; every step of this is
    rounded. What comes to NaN counts as a multiple. -/
def isMultipleOf : Binary64 → Binary64 → Bool
  | .finite _ x, .finite _ m =>
    m = 0 ||
      match ofUnits false (x * unitsPerOne) m with
      | .finite _ q =>
        match ofUnits false (nearestWhole q * m) 1 with
        | .finite _ y => ((ofUnits false ((x - y) + (y - x)) 1).compare? tolerance).any (·.isLE)
        | _ => false
      | _ => false
  | _, _ => true

/-- The sum of a finite number that is not negative and a natural one, which is rounded first. -/
def addNat (x : Binary64) (n : Nat) : Binary64 :=
  match x, ofInt n with
  | .finite _ a, .finite _ b => ofUnits false (a + b) 1
  | .finite _ _, y => y
  | x, _ => x

end Binary64

end TypedHeaders.Numeral
