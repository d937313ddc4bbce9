import TypedHeaders.Numeral.Binary64

/-!
# Shortest digits

A binary number is written with the fewest decimal digits that read back as the
same number, and among those with the digits nearest to it. For one digit, two
digits and so on, the number is placed on the decimal grid of that many digits;
of its two neighbours there, those that read back are candidates. Seventeen
digits always suffice.

Values are written positionally when the exponent of the leading digit is from
-4 to 15, with at least one digit after the point, and otherwise with a signed
exponent of at least two digits (`text`). Bounds are always written
positionally, and without a point if they are whole (`plainText`).
-/

namespace TypedHeaders.Numeral.Binary64

/-- The exponent of the leading decimal digit of a number of units that is not zero. -/
def leadingExponent (units : Nat) : Int :=
  (width (units * Nat.pow 10 350 / unitsPerOne) : Int) - 351

/-- The neighbours of a number of units on the grid of `n` decimal digits are `lower` and its
    successor; this is the one that reads back, the nearer of two that do, the even one of two
    that are equally near. -/
def onGrid? (units n : Nat) : Option (Nat × Int) :=
  let e := leadingExponent units + 1 - n
  let num := units * Nat.pow 10 (-e).toNat
  let den := unitsPerOne * Nat.pow 10 e.toNat
  let lower := num / den
  let readsBack (d : Nat) : Bool := ofDecimal false d e = .finite false units
  match readsBack lower, readsBack (lower + 1) with
  | false, false => none
  | true, false => some (lower, e)
  | false, true => some (lower + 1, e)
  | true, true => some (roundQuotient num den, e)

/-- The digits and the exponent of the last of them, for the shortest decimal that reads back. -/
def shortest (units : Nat) : Nat × Int :=
  match (List.range 17).findSome? fun n => onGrid? units (n + 1) with
  | some d => d
  | none => (units, 0)

/-- A digit string without the zeros at its end. -/
def stripZeros (ds : List Char) : List Char :=
  (ds.reverse.dropWhile (· = '0')).reverse

/-- The shortest digits, and the place of the point after the first of them or before it; zero
    has the digit zero. -/
def shortestDigits (units : Nat) : List Char × Int :=
  if units = 0 then (['0'], 1)
  else
    let (d, e) := shortest units
    (stripZeros (digits d), e + width d)

/-- A decimal exponent with its sign and at least two digits. -/
def exponentChars (e : Int) : List Char :=
  let ds := digits e.natAbs
  (if e < 0 then '-' else '+') :: (if ds.length < 2 then '0' :: ds else ds)

/-- A number of units, positionally or with an exponent. -/
def magnitudeChars (units : Nat) : List Char :=
  let (ds, place) := shortestDigits units
  if -4 < place ∧ place ≤ 16 then
    if ds.length ≤ place then placePoint ds place ++ ['.', '0'] else placePoint ds place
  else
    let mantissa := match ds with
      | [] => []
      | [d] => [d]
      | d :: rest => d :: '.' :: rest
    mantissa ++ 'e' :: exponentChars (place - 1)

/-- The sign and the magnitude of a number, or its name. -/
def write (magnitude : Nat → List Char) : Binary64 → List Char
  | .finite negative units => (if negative then ['-'] else []) ++ magnitude units
  | .infinite negative => if negative then "-inf".toList else "inf".toList
  | .nan => "nan".toList

/-- The number as a value is written. -/
def chars (x : Binary64) : List Char := x.write magnitudeChars

/-- The number as a value is written. -/
def text (x : Binary64) : String := String.ofList x.chars

/-- The number as a bound is written. -/
def plainText : Binary64 → String
  | .infinite negative => if negative then "-inf" else "inf"
  | .nan => "NaN"
  | x => String.ofList (x.write fun units =>
      let (ds, place) := shortestDigits units
      placePoint ds place)

end TypedHeaders.Numeral.Binary64
