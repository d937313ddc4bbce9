import TypedHeaders.Numeral.Digits

/-!
# Scientific notation

The grammar that decimal and binary fractions share: an optional sign, digits
with at most one point among or around them, and an optional exponent, itself an
optionally signed run of digits after `e` or `E`. At least one digit stands
before the exponent. The digits may be of any script, as long as they are
decimal digits.

* `Scientific.parse` reads a whole text by this grammar, and refuses every other.
-/

namespace TypedHeaders.Numeral

/-- A number as written: `± digits × 10 ^ exponent`. -/
structure Scientific where
  negative : Bool
  /-- The values of the digits, those after the point included. -/
  digits : List Nat
  /-- The power of ten that the last digit counts. -/
  exponent : Int

/-- The digits after a point, if the text starts with one, and the rest of the text. -/
def takeFraction : List Char → List Nat × List Char
  | '.' :: rest => spanDigits Text.digit? rest
  | s => ([], s)

/-- The exponent that makes up the text, which may be empty. -/
def readExponent : List Char → Option Int
  | [] => some 0
  | e :: rest =>
    if e = 'e' ∨ e = 'E' then
      let (negative, rest) := takeSign rest
      match spanDigits Text.digit? rest with
      | (d :: ds, []) =>
        let n : Int := ofDigits (d :: ds)
        some (if negative then -n else n)
      | _ => none
    else none

/-- The number that a text writes in scientific notation. -/
def Scientific.parse (s : List Char) : Option Scientific :=
  let (negative, s) := takeSign s
  let (whole, s) := spanDigits Text.digit? s
  let (fraction, s) := takeFraction s
  if whole.isEmpty && fraction.isEmpty then none
  else (readExponent s).map fun e => ⟨negative, whole ++ fraction, e - fraction.length⟩

end TypedHeaders.Numeral
