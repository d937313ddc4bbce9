import TypedHeaders.Numeral.Decimal

/-!
# Numbers

A *number* is an integer, a binary number or a decimal. Numbers of different
kinds are compared by their exact values (`Number.order?`): 1, 1.0 and the
decimal 1.00 are equal, while the decimal 0.1 is less than the binary number
that is written 0.1. NaN compares with nothing.
-/

namespace TypedHeaders

open Numeral

/-- The largest number of digits of an integer that is read from a text or written as one. -/
def maxIntDigits : Nat := 4300

/-- A number, of one of the three kinds. -/
inductive Number where
  | int (n : Int)
  | float (x : Binary64)
  | decimal (d : Decimal)
deriving DecidableEq, Repr

namespace Number

/-- The number as text. -/
def text : Number → String
  | .int n => integerText n
  | .float x => x.text
  | .decimal d => d.text

/-- The decimal of exactly the same value; infinities and NaN have none. -/
def decimal? : Number → Option Decimal
  | .int n => some (.ofInt n)
  | .float (.finite negative units) => some (.ofUnits negative units)
  | .float _ => none
  | .decimal d => some d

/-- Where a number is among the finite ones: below all of them, one of them, or above. -/
def side? : Number → Option Int
  | .float (.infinite negative) => some (if negative then -1 else 1)
  | .float .nan => none
  | _ => some 0

/-- How two numbers compare; NaN compares with none. -/
def order? (a b : Number) : Option Ordering :=
  match a, b with
  | .int m, .int n => some (compare m n)
  | .float x, .float y => x.compare? y
  | a, b =>
    match a.decimal?, b.decimal? with
    | some d, some e => some (d.compare e)
    | _, _ => do return compare (← a.side?) (← b.side?)

/-- Do two numbers have the same value? -/
def equal (a b : Number) : Bool := a.order? b = some .eq

/-- Is the number other than zero? -/
def nonzero : Number → Bool
  | .int n => n ≠ 0
  | .float x => x.key? ≠ some 0
  | .decimal d => d.coefficient ≠ 0

/-- The binary number nearest to the number. -/
def toBinary : Number → Binary64
  | .int n => .ofInt n
  | .float x => x
  | .decimal d => d.toBinary

end Number

end TypedHeaders
