import TypedHeaders.Text.DecimalDigit

/-!
# Digit strings

Numbers as strings of decimal digits, most significant digit first: reading a
digit string (`ofDigits`), writing one (`digits`), and finding the longest run
of digits at the start of a text (`spanDigits`), for a given notion of what a
digit is.
-/

namespace TypedHeaders.Numeral

/-- The number that a digit string stands for. -/
def ofDigits (ds : List Nat) : Nat := ds.foldl (fun n d => 10 * n + d) 0

/-- The digits of a number, as characters and without leading zeros; zero is one digit. -/
def digits (n : Nat) : List Char := Nat.toDigits 10 n

/-- How many digits a number has; zero has one. -/
def width (n : Nat) : Nat := (digits n).length

/-- An integer in decimal, with a minus sign if it is negative. -/
def integerChars (n : Int) : List Char :=
  if n < 0 then '-' :: digits n.natAbs else digits n.natAbs

/-- An integer in decimal, with a minus sign if it is negative. -/
def integerText (n : Int) : String := String.ofList (integerChars n)

/-- The values of the digits that a text starts with, and the rest of the text. -/
def spanDigits (digit? : Char → Option Nat) : List Char → List Nat × List Char
  | [] => ([], [])
  | c :: rest =>
    match digit? c with
    | some d => (d :: (spanDigits digit? rest).1, (spanDigits digit? rest).2)
    | none => ([], c :: rest)

/-- The sign that a text starts with, as "is it negative?", and the rest of the text. -/
def takeSign : List Char → Bool × List Char
  | '-' :: rest => (true, rest)
  | '+' :: rest => (false, rest)
  | s => (false, s)

/-- Digits with a point after the first `place` of them, filled up with zeros on either side; no
    point is written where no digit follows. -/
def placePoint (ds : List Char) (place : Int) : List Char :=
  if place ≤ 0 then '0' :: '.' :: (List.replicate (-place).toNat '0' ++ ds)
  else if ds.length ≤ place.toNat then ds ++ List.replicate (place.toNat - ds.length) '0'
  else ds.take place.toNat ++ '.' :: ds.drop place.toNat

/-- The integer nearest to `num / den`, the even one of two that are equally near. -/
def roundQuotient (num den : Nat) : Nat :=
  let q := num / den
  match compare (2 * (num % den)) den with
  | .lt => q
  | .gt => q + 1
  | .eq => if q % 2 = 0 then q else q + 1

end TypedHeaders.Numeral
