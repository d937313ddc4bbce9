import TypedHeaders.Numeral.Binary64
import TypedHeaders.Text.Blank

/-!
# Grouped digits

Numbers whose digits are put into groups by underscores. Each underscore stands
between two digits; blanks may surround the number, and its digits may be of any
script.
-/

namespace TypedHeaders.Numeral

/-- The text without its underscores, if each of them stands between two digits; `afterDigit` says
    whether a digit comes before the text. -/
def ungroup? (afterDigit : Bool) : List Char → Option (List Char)
  | [] => some []
  | c :: rest =>
    if c = '_' then
      if afterDigit && (rest.head?.bind Text.digit?).isSome then ungroup? false rest else none
    else (ungroup? (Text.digit? c).isSome rest).map (c :: ·)

/-- The integer that a text writes in groups. -/
def readGroupedInteger? (s : List Char) : Option Int := do
  let (negative, s) := takeSign (← ungroup? false (Text.trim Text.blank s))
  match spanDigits Text.digit? s with
  | (d :: ds, []) => return if negative then -(ofDigits (d :: ds) : Int) else ofDigits (d :: ds)
  | _ => none

/-- The binary number that a text writes in groups, or by name. -/
def Binary64.readGrouped? (s : List Char) : Option Binary64 := do
  parse (← ungroup? false (Text.trim Text.blank s))

end TypedHeaders.Numeral
