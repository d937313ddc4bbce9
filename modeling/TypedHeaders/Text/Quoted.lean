import TypedHeaders.Text.Printable

/-!
# Quoted text

How messages show a text so that its ends and its invisible characters can be
seen. A quoted text stands between single quotes, or between double quotes if it
holds a single quote and no double one. The quote in use and the backslash are
escaped by a backslash; line feed, carriage return and tab have letters of their
own; every other character that cannot be seen is written by its code point, in
two, four or eight hexadecimal digits.
-/

namespace TypedHeaders.Text

/-- The hexadecimal digits of `n`, with zeros in front up to `width` of them. -/
def hexDigits (width n : Nat) : List Char :=
  let ds := Nat.toDigits 16 n
  List.replicate (width - ds.length) '0' ++ ds

/-- The escape that gives a character by its code point. -/
def escapeByCode (c : Char) : List Char :=
  if c.toNat < 0x100 then '\\' :: 'x' :: hexDigits 2 c.toNat
  else if c.toNat < 0x10000 then '\\' :: 'u' :: hexDigits 4 c.toNat
  else '\\' :: 'U' :: hexDigits 8 c.toNat

/-- The written form of one character between quotes `mark`. -/
def quoteChar (mark c : Char) : List Char :=
  if c = mark || c = '\\' then ['\\', c]
  else if c = '\n' then ['\\', 'n']
  else if c = '\r' then ['\\', 'r']
  else if c = '\t' then ['\\', 't']
  else if isPrintable c then [c]
  else escapeByCode c

/-- The quote that a text is put between. -/
def quoteMark (s : List Char) : Char :=
  if s.contains '\'' && !s.contains '"' then '"' else '\''

/-- A text between quotes. -/
def quoteChars (s : List Char) : List Char :=
  let mark := quoteMark s
  mark :: s.flatMap (quoteChar mark) ++ [mark]

/-- A text between quotes. -/
def quote (s : String) : String := String.ofList (quoteChars s.toList)

/-- The written form of one byte between quotes `mark`; only ASCII is shown as it is. -/
def quoteByte (mark : Char) (b : UInt8) : List Char :=
  let c := Char.ofNat b.toNat
  if b < 0x80 then quoteChar mark c else escapeByCode c

/-- The bytes of a text in UTF-8 between quotes. -/
def quoteBytes (s : String) : String :=
  let mark := quoteMark s.toList
  "b" ++ String.ofList (mark :: s.toUTF8.toList.flatMap (quoteByte mark) ++ [mark])

/-- The items of a list, separated by commas. -/
def commaList (items : List String) : String := String.intercalate ", " items

end TypedHeaders.Text
