import TypedHeaders.Text.Quoted

/-!
# Latin-1

Header names and values travel as Latin-1, one byte for each of the first 256
characters. A text with any other character is *unencodable*; the report of
that tells where the first run of such characters stands.
-/

namespace TypedHeaders.Text

/-- Does the character have a byte of its own? -/
def isLatinChar (c : Char) : Bool := c.toNat < 0x100

/-- Does every character of the text have a byte of its own? -/
def isLatin (s : List Char) : Bool := s.all isLatinChar

/-- Where a text fails to be Latin-1: the place of the first character that has no byte, and
    the run of such characters that it opens. -/
structure Unencodable where
  place : Nat
  run : List Char
deriving DecidableEq, Repr

/-- The first run of characters without a byte, none in a Latin-1 text. -/
def unencodable? (s : List Char) : Option Unencodable :=
  match s.dropWhile isLatinChar with
  | [] => none
  | rest =>
    some ⟨(s.takeWhile isLatinChar).length, rest.takeWhile fun c => !isLatinChar c⟩

/-- The report of a text that is not Latin-1. -/
def Unencodable.message (u : Unencodable) : String :=
  let what := match u.run with
    | [c] => s!"character '{String.ofList (escapeByCode c)}' in position {u.place}"
    | run => s!"characters in position {u.place}-{u.place + run.length - 1}"
  s!"'latin-1' codec can't encode {what}: ordinal not in range(256)"

end TypedHeaders.Text
