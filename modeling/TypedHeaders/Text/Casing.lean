import TypedHeaders.Text.CasingTable

/-!
# Upper and lower case

The full case mappings of whole texts. The upper-case form of a character does
not depend on its place; of the lower-case forms only that of the capital sigma
does: it is final (ς) after a cased character and before no cased one, with
case-ignorable characters skipped on both sides, and σ elsewhere.
-/

namespace TypedHeaders.Text

/-- The character `shift` code points after `c`. -/
def shiftChar (c : Char) (shift : Int) : Char := Char.ofNat (c.toNat + shift).toNat

/-- The one-character form of `c` that the runs give, `c` itself if none moves it. -/
def mapByRuns (runs : List CaseRun) (c : Char) : Char :=
  match runs.find? (·.covers c.toNat) with
  | some r => shiftChar c r.shift
  | none => c

/-- The upper-case form of a character. -/
def upperChar (c : Char) : List Char :=
  match longUpper.lookup c.toNat with
  | some long => long.map Char.ofNat
  | none => [mapByRuns upperRuns c]

/-- The upper-case form of a text. -/
def upperCase (s : List Char) : List Char := s.flatMap upperChar

/-- The lower-case form of a character other than a capital sigma. -/
def lowerChar (c : Char) : List Char :=
  if c = '\u0130' then ['i', '\u0307'] else [mapByRuns lowerRuns c]

/-- Is the first character that is not case-ignorable a cased one? -/
def startsCased (s : List Char) : Bool :=
  match s.dropWhile caseIgnorable.contains with
  | [] => false
  | c :: _ => cased.contains c

/-- Is the last character that is not case-ignorable a cased one, after a text of which
    `before` tells the same and one more character? -/
def endsCased (before : Bool) (c : Char) : Bool :=
  if caseIgnorable.contains c then before else cased.contains c

/-- The lower-case form of the rest of a text; `before` tells whether the last character of the
    part before it that is not case-ignorable is cased. -/
def lowerFrom (before : Bool) : List Char → List Char
  | [] => []
  | c :: rest =>
    (if c = 'Σ' then [if before && !startsCased rest then 'ς' else 'σ'] else lowerChar c) ++
      lowerFrom (endsCased before c) rest

/-- The lower-case form of a text. -/
def lowerCase (s : List Char) : List Char := lowerFrom false s

/-- The upper-case form of a text. -/
def upper (s : String) : String := String.ofList (upperCase s.toList)

/-- The lower-case form of a text. -/
def lower (s : String) : String := String.ofList (lowerCase s.toList)

end TypedHeaders.Text
