import TypedHeaders.Conversion.Fit
import TypedHeaders.Text.Blank

/-!
# Converting single values

What the plain types make of a value that is already cast. A value of the type
itself is kept as it is; beyond that, numbers and truth values become numbers of
another kind where nothing is lost, and texts are read as numbers or truth
values. A member of an enumeration counts as what it stands for.

This is more lenient than casting a header (see `TypedHeaders.Cast`): the white
space around a text does not count, an integer may be followed by a point and
zeros, and single underscores may stand between digits (any number of them among
the zeros at the start of an integer).
-/

namespace TypedHeaders

open Numeral

/-- Is the integer within the range of 64 bits, in which integers are looked up? -/
def inLookupRange (n : Int) : Bool := -Int.pow 2 63 ≤ n && n < Int.pow 2 63

namespace Scalar

/-! ## Texts -/

/-- A value as a text: the bytes of one, or what a member stands for. -/
def toText : Value → Converted String
  | .text s => pure s
  | .bytes s => .ofReason .lax (.ok s)
  | .member e label =>
    let shown := ((e.value? label).getD .absent).plain
    .ofReason (if e.base = .text then .strict else .lax) (.ok shown)
  | _ => .refuse .notText

/-- A value as the bytes of a text. -/
def toBytes : Value → Converted String
  | .bytes s => pure s
  | v =>
    match v.atom? with
    | some (.text s) => .ofReason .lax (.ok s)
    | _ => .refuse .notBytes

/-! ## Integers -/

/-- The parts of a text between underscores. -/
def groups (s : List Char) : List (List Char) := s.splitOn '_'

/-- The digits of an integer, with single underscores between them. -/
def groupedDigits? (s : List Char) : Option (List Nat) :=
  (groups s).foldr (fun group rest =>
    match spanDigits Text.asciiDigit? group, rest with
    | (d :: ds, []), some rest => some (d :: ds ++ rest)
    | _, _ => none) (some [])

/-- The largest number of digits of an integer that is read from a text; zeros at its start do not
    count. -/
def maxReadDigits : Nat := 4300

/-- Is it nothing, or a point and zeros? -/
def isZeroFraction : List Char → Bool
  | [] => true
  | c :: rest => c = '.' && !rest.isEmpty && rest.all (· = '0')

/-- The text without the zeros at its start, and the underscores after the first of them; one
    character is kept if no more digits come after it. -/
def withoutLeadingZeros (s : List Char) : List Char :=
  match s.head?, s.span fun c => c = '0' || c = '_' with
  | some '0', (leading, rest) =>
    match rest.head? with
    | none | some '.' => leading.getLast?.toList ++ rest
    | some _ => rest
  | _, _ => s

/-- A text as an integer: grouped digits, which a point and zeros may follow. -/
def readInteger (s : List Char) : Except Reason Int :=
  let (negative, s) := takeSign (Text.trim Text.whiteSpace s)
  let s := withoutLeadingZeros s
  if !isZeroFraction (s.dropWhile (· ≠ '.')) then .error .unreadableInteger
  else
    match groupedDigits? (s.takeWhile (· ≠ '.')) with
    | none => .error .unreadableInteger
    | some ds =>
      if maxReadDigits < (ds.dropWhile (· = 0)).length then .error .oversizedInteger
      else .ok (if negative then -(ofDigits ds : Int) else ofDigits ds)

/-- The integer that a binary number is, if it is strictly within the range of 64 bits. -/
def ofBinary : Binary64 → Except Reason Int
  | .finite negative units =>
    if units % Binary64.unitsPerOne ≠ 0 then .error .fractional
    else
      let n := units / Binary64.unitsPerOne
      if n < Nat.pow 2 63 then .ok (if negative then -(n : Int) else n)
      else .error .oversizedInteger
  | _ => .error .notFinite

/-- The integer that a decimal is. -/
def ofDecimal (d : Decimal) : Except Reason Int :=
  if d.coefficient = 0 then .ok 0
  else
    let places := (-d.exponent).toNat
    if width d.coefficient ≤ places ∨ d.coefficient % Nat.pow 10 places ≠ 0 then .error .fractional
    else
      let n : Int := (d.coefficient * Nat.pow 10 d.exponent.toNat / Nat.pow 10 places : Nat)
      .ok (if d.negative then -n else n)

/-- An atom as an integer. -/
def integerOfAtom : Atom → Converted Int
  | .number (.int n) => pure n
  | .number (.float x) => .ofReason .lax (ofBinary x)
  | .number (.decimal d) => .ofReason .lax (ofDecimal d)
  | .bool b => .ofReason .lax (.ok (if b then 1 else 0))
  | .text s => .ofReason .lax (readInteger s.toList)
  | .absent => .refuse .notInteger

/-- A value as an integer. -/
def toInteger : Value → Converted Int
  | .atom a => integerOfAtom a
  | .bytes s => .ofReason .lax (readInteger s.toList)
  | v =>
    match v.atom? with
    | some a => (integerOfAtom a).atMost .strict
    | none => .refuse .notInteger

/-! ## Binary numbers -/

/-- The text without its underscores, if they are single and none is at an end of it. -/
def withoutUnderscores? (s : List Char) : Option (List Char) :=
  if (groups s).any List.isEmpty then none else some (s.filter (· ≠ '_'))

/-- The binary number that a text of ASCII characters writes. -/
def parseAscii? (s : List Char) : Option Binary64 :=
  if s.all (·.toNat < 0x80) then Binary64.parse s else none

/-- A text as a binary number: with white space around it, or else with underscores in it. -/
def readBinary (s : List Char) : Except Reason Binary64 :=
  match parseAscii? (Text.trim Text.whiteSpace s) <|> (withoutUnderscores? s).bind parseAscii? with
  | some x => .ok x
  | none => .error .unreadableNumber

/-- An atom as a binary number. -/
def binaryOfAtom : Atom → Converted Binary64
  | .number (.float x) => pure x
  | .number (.int n) =>
    let x := Binary64.ofInt n
    if x.isFinite then .ofReason .strict (.ok x) else .refuse .notNumber
  | .number (.decimal d) => .ofReason .strict (.ok d.toBinary)
  | .bool b => .ofReason .lax (.ok (.ofInt (if b then 1 else 0)))
  | .text s => .ofReason .lax (readBinary s.toList)
  | .absent => .refuse .notNumber

/-- A value as a binary number. -/
def toBinary : Value → Converted Binary64
  | .atom a => binaryOfAtom a
  | .bytes s => .ofReason .lax (readBinary s.toList)
  | v =>
    match v.atom? with
    | some a => (binaryOfAtom a).atMost .strict
    | none => .refuse .notNumber

/-! ## Decimals -/

/-- Is it the name of something that is no finite number? Digits may follow the name of NaN. -/
def namesNonFinite (s : List Char) : Bool :=
  let name := (takeSign s).2.map Char.toLower
  let afterName (start : String) : Bool :=
    name.take start.length = start.toList &&
      (name.drop start.length).all fun c => (Text.digit? c).isSome
  name = "inf".toList || name = "infinity".toList || afterName "nan" || afterName "snan"

/-- A text as a decimal; blanks around it and underscores do not count. -/
def readDecimal (s : List Char) : Except Reason Decimal :=
  let s := (Text.trim Text.blank s).filter (· ≠ '_')
  match Decimal.parse s with
  | some d => .ok d
  | none => .error (if namesNonFinite s then .notFinite else .unreadableDecimal)

/-- An atom as a decimal. -/
def decimalOfAtom : Atom → Converted Decimal
  | .number (.decimal d) => pure d
  | .number (.int n) => .ofReason .lax (.ok (.ofInt n))
  | .number (.float x) =>
    match Decimal.ofBinary? x with
    | some d => .ofReason .lax (.ok d)
    | none => .refuse .notFinite
  | .text s => .ofReason .lax (readDecimal s.toList)
  | .bool _ | .absent => .refuse .notDecimal

/-- A value as a decimal. -/
def toDecimal (v : Value) : Converted Decimal :=
  match v.atom? with
  | some a => decimalOfAtom a
  | none => .refuse .notDecimal

/-! ## Truth values -/

/-- The truth value that an integer stands for. -/
def truthOfInteger (n : Int) : Except Reason Bool :=
  if n = 0 then .ok false else if n = 1 then .ok true else .error .unreadableBool

/-- The truth value that a binary number stands for. -/
def truthOfBinary (x : Binary64) : Except Reason Bool :=
  match ofBinary x with
  | .ok n => truthOfInteger n
  | .error _ => .error .notBool

/-- The texts that stand for true. -/
def trueTexts : List String := ["1", "on", "t", "true", "y", "yes"]

/-- The texts that stand for false. -/
def falseTexts : List String := ["0", "off", "f", "false", "n", "no"]

/-- The truth value that a text stands for, in any mixture of cases. -/
def truthOfText (s : String) : Except Reason Bool :=
  let s := s.map Char.toLower
  if trueTexts.contains s then .ok true
  else if falseTexts.contains s then .ok false
  else .error .unreadableBool

/-- A value as a truth value. -/
def toBool (v : Value) : Converted Bool :=
  match v with
  | .bool b => pure b
  | .bytes s => .ofReason .lax (truthOfText s)
  | v =>
    match v.atom? with
    | some (.text s) => .ofReason .lax (truthOfText s)
    | some (.number (.int n)) =>
      .ofReason .lax (if inLookupRange n then truthOfInteger n else .error .notBool)
    | some (.number n) => .ofReason .lax (truthOfBinary n.toBinary)
    | _ => .refuse .notBool

end Scalar

end TypedHeaders
