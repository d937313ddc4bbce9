import TypedHeaders.Value
import TypedHeaders.Text.Blank
import TypedHeaders.Text.Casing
import TypedHeaders.Text.Latin

/-!
# Headers

The headers of a request: pairs of a name and a value, in order of arrival,
where a name may occur any number of times. Names are kept in lower case.

* `Headers.values` gives every value of a name, whatever the case it is asked
  for in.
* `Headers.ofItems` takes names with one value or several; names and values must
  be Latin-1, the first that is not being reported, and so is an integer before it
  that has too many digits to be written.
* `Headers.ofSource` takes a table as the list of its items, and headers as they are.
* `Headers.ofLines` takes lines with a colon after the name; blanks around the
  name and the value do not count, and every line is split before any name or
  value is checked.
-/

namespace TypedHeaders

/-- The headers of a request, with their names in lower case. -/
structure Headers where
  entries : List (String × String) := []
deriving DecidableEq, Repr

/-- What is given for a name: one value or several. -/
inductive HeaderValue where
  | one (a : Atom)
  | many (as : List Atom)
deriving DecidableEq, Repr

/-- An item of a list that headers are made of. -/
inductive HeaderItem where
  | pair (name : Atom) (value : HeaderValue)
  /-- Something with `parts` parts, which are not two. -/
  | odd (parts : Nat)
deriving DecidableEq, Repr

/-- What headers are made from. -/
inductive HeaderSource where
  /-- No headers at all. -/
  | nothing
  /-- Headers, which are taken as they are. -/
  | headers (h : Headers)
  /-- A table with one value or several for each name. -/
  | table (entries : List (Atom × HeaderValue))
  /-- Items, among which a name may occur any number of times. -/
  | items (items : List HeaderItem)
deriving DecidableEq, Repr

/-- Why a list does not give headers. -/
inductive HeadersError where
  /-- A name or a value that is not Latin-1. -/
  | unencodable (name text : String)
  /-- A value that is an integer with too many digits. -/
  | tooManyDigits
  /-- A name that is no text. -/
  | unnamed (name : Atom)
  /-- An item that is no pair. -/
  | odd (parts : Nat)
  /-- A line without a colon. -/
  | malformed (line : String)
deriving DecidableEq, Repr

/-- The name of an atom's type. -/
def Atom.typeName : Atom → String
  | .absent => "NoneType"
  | .bool _ => "bool"
  | .text _ => "str"
  | .number (.int _) => "int"
  | .number (.float _) => "float"
  | .number (.decimal _) => "decimal.Decimal"

/-- What is said of a list that does not give headers. -/
def HeadersError.message : HeadersError → String
  | .unencodable name text =>
    s!"header {Text.quote name} is not latin-1 encodable: {Text.quote text}"
  | .tooManyDigits =>
    s!"Exceeds the limit ({Numeral.integerText maxIntDigits} digits) for integer string conversion; " ++
      "use sys.set_int_max_str_digits() to increase the limit"
  | .unnamed name => s!"'{name.typeName}' object has no attribute 'lower'"
  | .odd parts =>
    if parts < 2 then s!"not enough values to unpack (expected 2, got {Numeral.integerText parts})"
    else "too many values to unpack (expected 2)"
  | .malformed line => s!"malformed header line: {Text.quote line}"

namespace HeaderValue

/-- The texts of the values that are given, as far as they can be written. -/
def texts : HeaderValue → List (Option String)
  | one a => [a.written?]
  | many as => as.map Atom.written?

end HeaderValue

namespace Headers

/-- A text of the header `name`, which must be Latin-1. -/
def checkLatin (name text : String) : Except HeadersError String :=
  if Text.isLatin text.toList then .ok text else .error (.unencodable name text)

/-- The text of a value of the header `name`, which must be written and Latin-1. -/
def checkWritten (name : String) : Option String → Except HeadersError String
  | some text => checkLatin name text
  | none => .error .tooManyDigits

/-- The entries that an item gives: its name is checked before its values. -/
def ofItem : HeaderItem → Except HeadersError (List (String × String))
  | .pair (.text name) value => do
    let key ← checkLatin name (Text.lower name)
    let values ← value.texts.mapM (checkWritten name)
    return values.map (key, ·)
  | .pair name _ => .error (.unnamed name)
  | .odd parts => .error (.odd parts)

/-- The headers that a list of items gives. -/
def ofItems (items : List HeaderItem) : Except HeadersError Headers := do
  return ⟨(← items.mapM ofItem).flatten⟩

/-- The headers that a source gives. -/
def ofSource : HeaderSource → Except HeadersError Headers
  | .nothing => .ok {}
  | .headers h => .ok h
  | .table entries => ofItems (entries.map fun e => .pair e.1 e.2)
  | .items items => ofItems items

/-- The name and the value of a line. -/
def splitLine (line : String) : Except HeadersError HeaderItem :=
  match line.toList.span (· ≠ ':') with
  | (_, []) => .error (.malformed line)
  | (name, _ :: value) =>
    let trimmed (s : List Char) := Atom.text (String.ofList (Text.trim Text.blank s))
    .ok (.pair (trimmed name) (.one (trimmed value)))

/-- The headers that lines give. -/
def ofLines (lines : List String) : Except HeadersError Headers := do
  ofItems (← lines.mapM splitLine)

/-- The values of a name, in order of arrival. -/
def values (h : Headers) (name : String) : Except Text.Unencodable (List String) :=
  let key := Text.lower name
  match Text.unencodable? key.toList with
  | some u => .error u
  | none => .ok ((h.entries.filter fun e => e.1 = key).map (·.2))

end Headers

end TypedHeaders
