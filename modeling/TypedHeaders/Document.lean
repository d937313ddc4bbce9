import TypedHeaders.Value

/-!
# Documents

JSON documents, as answers are written. Objects keep the order of their entries.

There are two layouts. The *compact* one has no white space, and escapes only
what must be escaped. The *indented* one puts every item on a line of its own,
two spaces deeper than what holds it, and escapes every character that is not
printable ASCII, characters beyond the first 65536 as a pair of surrogates.
-/

namespace TypedHeaders

open Numeral

/-- A JSON document. -/
inductive Document where
  | null
  | bool (b : Bool)
  /-- A number, as it is written. -/
  | number (written : String)
  | text (s : String)
  | array (items : List Document)
  | object (entries : List (String × Document))

namespace Document

/-- An integer. -/
def int (n : Int) : Document := number (integerText n)

/-! ## Texts -/

/-- A UTF-16 unit as an escape. -/
def unitEscape (n : Nat) : List Char := '\\' :: 'u' :: Text.hexDigits 4 n

/-- A character as an escape of one unit or two. -/
def unitEscapes (c : Char) : List Char :=
  if c.toNat < 0x10000 then unitEscape c.toNat
  else
    unitEscape (0xD800 + (c.toNat - 0x10000) / 0x400) ++
      unitEscape (0xDC00 + (c.toNat - 0x10000) % 0x400)

/-- A character of a text; `ascii` tells whether all but printable ASCII is escaped. -/
def textChar (ascii : Bool) (c : Char) : List Char :=
  if c = '"' || c = '\\' then ['\\', c]
  else if c = '\n' then ['\\', 'n']
  else if c = '\r' then ['\\', 'r']
  else if c = '\t' then ['\\', 't']
  else if c = '\x08' then ['\\', 'b']
  else if c = '\x0c' then ['\\', 'f']
  else if c.toNat < 0x20 || (ascii && 0x7F ≤ c.toNat) then unitEscapes c
  else [c]

/-- A text between quotes. -/
def quoted (ascii : Bool) (s : String) : String :=
  String.ofList ('"' :: s.toList.flatMap (textChar ascii) ++ ['"'])

/-! ## Layouts -/

mutual

/-- The document in the compact layout. -/
def compact : Document → String
  | null => "null"
  | bool b => if b then "true" else "false"
  | number written => written
  | text s => quoted false s
  | array items => "[" ++ String.intercalate "," (compactItems items) ++ "]"
  | object entries => "\x7b" ++ String.intercalate "," (compactEntries entries) ++ "\x7d"

/-- Items in the compact layout. -/
def compactItems : List Document → List String
  | [] => []
  | d :: ds => compact d :: compactItems ds

/-- Entries in the compact layout. -/
def compactEntries : List (String × Document) → List String
  | [] => []
  | (key, d) :: rest => (quoted false key ++ ":" ++ compact d) :: compactEntries rest

end

/-- The start of a line at some depth. -/
def newLine (depth : Nat) : String := "\n" ++ String.ofList (List.replicate (2 * depth) ' ')

/-- Items between brackets, each on a line of its own at the depth below `depth`. -/
def block (opening closing : String) (depth : Nat) (items : List String) : String :=
  if items.isEmpty then opening ++ closing
  else
    opening ++ newLine (depth + 1) ++ String.intercalate ("," ++ newLine (depth + 1)) items ++
      newLine depth ++ closing

mutual

/-- The document in the indented layout, inside something at that depth. -/
def indentedAt (depth : Nat) : Document → String
  | null => "null"
  | bool b => if b then "true" else "false"
  | number written => written
  | text s => quoted true s
  | array items => block "[" "]" depth (indentedItems (depth + 1) items)
  | object entries => block "\x7b" "\x7d" depth (indentedEntries (depth + 1) entries)

/-- Items in the indented layout. -/
def indentedItems (depth : Nat) : List Document → List String
  | [] => []
  | d :: ds => indentedAt depth d :: indentedItems depth ds

/-- Entries in the indented layout. -/
def indentedEntries (depth : Nat) : List (String × Document) → List String
  | [] => []
  | (key, d) :: rest =>
    (quoted true key ++ ": " ++ indentedAt depth d) :: indentedEntries depth rest

end

/-- The document in the indented layout. -/
def indented (d : Document) : String := indentedAt 0 d

/-! ## Documents of values -/

/-- The document of an atom. A decimal is written as a text. -/
def ofAtom : Atom → Document
  | .absent => null
  | .bool b => bool b
  | .text s => text s
  | .number (.int n) => int n
  | .number (.float x) => if x.isFinite then number x.text else null
  | .number (.decimal d) => text d.text

mutual

/-- The document of a value: members of enumerations count as what they stand for, and records
    are objects. -/
def ofValue : Value → Document
  | .atom a => ofAtom a
  | .bytes s => text s
  | .member e label => ofAtom ((e.value? label).getD .absent)
  | .collection _ items => array (ofItems items)
  | .record _ fields => object (ofFields fields)
  | .dict entries => object (ofFields entries)

/-- The documents of items. -/
def ofItems : List Value → List Document
  | [] => []
  | v :: vs => ofValue v :: ofItems vs

/-- The documents of fields. -/
def ofFields : List (String × Value) → List (String × Document)
  | [] => []
  | (name, v) :: rest => (name, ofValue v) :: ofFields rest

end

/-- An object of texts. -/
def ofTexts (entries : Entries String) : Document :=
  object (entries.map fun (key, s) => (key, text s))

end Document

end TypedHeaders
