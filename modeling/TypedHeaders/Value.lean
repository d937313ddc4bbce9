import TypedHeaders.Enumeration

/-!
# Values

What headers are bound to. A *value* is an atom, the bytes of a text, a member
of an enumeration, a collection, an instance of a record type, or a dictionary.
-/

namespace TypedHeaders

open Numeral

/-- The kinds of collection. -/
inductive CollectionKind where
  | list
  | tuple
  | set
  | frozenset
deriving DecidableEq, Repr

/-- The name of a kind of collection. -/
def CollectionKind.name : CollectionKind → String
  | .list => "list"
  | .tuple => "tuple"
  | .set => "set"
  | .frozenset => "frozenset"

/-- The kinds of record type. -/
inductive RecordKind where
  | model
  | dataclass
  /-- A dictionary with declared keys. -/
  | typedDict
deriving DecidableEq, Repr

/-- A record type apart from its fields. -/
structure RecordHead where
  kind : RecordKind
  name : String
  /-- Must every key of a dictionary with declared keys be there? -/
  total : Bool := true
  /-- Tells record types of the same name apart: they are the same only if they stem from one
      declaration. -/
  declaration : String := ""
deriving DecidableEq, Repr

/-- A value that a header can be bound to. -/
inductive Value where
  | atom (a : Atom)
  /-- The bytes of a text in UTF-8. -/
  | bytes (encoded : String)
  /-- The member `label` of an enumeration. -/
  | member (type : Enumeration) (label : String)
  | collection (kind : CollectionKind) (items : List Value)
  /-- An instance of a record type, with its fields in the order of declaration. -/
  | record (type : RecordHead) (fields : List (String × Value))
  /-- A dictionary, in the order in which its keys were written. -/
  | dict (entries : List (String × Value))

namespace Value

/-- No value. -/
@[match_pattern] abbrev absent : Value := .atom .absent

@[match_pattern] abbrev bool (b : Bool) : Value := .atom (.bool b)

@[match_pattern] abbrev text (s : String) : Value := .atom (.text s)

@[match_pattern] abbrev number (n : Number) : Value := .atom (.number n)

@[match_pattern] abbrev int (n : Int) : Value := .atom (.number (.int n))

@[match_pattern] abbrev float (x : Binary64) : Value := .atom (.number (.float x))

@[match_pattern] abbrev decimal (d : Decimal) : Value := .atom (.number (.decimal d))

instance : Inhabited Value := ⟨absent⟩

/-- Is it no value? -/
def isAbsent : Value → Bool
  | absent => true
  | _ => false

/-- The atom that a value counts as: itself, or what a member stands for if the members of its
    enumeration count as that. -/
def atom? : Value → Option Atom
  | .atom a => some a
  | .member e label => if e.base.isTransparent then e.value? label else none
  | _ => none

/-- The number that a value counts as. -/
def number? (v : Value) : Option Number := v.atom?.bind Atom.number?

/-- Does the value count as true where a flag is expected? Nothing, zero and whatever is empty do
    not. -/
def holds : Value → Bool
  | absent => false
  | bool b => b
  | text s | .bytes s => !s.isEmpty
  | number n => n.nonzero
  | .collection _ items => !items.isEmpty
  | .dict entries => !entries.isEmpty
  | .member _ _ | .record _ _ => true

/-- How many parts a value has: the characters of a text, the bytes, the items of a collection or
    the keys of a dictionary. -/
def size? : Value → Option Nat
  | .bytes s => some s.utf8ByteSize
  | .collection _ items => some items.length
  | .dict entries => some entries.length
  | v =>
    match v.atom? with
    | some (.text s) => some s.length
    | _ => none

end Value

/-! ## Tables in order of arrival -/

/-- A table whose keys keep the order in which they were first written. -/
abbrev Entries (α : Type) := List (String × α)

/-- The table with the key's value set: in its place if the key is there, at the end otherwise. -/
def Entries.put {α : Type} (key : String) (value : α) : Entries α → Entries α
  | [] => [(key, value)]
  | (k, v) :: rest => if k = key then (key, value) :: rest else (k, v) :: Entries.put key value rest

end TypedHeaders
