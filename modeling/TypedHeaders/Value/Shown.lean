import TypedHeaders.Value

/-!
# The text of values

How messages show a value. A value *inside* another one is shown so that its
kind can be told: texts stand between quotes, and a member is shown with what it
stands for. A value that stands *alone* is shown plainly: a text as it is, a
member by its name, and a model as its fields only.
-/

namespace TypedHeaders

/-- A member of an enumeration with what it stands for. -/
def Enumeration.shownMember (e : Enumeration) (label : String) : String :=
  s!"<{e.name}.{label}: {((e.value? label).getD .absent).shown}>"

namespace Value

mutual

/-- A value as it is shown inside another one. -/
def inner : Value → String
  | .atom a => a.shown
  | .bytes s => Text.quoteBytes s
  | .member e label => e.shownMember label
  | .collection .list items => s!"[{Text.commaList (innerList items)}]"
  | .collection .tuple [v] => s!"({inner v},)"
  | .collection .tuple items => s!"({Text.commaList (innerList items)})"
  | .collection .set [] => "set()"
  | .collection .set items => "\x7b" ++ Text.commaList (innerList items) ++ "\x7d"
  | .collection .frozenset [] => "frozenset()"
  | .collection .frozenset items => "frozenset(\x7b" ++ Text.commaList (innerList items) ++ "\x7d)"
  | .record h fields => s!"{h.name}({Text.commaList (innerFields fields)})"
  | .dict entries => "\x7b" ++ Text.commaList (innerEntries entries) ++ "\x7d"

/-- Values as they are shown inside another one. -/
def innerList : List Value → List String
  | [] => []
  | v :: vs => inner v :: innerList vs

/-- The fields of a record, each with its name. -/
def innerFields : List (String × Value) → List String
  | [] => []
  | (name, v) :: rest => (name ++ "=" ++ inner v) :: innerFields rest

/-- The entries of a dictionary, each with its key. -/
def innerEntries : List (String × Value) → List String
  | [] => []
  | (key, v) :: rest => (Text.quote key ++ ": " ++ inner v) :: innerEntries rest

end

/-- A value as it is shown alone. -/
def shown : Value → String
  | .atom a => a.plain
  | .member e label =>
    if e.base = .wholeInt then ((e.value? label).getD .absent).plain else e.name ++ "." ++ label
  | .record h fields =>
    if h.kind = .model then String.intercalate " " (innerFields fields)
    else inner (.record h fields)
  | v => v.inner

/-- The name of a value's type. -/
def typeName : Value → String
  | .atom .absent => "NoneType"
  | .atom (.bool _) => "bool"
  | .atom (.text _) => "str"
  | .atom (.number (.int _)) => "int"
  | .atom (.number (.float _)) => "float"
  | .atom (.number (.decimal _)) => "decimal.Decimal"
  | .bytes _ => "bytes"
  | .member e _ => e.name
  | .collection kind _ => kind.name
  | .record h _ => h.name
  | .dict _ => "dict"

end Value

end TypedHeaders
