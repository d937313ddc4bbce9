import TypedHeaders.TypeExpr

/-!
# The text of types

How messages show a declared type. A type that is a class is shown as one if it
stands alone, and by its name inside another type; all other types are shown the
same way in both places. A listed union of a type with nothing is shown as an
optional type.
-/

namespace TypedHeaders

/-- The name of a plain type inside another type. -/
def PlainType.name : PlainType → String
  | .str => "str"
  | .int => "int"
  | .float => "float"
  | .decimal => "decimal.Decimal"
  | .bool => "bool"
  | .bytes => "bytes"
  | .dict => "dict"
  | .nothing => "NoneType"
  | .list => "list"
  | .tuple => "tuple"
  | .set => "set"
  | .genericList => "typing.List"
  | .any => "typing.Any"
  | .object => "object"

/-- Is the plain type shown as a class when it stands alone? -/
def PlainType.isClass (p : PlainType) : Bool := p != .genericList && p != .any

/-- The name of a collection type without its item type. -/
def CollectionForm.name : CollectionForm → String
  | .list => "typing.List"
  | .set => "typing.Set"
  | .frozenset => "typing.FrozenSet"
  | .sequence => "typing.Sequence"
  | .abstractSet => "typing.AbstractSet"
  | .tuple => "typing.Tuple"
  | .builtinList => "list"
  | .builtinSet => "set"
  | .builtinFrozenset => "frozenset"

/-- An optional text as messages show it. -/
def shownText? : Option String → String
  | some s => Text.quote s
  | none => "None"

/-- An optional truth value as messages show it. -/
def shownBool? : Option Bool → String
  | some b => (Atom.bool b).plain
  | none => "None"

/-- A marker as messages show it. -/
def Marker.shown (m : Marker) : String :=
  s!"Header(name={shownText? m.name}, convert_underscores={shownBool? m.convertUnderscores})"

/-- The limits that are set, each as messages show it. -/
def Limits.shownItems (l : Limits) : List String :=
  let number (label field : String) (n : Option Number) : List String :=
    (n.map fun n => s!"{label}({field}={(Atom.number n).shown})").toList
  let size (label field : String) (n : Option Nat) : List String :=
    (n.map fun n => s!"{label}({field}={Numeral.integerText n})").toList
  let general :=
    (l.maxDigits.map fun n => s!"max_digits={Numeral.integerText n}").toList ++
    (l.decimalPlaces.map fun n => s!"decimal_places={Numeral.integerText n}").toList
  number "Gt" "gt" l.gt ++ number "Ge" "ge" l.ge ++ number "Lt" "lt" l.lt ++
    number "Le" "le" l.le ++ number "MultipleOf" "multiple_of" l.multipleOf ++
    size "MinLen" "min_length" l.minLength ++ size "MaxLen" "max_length" l.maxLength ++
    (l.allowInfNan.map fun b => s!"AllowInfNan(allow_inf_nan={(Atom.bool b).plain})").toList ++
    if general.isEmpty then []
    else [s!"_PydanticGeneralMetadata({Text.commaList general})"]

/-- Rules for a text as messages show them. -/
def Limits.shownRules (l : Limits) : String :=
  let size : Option Nat → String
    | some n => Numeral.integerText n
    | none => "None"
  s!"StringConstraints(strip_whitespace={shownBool? l.strip}, to_upper={shownBool? l.toUpper}, " ++
    s!"to_lower={shownBool? l.toLower}, strict=None, min_length={size l.minLength}, " ++
    s!"max_length={size l.maxLength}, pattern=None, ascii_only=None)"

/-- Limits with the names of their field as messages show them. -/
def Limits.shownField (l : Limits) (aliasName validationAlias : Option String) : String :=
  let item (label : String) (name : Option String) : List String :=
    (name.map fun s => s!"{label}={Text.quote s}").toList
  let limits := l.shownItems
  let items :=
    ["annotation=NoneType", "required=True"] ++ item "alias" aliasName ++
    (if (aliasName <|> validationAlias).isSome then ["alias_priority=2"] else []) ++
    item "validation_alias" (validationAlias.filter fun s => aliasName ≠ some s) ++
    if limits.isEmpty then [] else [s!"metadata=[{Text.commaList limits}]"]
  s!"FieldInfo({Text.commaList items})"

/-- A note as messages show it. -/
def Note.shown : Note → String
  | .marker m => m.shown
  | .limits l aliasName validationAlias => l.shownField aliasName validationAlias
  | .textRules l => l.shownRules
  | .remark s => Text.quote s

namespace TypeExpr

mutual

/-- A type as it is shown inside another one. -/
def inner : TypeExpr → String
  | .plain p => p.name
  | .enum e => "m." ++ e.name
  | .literal vs =>
    if vs.isEmpty then "typing.Literal[()]"
    else s!"typing.Literal[{Text.commaList (vs.map Atom.shown)}]"
  | .collection .tuple t => s!"typing.Tuple[{inner t}, ...]"
  | .collection f t => s!"{f.name}[{inner t}]"
  | .fixedTuple ts =>
    if ts.isEmpty then "typing.Tuple[()]" else s!"typing.Tuple[{Text.commaList (innerList ts)}]"
  | .mapping k v => s!"typing.Dict[{inner k}, {inner v}]"
  | .union .barred ts => String.intercalate " | " (barredList ts)
  | .union .listed ts =>
    match ts, innerList ts with
    | [t, u], [s, r] =>
      if isNothing u then s!"typing.Optional[{s}]"
      else if isNothing t then s!"typing.Optional[{r}]"
      else s!"typing.Union[{s}, {r}]"
    | _, names => s!"typing.Union[{Text.commaList names}]"
  | .annotated t ns => s!"typing.Annotated[{inner t}, {Text.commaList (ns.map Note.shown)}]"
  | .presence true t => s!"typing.Required[{inner t}]"
  | .presence false t => s!"typing.NotRequired[{inner t}]"
  | .record h _ => "m." ++ h.name

/-- Types as they are shown inside another one. -/
def innerList : List TypeExpr → List String
  | [] => []
  | t :: ts => inner t :: innerList ts

/-- The members of a barred union as they are shown. -/
def barredList : List TypeExpr → List String
  | [] => []
  | t :: ts => (if isNothing t then "None" else inner t) :: barredList ts

end

/-- A type as it is shown alone. -/
def shown : TypeExpr → String
  | .plain p => if p.isClass then s!"<class '{p.name}'>" else p.name
  | .enum e => s!"<enum '{e.name}'>"
  | .record h _ => s!"<class 'm.{h.name}'>"
  | t => t.inner

end TypeExpr

end TypedHeaders
