import TypedHeaders.TypeExpr

/-!
# Schemas

What the conversion to a declared type does, as far as messages tell it. The
*schema* of a type is the kind of conversion; the constraints that it checks
itself are its own (`TypeExpr.checks`), and all from the first other one on are
checked after it. The *label* of a type says all this of the type and of the
types within it; problems with a member of a union are put under its label.
-/

namespace TypedHeaders

namespace PlainType

/-- The kind of conversion. -/
def schema : PlainType → String
  | .str => "str"
  | .int => "int"
  | .float => "float"
  | .decimal => "decimal"
  | .bool => "bool"
  | .bytes => "bytes"
  | .dict => "dict"
  | .nothing => "none"
  | .list | .genericList => "list"
  | .tuple => "tuple"
  | .set => "set"
  | .any | .object => "any"

/-- Does the conversion check the constraint itself? -/
def checks (p : PlainType) (c : Constraint) : Bool :=
  match p with
  | .str | .bytes => c.isLength || c.isReshaping
  | .int => c.isNumeric
  | .float => c.isNumeric || c.isFiniteness
  | .decimal => c.isNumeric || c.isFiniteness || c.isDigits
  | .dict | .list | .genericList | .tuple | .set => c.isLength
  | .bool | .nothing | .any | .object => false

/-- Do these limits make a difference to the conversion? -/
def isConstrained (p : PlainType) (l : Limits) : Bool :=
  let length := l.minLength.isSome || l.maxLength.isSome
  let numeric := l.gt.isSome || l.ge.isSome || l.lt.isSome || l.le.isSome || l.multipleOf.isSome
  match p with
  | .str =>
    length || l.strip = some true || l.toUpper = some true || l.toLower = some true
  | .bytes => length
  | .int | .float => numeric
  | _ => false

/-- The label of a plain type within limits. -/
def label (p : PlainType) (l : Limits) : String :=
  match p with
  | .list | .genericList => "list[any]"
  | .set => "set[any]"
  | .tuple => "tuple[any, ...]"
  | .dict => "dict[any,any]"
  | p => if p.isConstrained l then "constrained-" ++ p.schema else p.schema

end PlainType

/-- The kind of conversion to an enumeration. -/
def Enumeration.schema (e : Enumeration) : String :=
  if e.members.isEmpty then "is-instance" else "enum"

/-- The label of an enumeration. -/
def Enumeration.label (e : Enumeration) : String :=
  let kind := match e.base with
    | .text => "str-enum"
    | .int | .wholeInt => "int-enum"
    | .float => "float-enum"
    | .bare => "enum"
  let kind := if e.members.isEmpty then e.schema else kind
  s!"{kind}[{e.name}]"

namespace TypeExpr

/-- The kind of conversion. -/
def schema : TypeExpr → String
  | .plain p => p.schema
  | .enum e => e.schema
  | .literal _ => "literal"
  | .collection .sequence _ => "json-or-python"
  | .collection form _ => form.kind.name
  | .fixedTuple _ => "tuple"
  | .mapping _ _ => "dict"
  | .union _ _ => "union"
  | .annotated t _ | .presence _ t => t.schema
  | .record h _ =>
    match h.kind with
    | .model => "model"
    | .dataclass => "dataclass"
    | .typedDict => "typed-dict"

/-- Does the conversion check the constraint itself? -/
def checks : TypeExpr → Constraint → Bool
  | .plain p, c => p.checks c
  | .collection form _, c => form != .sequence && c.isLength
  | .fixedTuple _, c | .mapping _ _, c => c.isLength
  | _, _ => false

/-- Is it exactly the type of anything? -/
def isAny : TypeExpr → Bool
  | .plain .any => true
  | _ => false

/-- Does the type hold anything, without more being asked? -/
def holdsAnything : TypeExpr → Bool
  | .plain .any | .plain .object => true
  | .annotated t notes => holdsAnything t && (constraintsOf notes).isEmpty
  | _ => false

/-! ## Labels -/

/-- The parts of a label, which are steps one after the other, as one label. -/
def joined : List String → String
  | [s] => s
  | steps => "chain[" ++ String.intercalate "," steps ++ "]"

/-- The label, in steps, of a type with one more constraint checked after it. -/
def labelAfter (steps : List String) : Constraint → List String
  | .reshape r =>
    steps ++ r.names.map fun _ =>
      "function-wrap[_apply_constraint_with_incompatibility_info()]"
  | .allowInfNan false => [s!"function-after[forbid_inf_nan_check(), {joined steps}]"]
  | _ => steps

/-- The label of a type with constraints, given that of the type within the limits it checks. -/
def labelWithin (t : TypeExpr) (cs : List Constraint) (own : Limits → String) : String :=
  let (direct, rest) := cs.span t.checks
  joined (rest.foldl labelAfter [own (.ofConstraints direct)])

/-- The label of a union of types with these labels. -/
def labelOfUnion (labels : List String) : String :=
  "union[" ++ String.intercalate "," labels ++ "]"

mutual

/-- The label of a type with constraints. -/
def label : TypeExpr → List Constraint → String
  | .plain p, cs => labelWithin (.plain p) cs p.label
  | .enum e, cs => labelWithin (.enum e) cs fun _ => e.label
  | .literal vs, cs =>
    labelWithin (.literal vs) cs fun _ =>
      "literal[" ++ String.intercalate "," (vs.map Atom.shown) ++ "]"
  | .collection form item, cs =>
    let name := label item []
    labelWithin (.collection form .nothing) cs fun _ =>
      match form with
      | .tuple => s!"tuple[{name}, ...]"
      | .sequence =>
        let direct :=
          if item.isAny then "is-instance[Sequence]"
          else "chain[is-instance[Sequence],function-wrap[sequence_validator()]]"
        s!"json-or-python[json=list[{name}],python={direct}]"
      | form => s!"{form.kind.name}[{name}]"
  | .fixedTuple ts, cs =>
    let items := labels ts
    labelWithin (.fixedTuple []) cs fun _ => s!"tuple[{Text.commaList items}]"
  | .mapping k v, cs =>
    let (key, value) := (label k [], label v [])
    labelWithin (.mapping .nothing .nothing) cs fun _ => s!"dict[{key},{value}]"
  | .union _ ts, cs =>
    let inner := match otherLabels ts with
      | [_] => firstLabel ts cs
      | names => labelWithin (.union .listed []) cs fun _ => labelOfUnion names
    if ts.any isNothing then s!"nullable[{inner}]" else inner
  | .annotated t notes, cs => label t (constraintsOf notes ++ cs)
  | .presence _ t, cs => label t cs
  | .record h _, cs => labelWithin (.record h []) cs fun _ => h.name

/-- The labels of types. -/
def labels : List TypeExpr → List String
  | [] => []
  | t :: ts => label t [] :: labels ts

/-- The labels of types, the type of nothing apart. -/
def otherLabels : List TypeExpr → List String
  | [] => []
  | t :: ts => if t.isNothing then otherLabels ts else label t [] :: otherLabels ts

/-- The label of the first type that is not the type of nothing, with constraints. -/
def firstLabel : List TypeExpr → List Constraint → String
  | [], _ => "none"
  | t :: ts, cs => if t.isNothing then firstLabel ts cs else label t cs

end

end TypeExpr

end TypedHeaders
