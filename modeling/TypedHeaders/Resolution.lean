import TypedHeaders.TypeExpr.Shown
import TypedHeaders.Cast

/-!
# Resolving declared types

Which declared types a header can be bound to, and how. A type *resolves* to a
scalar or an array of a tag, or to a record, and is *nilable* if it is a union
with nothing.

* A scalar is a text, an integer, a float, a decimal or a truth value, an
  enumeration of texts or integers, or a literal type whose values are all
  texts, all integers or all truth values.
* An array is a list, a tuple of any length, a set or the like, of scalars.
* A record is a model, a dataclass or a dictionary with declared keys.

Notes around the type, and around the other member of a union with nothing, do
not count; a union with more than one other member does not resolve.
-/

namespace TypedHeaders

/-- The ways in which a parameter is bound. -/
inductive ParamKind where
  | scalar
  | array
  | record
deriving DecidableEq, Repr

/-- The name of a kind. -/
def ParamKind.name : ParamKind → String
  | .scalar => "scalar"
  | .array => "array"
  | .record => "record"

/-- The kind of that name. -/
def ParamKind.ofName? (name : String) : Option ParamKind :=
  [ParamKind.scalar, .array, .record].find? fun k => k.name = name

/-- How a declared type is bound. -/
structure Resolution where
  kind : ParamKind
  /-- The tag of a scalar or of an array's items; a record has none. -/
  tag : Option Tag
  nilable : Bool
deriving DecidableEq, Repr

/-- Why the types of a handler cannot be bound from headers. -/
inductive DescriptorError where
  /-- The type does not resolve. -/
  | unsupported (type : TypeExpr)
  /-- A record field is a record itself. -/
  | nestedRecord
  /-- A field of a record type is at fault. -/
  | ofField (record field : String) (error : DescriptorError)
  /-- A parameter of a handler is at fault. -/
  | ofParameter (handler parameter : String) (error : DescriptorError)

/-- What is said of a handler whose types cannot be bound from headers. -/
def DescriptorError.message : DescriptorError → String
  | .unsupported t => s!"unsupported header type: {t.shown}"
  | .nestedRecord => "nested record headers are not supported"
  | .ofField record field e => s!"{record}.{field}: {e.message}"
  | .ofParameter handler parameter e => s!"{handler}({parameter}): {e.message}"

namespace TypeExpr

/-- Is it a union with nothing, or the type of nothing? -/
def isOptional : TypeExpr → Bool
  | .union _ ts => ts.any isNothing
  | t => t.isNothing

/-- The type without nothing among its members. -/
def stripOptional : TypeExpr → TypeExpr
  | .union _ ts =>
    match ts.filter fun t => !t.isNothing with
    | [t] => t
    | us => .union .listed us
  | t => t

/-- The tag of an atom's kind. -/
def atomTag? : Atom → Option Tag
  | .text _ => some .string
  | .bool _ => some .boolean
  | .number (.int _) => some .int
  | .number (.float _) => some .float
  | .number (.decimal _) => some .decimal
  | .absent => none

/-- The tag that all of the atoms have. -/
def commonTag? : List Atom → Option Tag
  | [] => none
  | v :: vs => if vs.all fun w => atomTag? w = atomTag? v then atomTag? v else none

/-- The tag of a scalar type. -/
def scalarTag? (t : TypeExpr) : Option Tag :=
  match t.unwrap with
  | .literal vs => commonTag? vs
  | .enum e =>
    match e.base with
    | .text => some .string
    | .int | .wholeInt => some .int
    | .float | .bare => none
  | .plain .str => some .string
  | .plain .int => some .int
  | .plain .float => some .float
  | .plain .decimal => some .decimal
  | .plain .bool => some .boolean
  | _ => none

/-- The tag of an array type's items. -/
def arrayTag? : TypeExpr → Option Tag
  | .collection _ item => item.scalarTag?
  | _ => none

/-- Is it a record type? -/
def isRecord : TypeExpr → Bool
  | .record _ _ => true
  | _ => false

/-- Resolves a declared type. -/
def resolve (t : TypeExpr) : Except DescriptorError Resolution :=
  let declared := t.unwrap
  let nilable := declared.isOptional
  let base := declared.stripOptional.unwrap
  match base.scalarTag? with
  | some tag => .ok ⟨.scalar, some tag, nilable⟩
  | none =>
    match base.arrayTag? with
    | some tag => .ok ⟨.array, some tag, nilable⟩
    | none =>
      if base.isRecord then .ok ⟨.record, none, nilable⟩
      else .error (.unsupported t)

end TypeExpr

end TypedHeaders
