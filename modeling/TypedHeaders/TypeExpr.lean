import TypedHeaders.Limits

/-!
# Declared types

The types that parameters and record fields are declared with. They are read
off a signature, where types may be nested in any way; which of them headers
can be bound to is another matter (see `TypedHeaders.Resolution`).

Types are built by `TypeExpr.unionOf`, `TypeExpr.pipe`, `TypeExpr.optional` and
`TypeExpr.annotate`, which keep three rules:

* the members of a union are no unions themselves, and no two of them are the
  same;
* a union has at least two members;
* what an annotated type annotates is not itself annotated.
-/

namespace TypedHeaders

/-- The types that are written as a single name. -/
inductive PlainType where
  | str
  | int
  | float
  | decimal
  | bool
  | bytes
  | dict
  /-- The type of nothing. -/
  | nothing
  | list
  | tuple
  | set
  /-- The generic list type without its argument. -/
  | genericList
  | any
  | object
deriving DecidableEq, Repr

/-- The ways to write a collection type with one type of items. -/
inductive CollectionForm where
  | list
  | set
  | frozenset
  | sequence
  | abstractSet
  /-- A tuple of any length. -/
  | tuple
  | builtinList
  | builtinSet
  | builtinFrozenset
deriving DecidableEq, Repr

/-- The two ways to write a union: as a list of its members, or with bars between them. -/
inductive UnionStyle where
  | listed
  | barred
deriving DecidableEq, Repr

mutual

/-- A declared type. -/
inductive TypeExpr where
  | plain (p : PlainType)
  | enum (e : Enumeration)
  /-- The type of exactly these values. -/
  | literal (values : List Atom)
  | collection (form : CollectionForm) (item : TypeExpr)
  /-- A tuple with a type for each place. -/
  | fixedTuple (items : List TypeExpr)
  | mapping (key value : TypeExpr)
  | union (style : UnionStyle) (members : List TypeExpr)
  | annotated (base : TypeExpr) (notes : List Note)
  /-- A dictionary key that must be there, or need not be. -/
  | presence (required : Bool) (item : TypeExpr)
  | record (head : RecordHead) (fields : List Field)

/-- A declared field of a record type. -/
structure Field where
  name : String
  type : TypeExpr
  /-- The name under which the field is given from outside, wherever it is declared: a name that a
      note on the type declares for the field is to be found here, and not read off the type. -/
  aliasName : Option String := none
  /-- The name under which the conversion looks for the field, if it is not the alias; it, too, may
      be declared by a note on the type. -/
  validationAlias : Option String := none
  /-- What the field holds if it is not given. -/
  fallback : Option Value := none
  /-- The limits that are declared beside the type. -/
  limits : Option Limits := none

end

/-- The kind of collection that a type's values are. -/
def CollectionForm.kind : CollectionForm → CollectionKind
  | .list | .sequence | .builtinList => .list
  | .set | .builtinSet => .set
  | .frozenset | .abstractSet | .builtinFrozenset => .frozenset
  | .tuple => .tuple

namespace TypeExpr

/-- The type of nothing. -/
@[match_pattern] abbrev nothing : TypeExpr := .plain .nothing

instance : Inhabited TypeExpr := ⟨nothing⟩

instance : Inhabited Field := ⟨{ name := "", type := nothing }⟩

/-- Is it the type of nothing? -/
def isNothing : TypeExpr → Bool
  | nothing => true
  | _ => false

/-! ## When two types are the same -/

/-- Are two lists of notes the same, place by place? -/
def sameNotes : List Note → List Note → Bool
  | [], [] => true
  | n :: ns, m :: ms => n.same m && sameNotes ns ms
  | _, _ => false

mutual

/-- Are two types the same? The order of the members of a union or of a literal type does not
    count, and neither does the way a union is written. -/
def same : TypeExpr → TypeExpr → Bool
  | .plain p, .plain q => p = q
  | .enum e, .enum f => e = f
  | .literal vs, .literal ws => vs.all ws.contains && ws.all vs.contains
  | .collection f t, .collection g u => f = g && same t u
  | .fixedTuple ts, .fixedTuple us => sameList ts us
  | .mapping k v, .mapping l w => same k l && same v w
  | .union _ ts, .union _ us => ts.length = us.length && sameMembers ts us
  | .annotated t ns, .annotated u ms => same t u && sameNotes ns ms
  | .presence r t, .presence q u => r = q && same t u
  | .record h _, .record i _ => h = i
  | _, _ => false

/-- Are two lists of types the same, place by place? -/
def sameList : List TypeExpr → List TypeExpr → Bool
  | [], [] => true
  | t :: ts, u :: us => same t u && sameList ts us
  | _, _ => false

/-- Is each of the types the same as one of the others? -/
def sameMembers : List TypeExpr → List TypeExpr → Bool
  | [], _ => true
  | t :: ts, us => us.any (same t) && sameMembers ts us

end

/-! ## Building types -/

/-- The types without those that an earlier one is the same as. -/
def distinct (ts : List TypeExpr) : List TypeExpr :=
  ts.foldl (fun kept t => if kept.any (·.same t) then kept else kept ++ [t]) []

/-- The members of a union; any other type is its own only member. -/
def members : TypeExpr → List TypeExpr
  | .union _ ts => ts
  | t => [t]

/-- The union of some types, which is their only member if there is just one. -/
def unionOf (style : UnionStyle) (ts : List TypeExpr) : TypeExpr :=
  match distinct (ts.flatMap members) with
  | [t] => t
  | ts => .union style ts

/-- The union of a type with nothing. -/
def optional (t : TypeExpr) : TypeExpr := unionOf .listed [t, nothing]

/-- Does a bar beside the type make a union of the listed kind? -/
def isGeneric : TypeExpr → Bool
  | .plain p => p = .genericList
  | .enum _ | .record _ _ => false
  | .collection f _ => f != .builtinList && f != .builtinSet && f != .builtinFrozenset
  | .union style _ => style = .listed
  | .literal _ | .fixedTuple _ | .mapping _ _ | .annotated _ _ | .presence _ _ => true

/-- Two types with a bar between them. -/
def bar (t u : TypeExpr) : TypeExpr :=
  unionOf (if t.isGeneric || u.isGeneric then .listed else .barred) [t, u]

/-- Types with bars between them, put together from the left. -/
def pipe : List TypeExpr → TypeExpr
  | [] => nothing
  | t :: ts => ts.foldl bar t

/-- The type with notes; those of an annotated type come first. -/
def annotate (t : TypeExpr) (notes : List Note) : TypeExpr :=
  match t with
  | .annotated base inner => .annotated base (inner ++ notes)
  | t => .annotated t notes

/-- The type of exactly these values, each counted once. -/
def literalOf (values : List Atom) : TypeExpr := .literal values.eraseDups

/-- The type without the notes around it. -/
def unwrap : TypeExpr → TypeExpr
  | .annotated t _ => unwrap t
  | t => t

/-- The notes of an annotated type. -/
def notes : TypeExpr → List Note
  | .annotated _ ns => ns
  | _ => []

end TypeExpr

/-- The type that a field is declared with, as its record type states it. A model takes what is
    annotated out of the notes; elsewhere limits beside a type are notes on it. -/
def Field.declared (kind : RecordKind) (f : Field) : TypeExpr :=
  match kind with
  | .model =>
    match f.type with
    | .annotated t _ => t
    | t => t
  | .dataclass | .typedDict =>
    match f.limits with
    | some l => f.type.annotate [.limits l f.aliasName f.validationAlias]
    | none => f.type

/-- The key under which the conversion of a record looks for the field. -/
def Field.key (f : Field) : String :=
  (f.validationAlias <|> f.aliasName).getD f.name

end TypedHeaders
