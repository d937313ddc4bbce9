import TypedHeaders.Naming
import TypedHeaders.Resolution

/-!
# Record descriptors

How the fields of a record type are bound: each field from the values of its own
header, as a scalar or an array. A *descriptor* lists the fields in the order of
declaration. Fields that are records themselves cannot be bound.

The header of a model's field is its alias if it has one that is not empty;
every other header is derived from the field's name.
-/

namespace TypedHeaders

/-- How one field of a record is bound. -/
structure FieldDescriptor where
  /-- The key under which the field is assembled. -/
  name : String
  headerKey : String
  tag : Tag
  isArray : Bool := false
  nilable : Bool := false
deriving DecidableEq, Repr

/-- How the fields of a record are bound. -/
structure RecordDescriptor where
  fields : List FieldDescriptor := []
deriving DecidableEq, Repr

/-- The headers of the fields. -/
def RecordDescriptor.keys (r : RecordDescriptor) : List String := r.fields.map (·.headerKey)

/-- The alias of a model's field, if it is not empty. -/
def Field.boundAlias? (kind : RecordKind) (f : Field) : Option String :=
  if kind = .model then f.aliasName.filter (· ≠ "") else none

/-- How a declared field is bound. -/
def Field.describe (kind : RecordKind) (convert : Bool) (f : Field) :
    Except DescriptorError FieldDescriptor := do
  match ← (f.declared kind).resolve with
  | ⟨.record, _, _⟩ | ⟨_, none, _⟩ => throw .nestedRecord
  | ⟨k, some tag, nilable⟩ =>
    return {
      name := (f.boundAlias? kind).getD f.name
      headerKey := (f.boundAlias? kind).getD (headerKey convert f.name)
      tag := tag
      isArray := k = .array
      nilable := nilable }

/-- The descriptor of a record type. The first field that cannot be bound is reported. -/
def RecordDescriptor.ofFields (h : RecordHead) (convert : Bool) (fields : List Field) :
    Except DescriptorError RecordDescriptor := do
  return ⟨← fields.mapM fun f => (f.describe h.kind convert).mapError (.ofField h.name f.name)⟩

/-- The descriptor of a type that resolves to a record. -/
def RecordDescriptor.ofType (convert : Bool) (t : TypeExpr) :
    Except DescriptorError RecordDescriptor :=
  match t with
  | .record h fields => ofFields h convert fields
  | t => .error (.unsupported t)

end TypedHeaders
