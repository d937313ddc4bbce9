import TypedHeaders.Record
import TypedHeaders.Conversion
import TypedHeaders.Conversion.Build
import TypedHeaders.Failure

/-!
# Parameters

A *parameter* describes how one declared parameter of a handler is bound from
the headers of a request. It is made once for the declaration and then serves
every request.

* `Parameter.declare` makes it from the declared type, whose notes may hold a
  marker; the other notes are checked after the value is converted.
* `Parameter.ofParts` makes it from its parts, which must fit together.

What a declared type says of the parameter is read off it first
(`Parameter.ofType`). A parameter is made only if its conversions can be built:
that to its type, and that to its type without nothing under the notes that are
checked (`Parameter.build`).
-/

namespace TypedHeaders

/-! ## Checking notes -/

/-- The notes that a value of a base type is checked against once it is converted. -/
structure Restriction where
  base : TypeExpr
  notes : List Note

namespace Restriction

/-- Is there anything to check? -/
def active (r : Restriction) : Bool := !r.notes.isEmpty

/-- Why the conversion by which values are checked is not built; without notes, there is none. -/
def buildError? (r : Restriction) : Option BuildError :=
  if r.active then (r.base.annotate r.notes).buildError? else none

/-- Checks a value of the header `header`. Nothing is passed on untouched: whether there has to be
    a value is not a matter of the notes. -/
def check (r : Restriction) (header : String) (v : Value) : Except BindError Value :=
  if !r.active || v.isAbsent then .ok v
  else
    match (r.base.annotate r.notes).convert v with
    | .ok w => .ok w
    | .error (.problem p) => .error (.failure ⟨.invalid, header, some (.refused p)⟩)
    | .error (.misuse m) => .error (.misuse m)
    | .error (.fault f) => .error (.arithmetic f)

end Restriction

/-! ## Parameters -/

/-- How the value of a parameter is read from the headers. A parameter that is read from one header
    may have a descriptor all the same, which only serves to assemble a record when asked to; and
    the tag of a record serves nothing. -/
inductive Reading where
  /-- The first value of a header. -/
  | scalar (tag : Tag) (descriptor : Option RecordDescriptor := none)
  /-- All values of a header. -/
  | array (tag : Tag) (descriptor : Option RecordDescriptor := none)
  /-- The headers of the fields of a record. -/
  | record (descriptor : RecordDescriptor) (tag : Option Tag := none)
deriving DecidableEq, Repr

namespace Reading

/-- The kind of parameter that is read this way. -/
def kind : Reading → ParamKind
  | scalar _ _ => .scalar
  | array _ _ => .array
  | record _ _ => .record

/-- The tag of the parameter. -/
def tag? : Reading → Option Tag
  | scalar tag _ | array tag _ => some tag
  | record _ tag => tag

/-- The descriptor of a record. -/
def record? : Reading → Option RecordDescriptor
  | scalar _ descriptor | array _ descriptor => descriptor
  | record descriptor _ => some descriptor

end Reading

/-- How one parameter is bound. -/
structure Parameter where
  name : String
  /-- The header that the parameter is bound from. -/
  header : String
  /-- The slot of the value in the feed; the slot after it is that of the presence flag. -/
  slot : Nat
  reading : Reading
  /-- The declared type, to which the cast value is converted. -/
  type : TypeExpr
  nilable : Bool := false
  /-- What is checked after the conversion. -/
  notes : List Note := []

namespace Parameter

/-- The text by which a parameter is found. -/
def token (p : Parameter) : String := p.header

/-- What is checked after the conversion, of a value that is there. -/
def restriction (p : Parameter) : Restriction := ⟨p.type.stripOptional, p.notes⟩

/-- Is the parameter bound from all values of its header? -/
def isArray (p : Parameter) : Bool := p.reading.kind = .array

/-- Is the parameter bound from the headers of the fields of a record? -/
def isRecord (p : Parameter) : Bool := p.reading.kind = .record

/-- The first marker among the notes. -/
def markerOf? (notes : List Note) : Option Marker := notes.findSome? Note.marker?

/-- The notes that are no markers. -/
def remaining (notes : List Note) : List Note := notes.filter fun n => n.marker?.isNone

/-- The type below the outermost notes. -/
def target : TypeExpr → TypeExpr
  | .annotated t _ => t
  | t => t

/-- What a declaration says of a parameter, before its conversions are built. A marker that is given
    wins over those among the outermost notes, of which the first one counts; `convert` says
    whether underscores are converted where the marker does not. -/
def ofType (convert : Bool) (name : String) (slot : Nat) (declared : TypeExpr)
    (given : Option Marker) : Except DescriptorError Parameter := do
  let marker := (given <|> markerOf? declared.notes).getD {}
  let type := target declared
  let resolution ← type.resolve
  let reading ← match resolution.kind, resolution.tag with
    | .scalar, some tag => pure (Reading.scalar tag)
    | .array, some tag => pure (Reading.array tag)
    | _, _ =>
      let record := type.unwrap.stripOptional.unwrap
      pure (Reading.record (← RecordDescriptor.ofType (marker.converts convert) record))
  return {
    name := name
    header := marker.headerName convert name
    slot := slot
    reading := reading
    type := type
    nilable := resolution.nilable
    notes := remaining declared.notes }

end Parameter

/-! ## Parameters from their parts -/

/-- Why parts do not make a parameter. -/
inductive ParameterError where
  | unknownKind (name : String)
  | recordWithoutDescriptor (parameter : String)
  | valueWithoutTag (parameter : String)
  | negativeSlot
  /-- A conversion of its values is not built. -/
  | unbuilt (e : BuildError)
deriving DecidableEq, Repr

/-- What is said of parts that do not make a parameter. -/
def ParameterError.message : ParameterError → String
  | .unknownKind name => s!"{Text.quote name} is not a valid ParamKind"
  | .recordWithoutDescriptor p => s!"record header parameter '{p}' needs a record descriptor"
  | .valueWithoutTag p => s!"header parameter '{p}' needs an effective type tag"
  | .negativeSlot => "feed_index must be non-negative"
  | .unbuilt e => e.message

namespace Parameter

/-- Why a conversion of the parameter's values is not built: that to its type comes first. -/
def buildError? (p : Parameter) : Option BuildError :=
  p.type.buildError? <|> p.restriction.buildError?

/-- The parameter with its conversions built, for a slot that must not be negative. -/
def build (slot : Int) (p : Parameter) : Except ParameterError Parameter :=
  if slot < 0 then .error .negativeSlot
  else
    match p.buildError? with
    | some e => .error (.unbuilt e)
    | none => .ok p

end Parameter

/-- The parts of a parameter. -/
structure ParameterParts where
  name : String
  header : String
  slot : Int
  kind : String
  type : TypeExpr
  tag : Option Tag := none
  nilable : Bool := false
  record : Option RecordDescriptor := none
  notes : List Note := []

namespace ParameterParts

/-- How the value is read, if the parts for that are there. -/
def reading (parts : ParameterParts) : Except ParameterError Reading :=
  match ParamKind.ofName? parts.kind with
  | none => .error (.unknownKind parts.kind)
  | some .record =>
    match parts.record with
    | some r => .ok (.record r parts.tag)
    | none => .error (.recordWithoutDescriptor parts.name)
  | some kind =>
    match parts.tag with
    | some tag =>
      .ok (if kind = .array then .array tag parts.record else .scalar tag parts.record)
    | none => .error (.valueWithoutTag parts.name)

end ParameterParts

/-- The parameter that parts make up. -/
def Parameter.ofParts (parts : ParameterParts) : Except ParameterError Parameter := do
  let reading ← parts.reading
  Parameter.build parts.slot {
    name := parts.name
    header := parts.header
    slot := parts.slot.toNat
    reading := reading
    type := parts.type
    nilable := parts.nilable
    notes := parts.notes }

/-! ## Declared parameters -/

/-- Why a declaration does not give a parameter. -/
inductive DeclarationError where
  | descriptor (e : DescriptorError)
  | parameter (e : ParameterError)

namespace DeclarationError

/-- What is said of a declaration that does not give a parameter. -/
def message : DeclarationError → String
  | descriptor e => e.message
  | parameter e => e.message

/-- The error of a parameter of a handler. The parameter is named only if its type cannot be
    bound. -/
def ofHandler (handler name : String) : DeclarationError → DeclarationError
  | descriptor e => descriptor (.ofParameter handler name e)
  | e => e

end DeclarationError

/-- The parameter that a declaration describes; what the declaration says is looked at first. -/
def Parameter.declare (convert : Bool) (name : String) (slot : Int) (declared : TypeExpr)
    (given : Option Marker) : Except DeclarationError Parameter := do
  let p ← (Parameter.ofType convert name slot.toNat declared given).mapError .descriptor
  (p.build slot).mapError .parameter

end TypedHeaders
