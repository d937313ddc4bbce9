import TypedHeaders.Headers
import TypedHeaders.Parameter

/-!
# Binding

A parameter is *bound* by looking up its header, casting the texts, converting
the cast value to the declared type and checking the notes.

A header is absent if no value came for it, and empty if its only value is the
empty text. What is nilable is then bound to nothing: if the header is empty
always, if it is absent only under the lenient policy. Everything else is
missing (`Headers.find`).

A record is *assembled* field by field, in the order of its descriptor. A field
that is missing makes a nilable record absent as a whole; the fields after it
are not looked at.
-/

namespace TypedHeaders

/-- What is found under a header. -/
inductive Finding where
  | values (first : String) (rest : List String)
  /-- Nothing, which is a value here. -/
  | nothing
  /-- Nothing, which is not permitted. -/
  | missing
deriving DecidableEq, Repr

/-- What the values of a header come to. -/
def Finding.ofValues (nilable lenient : Bool) : List String → Finding
  | [] => if nilable && lenient then .nothing else .missing
  | [v] => if v = "" then (if nilable then .nothing else .missing) else .values v []
  | v :: vs => .values v vs

/-- Looks up a header. -/
def Headers.find (h : Headers) (key : String) (nilable lenient : Bool) :
    Except BindError Finding :=
  match h.values key with
  | .ok values => .ok (.ofValues nilable lenient values)
  | .error u => .error (.unencodable u)

/-- A header whose text cannot be cast. -/
def BindError.uncast (header : String) (e : CastError) : BindError :=
  .failure ⟨.uncast, header, some (.uncast e)⟩

/-- A header that is absent or empty. -/
def BindError.missing (header : String) : BindError := .failure ⟨.missing, header, none⟩

/-- The value that texts are cast to: of the first of them, or of all. -/
def castTexts (tag : Tag) (isArray : Bool) (first : String) (rest : List String) :
    Except CastError Value :=
  if isArray then (tag.castArray (first :: rest)).map fun as => .collection .list (as.map .atom)
  else (tag.cast first).map .atom

/-! ## Records -/

/-- The value of one field, nothing being returned for one that is missing. -/
def FieldDescriptor.read (f : FieldDescriptor) (h : Headers) (lenient : Bool) :
    Except BindError (Option Value) := do
  match ← h.find f.headerKey f.nilable lenient with
  | .nothing => return some .absent
  | .missing => return none
  | .values first rest =>
    match castTexts f.tag f.isArray first rest with
    | .ok v => return some v
    | .error e => throw (.uncast f.headerKey e)

/-- The values of the remaining fields, added to those assembled so far. -/
def assembleFields (h : Headers) (nilable lenient : Bool) (assembled : Entries Value) :
    List FieldDescriptor → Except BindError (Option (Entries Value))
  | [] => .ok (some assembled)
  | f :: fs => do
    match ← f.read h lenient with
    | some v => assembleFields h nilable lenient (Entries.put f.name v assembled) fs
    | none => if nilable then return none else throw (.missing f.headerKey)

/-- The fields of a record as a dictionary; nothing for a nilable record of which a field is
    missing. -/
def RecordDescriptor.assemble (r : RecordDescriptor) (h : Headers) (nilable lenient : Bool) :
    Except BindError (Option (Entries Value)) :=
  assembleFields h nilable lenient [] r.fields

/-! ## Parameters -/

namespace Parameter

/-- Converts a cast value to the declared type. -/
def convert (p : Parameter) (v : Value) : Except BindError Value :=
  match p.type.convert v with
  | .ok w => .ok w
  | .error (.problem problem) => .error (.failure ⟨.uncast, p.header, some (.refused problem)⟩)
  | .error (.misuse m) => .error (.failure ⟨.uncast, p.header, some (.misused m)⟩)
  | .error (.fault f) => .error (.arithmetic f)

/-- Converts a cast value to the declared type, and checks the notes. -/
def finish (p : Parameter) (v : Value) : Except BindError Value := do
  p.restriction.check p.header (← p.convert v)

/-- The value of a parameter that is bound from its own header. -/
def bindTexts (p : Parameter) (tag : Tag) (h : Headers) (lenient : Bool) :
    Except BindError Value := do
  match ← h.find p.header p.nilable lenient with
  | .nothing => return .absent
  | .missing => throw (.missing p.header)
  | .values first rest =>
    match castTexts tag p.isArray first rest with
    | .ok v => p.finish v
    | .error e => throw (.uncast p.header e)

/-- The value of a parameter. -/
def bind (p : Parameter) (h : Headers) (lenient : Bool) : Except BindError Value :=
  match p.reading with
  | .scalar tag _ | .array tag _ => p.bindTexts tag h lenient
  | .record r _ => do
    match ← r.assemble h p.nilable lenient with
    | some fields => p.finish (.dict fields)
    | none => p.finish .absent

end Parameter

end TypedHeaders
