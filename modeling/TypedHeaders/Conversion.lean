import TypedHeaders.Conversion.Check
import TypedHeaders.Conversion.Choice
import TypedHeaders.Conversion.Schema
import TypedHeaders.Value.Element

/-!
# Converting values to declared types

A cast value is *converted* to the declared type: a text to the member of an
enumeration that it stands for, a list to a set, a dictionary to an instance of
a record type, and so on. A value that is of the type already stays as it is.
Conversion also checks the constraints that the type's notes state, those of
inner notes before those of outer ones.

* Nothing is a value only of unions with nothing (and of types that hold
  anything). A union takes the first member to which the value belongs exactly,
  and else the one that it fits best (`TypedHeaders.Conversion.Fit`); if there is
  none, the first member's problem is reported.
* The items of a list or a tuple are converted in order; one item too many is
  reported before any problem of an item of a list, but a tuple counts only the
  items that are converted. A set keeps the first of equal items. Sets and
  dictionaries report one item too many as soon as they meet it.
* A record is made of a dictionary, in which each field is looked up under its
  key. A field that is not there holds its fallback, and a dictionary with
  declared keys may leave it out.
* The first problem counts, in the order of places and of declaration, but a
  misused constraint and a fault of arithmetic come before any problem.
-/

namespace TypedHeaders

open Numeral

/-! ## Collections -/

/-- The items of a value that a collection can be made of. -/
def itemsFor (kind : CollectionKind) : Value → Converted (List Value)
  | .collection k items => .ofReason (if k = kind then .exact else .lax) (.ok items)
  | _ => .refuse (.notCollection kind)

/-- The items of a list. If there are too many, no more of them than the first one too many are
    looked at. -/
def gatherList (l : Limits) (items : List (Converted Value)) : Converted (List Value) := do
  let size := items.length
  if let some n := l.maxLength then
    if n < size then
      if let some e := (items.take (n + 1)).findSome? Converted.final? then
        .error e
      else
        .refuse (.tooManyItems (.collection .list) n (some size))
  let items ← Converted.all items
  .ofReason .exact (l.checkSize (.collection .list) true items.length)
  return items

/-- The items of a tuple, after those in `kept`; the value had `size` items, and the tuple has so
    many `places` if they are limited. Only items that are converted count. A problem of an item
    waits for the end, where the first one counts. -/
def gatherTuple (l : Limits) (size : Nat) (places : Option Nat) (kept : Fitted (List Value))
    (problem : Option Problem) : List (Converted Value) → Converted (List Value)
  | [] =>
    if places.any (· < size) then .refuse (.tooManyItems (.collection .tuple) (places.getD 0) size)
    else if l.minLength.any (kept.value.length < ·) then
      .refuse (.tooFewItems (.collection .tuple) (l.minLength.getD 0) kept.value.length)
    else
      match problem with
      | some p => .error (.problem p)
      | none => .ok kept
  | .error (.problem p) :: rest => gatherTuple l size places kept (problem <|> some p) rest
  | .error e :: _ => .error e
  | .ok v :: rest =>
    let kept := kept.push v
    if l.maxLength.any (· < kept.value.length) then
      .refuse (.tooManyItems (.collection .tuple) (l.maxLength.getD 0) size)
    else gatherTuple l size places kept problem rest

/-- The different items of a set, after those in `kept`. A problem of an item waits for the end,
    where the first one counts; an item that cannot be an element is a problem. -/
def gatherDistinct (kind : CollectionKind) (limit : Option Nat) (kept : Fitted (List Value))
    (problem : Option Problem) : List (Nat × Converted Value) → Converted (List Value)
  | [] =>
    match problem with
    | some p => .error (.problem p)
    | none => .ok kept
  | (_, .error (.problem p)) :: rest => gatherDistinct kind limit kept (problem <|> some p) rest
  | (_, .error e) :: _ => .error e
  | (place, .ok v) :: rest =>
    if !v.value.canBeElement then
      let p : Problem := ⟨[integerText place], .notElement⟩
      gatherDistinct kind limit kept (problem <|> some p) rest
    else
      let kept :=
        if kept.value.any (·.sameElement v.value) then
          { kept with fit := kept.fit.both v.fit }
        else kept.push v
      if limit.any (· < kept.value.length) then
        .refuse (.tooManyItems (.collection kind) (limit.getD 0) none)
      else gatherDistinct kind limit kept problem rest

/-- The different items of a set. -/
def gatherSet (kind : CollectionKind) (l : Limits) (items : List (Converted Value)) :
    Converted (List Value) := do
  let items ← gatherDistinct kind l.maxLength ⟨[], {}⟩ none (items.zipIdx.map fun (v, i) => (i, v))
  .ofReason .exact (l.checkSize (.collection kind) false items.length)
  return items

/-- The collection of converted items. -/
def gather (kind : CollectionKind) (l : Limits) (items : List (Converted Value)) :
    Converted Value := do
  let items := Converted.placed items
  match kind with
  | .list => return .collection .list (← gatherList l items)
  | .tuple => return .collection .tuple (← gatherTuple l items.length none ⟨[], {}⟩ none items)
  | .set | .frozenset => return .collection kind (← gatherSet kind l items)

/-- The list of items that may be anything, which are not looked at. -/
def gatherAnything (l : Limits) (items : List Value) : Converted Value := do
  .ofReason .exact (l.checkSize (.collection .list) true items.length)
  return .collection .list items

/-- An item that may be anything. -/
def convertAnything (v : Value) : Converted Value := .ofReason .strict (.ok v)

/-- The entries of a dictionary, after those in `kept`. A problem of an entry waits for the end,
    where the first one counts. -/
def gatherEntries (limit : Option Nat) (kept : Fitted (Entries Value)) (problem : Option Problem) :
    List (Converted (String × Value)) → Converted (Entries Value)
  | [] =>
    match problem with
    | some p => .error (.problem p)
    | none => .ok kept
  | .error (.problem p) :: rest => gatherEntries limit kept (problem <|> some p) rest
  | .error e :: _ => .error e
  | .ok ⟨(key, v), fit⟩ :: rest =>
    let kept : Fitted (Entries Value) := ⟨Entries.put key v kept.value, kept.fit.both fit⟩
    if limit.any (· < kept.value.length) then
      .refuse (.tooManyItems .dictionary (limit.getD 0) none)
    else gatherEntries limit kept problem rest

/-- The dictionary of converted entries. -/
def gatherDictionary (l : Limits) (entries : List (Converted (String × Value))) :
    Converted Value := do
  let entries ← gatherEntries l.maxLength ⟨[], {}⟩ none entries
  .ofReason .exact (l.checkSize .dictionary false entries.length)
  return .dict entries

/-- A key as it is kept: as the text that it is converted to, or else as it came. -/
def keptKey (key : String) : Value → String
  | .text s => s
  | _ => key

/-! ## Plain types -/

/-- Converts to a type that is written as a single name. -/
def convertPlain (p : PlainType) (l : Limits) (v : Value) : Converted Value :=
  match p with
  | .str => do
    let s ← Scalar.toText v
    return .text (← .ofReason .exact (l.reshape s))
  | .int => do
    let n ← Scalar.toInteger v
    .ofReason .exact (l.checkNumber (.int n))
    return .int n
  | .float => do
    let x ← Scalar.toBinary v
    .ofReason .exact (l.checkNumber (.float x))
    return .float x
  | .decimal => do
    let d ← Scalar.toDecimal v
    .ofReason .exact (l.checkNumber (.decimal d))
    return .decimal d
  | .bool => return .bool (← Scalar.toBool v)
  | .bytes => do
    let s ← Scalar.toBytes v
    .ofReason .exact (l.checkBytes s.utf8ByteSize)
    return .bytes s
  | .dict =>
    match v with
    | .dict entries =>
      gatherDictionary l (entries.map fun (key, w) => do return (key, ← convertAnything w))
    | _ => .refuse .notDictionary
  | .nothing => if v.isAbsent then pure .absent else .refuse .notNothing
  | .list | .genericList => do gatherAnything l (← itemsFor .list v)
  | .tuple => do gather .tuple l ((← itemsFor .tuple v).map convertAnything)
  | .set => do gather .set l ((← itemsFor .set v).map convertAnything)
  | .any | .object => convertAnything v

/-! ## Sequences -/

/-- The value as a sequence, apart from its items. -/
def asSequence (v : Value) : Except Reason (CollectionKind × List Value) :=
  match v, v.atom? with
  | .collection .list items, _ => .ok (.list, items)
  | .collection .tuple items, _ => .ok (.tuple, items)
  | .bytes _, _ | _, some (.text _) => .error (.textForSequence v.typeName)
  | _, _ => .error .notSequence

/-- The value, if it is a sequence of anything, as texts are too. -/
def convertSequence (v : Value) : Converted Value :=
  match asSequence v with
  | .error .notSequence => .refuse .notSequence
  | _ => pure v

/-! ## Records -/

/-- Is a key with this type there or not, as the type itself states? -/
def TypeExpr.presence? : TypeExpr → Option Bool
  | .presence required _ => some required
  | .annotated t _ => t.presence?
  | _ => none

/-- May an instance leave out a field of this type? -/
def RecordHead.mayOmit (h : RecordHead) (t : TypeExpr) : Bool :=
  h.kind = .typedDict && !(t.presence?.getD h.total)

/-- The instance with these fields. -/
def RecordHead.build (h : RecordHead) (fields : Entries Value) : Value :=
  match h.kind with
  | .model | .dataclass => .record h fields
  | .typedDict => .dict fields

/-- How close a dictionary is to an instance that is made of it. -/
def RecordHead.closeness (h : RecordHead) : Closeness :=
  match h.kind with
  | .model => .lax
  | .dataclass => .strict
  | .typedDict => .exact

/-- What is said of a value that no instance can be made of. -/
def RecordHead.refusal (h : RecordHead) : Reason :=
  match h.kind with
  | .model => .notModel h.name
  | .dataclass => .notDataclass h.name
  | .typedDict => .notDictionary

/-- Is the value an instance of the record type already? -/
def RecordHead.isInstance (h : RecordHead) : Value → Bool
  | .record h' _ => h.kind != .typedDict && h' = h
  | _ => false

/-- A field as it is converted. -/
structure ConvertedField where
  name : String
  /-- What the field holds, unless it is left out. -/
  value : Option Value
  /-- Was there a value under the key of the field? -/
  given : Bool

/-- The fields of an instance, those that are left out apart. -/
def Entries.ofFields (fields : List ConvertedField) : Entries Value :=
  fields.filterMap fun f => f.value.map (f.name, ·)

/-- The instance with these fields, which were found in a dictionary. -/
def RecordHead.finish (h : RecordHead) (fields : List ConvertedField) : Converted Value :=
  .ok ⟨h.build (.ofFields fields),
    { closeness := h.closeness, fields := some (fields.countP (·.given)) }⟩

/-! ## Unions -/

/-- The better one of two results, the first one if they are equally good. -/
def betterOf (a : Option (Fitted Value)) (b : Fitted Value) : Fitted Value :=
  match a with
  | none => b
  | some a => if a.fit.isBetter b.fit then b else a

/-- The result of a union, given the best result so far and the first problem. The members that
    remain are given with their labels. -/
def chooseBest (best : Option (Fitted Value)) (problem : Option Problem) :
    List (String × Converted Value) → Converted Value
  | [] =>
    match best, problem with
    | some v, _ => .ok v
    | none, some p => .error (.problem p)
    | none, none => .refuse .notNothing
  | (_, .ok v) :: rest =>
    if v.fit.isBest then .ok v else chooseBest (some (betterOf best v)) problem rest
  | (label, .error (.problem p)) :: rest =>
    chooseBest best (problem <|> some (p.inside label)) rest
  | (_, .error e) :: _ => .error e

/-! ## Declared types -/

/-- Converts a value within the limits that the conversion to the type checks itself, and checks the
    other constraints after it. -/
def TypeExpr.within (t : TypeExpr) (cs : List Constraint) (own : Limits → Converted Value) :
    Converted Value := do
  let (direct, rest) := cs.span t.checks
  let v ← own (.ofConstraints direct)
  .ofCheck (Constraint.checkAll t.schema rest v)

mutual

/-- Converts a value to a declared type under constraints. -/
def convert : TypeExpr → List Constraint → Value → Converted Value
  | .plain p, cs, v => TypeExpr.within (.plain p) cs fun l => convertPlain p l v
  | .enum e, cs, v => TypeExpr.within (.enum e) cs fun _ => e.convert v
  | .literal values, cs, v =>
    TypeExpr.within (.literal values) cs fun _ =>
      .ofReason .exact ((convertLiteral values v).map .atom)
  | .collection form item, cs, v =>
    TypeExpr.within (.collection form item) cs fun l =>
      match form with
      | .sequence =>
        if item.isAny then convertSequence v
        else do
          let (kind, items) ← .ofReason .exact (asSequence v)
          let items ← Converted.all (Converted.placed (items.map fun w => convert item [] w))
          return .collection kind items
      | form => do
        let items ← itemsFor form.kind v
        if form.kind = .list && item.holdsAnything then gatherAnything l items
        else gather form.kind l (items.map fun w => convert item [] w)
  | .fixedTuple ts, cs, v =>
    TypeExpr.within (.fixedTuple ts) cs fun l => do
      let items ← itemsFor .tuple v
      let items ← gatherTuple l items.length (some ts.length) ⟨[], {}⟩ none
        (Converted.placed (convertPlaces ts items))
      return .collection .tuple items
  | .mapping key value, cs, v =>
    TypeExpr.within (.mapping key value) cs fun l =>
      match v with
      | .dict entries =>
        gatherDictionary l (entries.map fun (k, w) => do
          let (k', w) ← Converted.inside k
            (Converted.both (Converted.inside "[key]" (convert key [] (.text k)))
              (convert value [] w))
          return (keptKey k k', w))
      | _ => .refuse .notDictionary
  | .union style ts, cs, v =>
    if v.isAbsent ∧ ts.any TypeExpr.isNothing then pure .absent
    else if (ts.countP fun t => !t.isNothing) = 1 then convertOther ts cs v
    else TypeExpr.within (.union style ts) cs fun _ => chooseBest none none (convertEach ts v)
  | .annotated t notes, cs, v => convert t (constraintsOf notes ++ cs) v
  | .presence _ t, cs, v => convert t cs v
  | .record h fields, cs, v =>
    TypeExpr.within (.record h fields) cs fun _ =>
      if h.isInstance v then pure v
      else
        match v with
        | .dict entries => do h.finish (← convertFields h entries fields)
        | _ => .refuse h.refusal

/-- Converts a value to the first of some types that is not the type of nothing. -/
def convertOther : List TypeExpr → List Constraint → Value → Converted Value
  | [], _, _ => .refuse .notNothing
  | t :: ts, cs, v => if t.isNothing then convertOther ts cs v else convert t cs v

/-- Converts a value to each of some types, the type of nothing apart; each result comes with the
    label of its type. -/
def convertEach : List TypeExpr → Value → List (String × Converted Value)
  | [], _ => []
  | t :: ts, v =>
    if t.isNothing then convertEach ts v else (t.label [], convert t [] v) :: convertEach ts v

/-- Converts values to the types of their places. -/
def convertPlaces : List TypeExpr → List Value → List (Converted Value)
  | [], _ => []
  | _ :: ts, [] => .refuse .required :: convertPlaces ts []
  | t :: ts, v :: vs => convert t [] v :: convertPlaces ts vs

/-- Converts the fields of a record type, each with the value under its key. The limits beside the
    type of a model's field come before the outermost notes, elsewhere after them. -/
def convertFields (h : RecordHead) (entries : Entries Value) :
    List Field → Converted (List ConvertedField)
  | [] => pure []
  | ⟨name, t, aliasName, validationAlias, fallback, limits⟩ :: fields =>
    let key := Field.key ⟨name, t, aliasName, validationAlias, fallback, limits⟩
    let own := (limits.map Limits.constraints).getD []
    let convertValue (v : Value) : Converted Value :=
      match h.kind, t with
      | .model, .annotated base notes => convert base (own ++ constraintsOf notes) v
      | _, t => convert t own v
    let field : Converted ConvertedField :=
      match entries.lookup key with
      | some v => Converted.inside key (do return ⟨name, some (← convertValue v), true⟩)
      | none =>
        if fallback.isSome ∨ h.mayOmit t then pure ⟨name, fallback, false⟩
        else Converted.inside key (.refuse .required)
    do
      let (f, fs) ← Converted.both field (convertFields h entries fields)
      return f :: fs

end

/-- Converts a value to a declared type. -/
def TypeExpr.convert (t : TypeExpr) (v : Value) : Except Rejection Value :=
  (TypedHeaders.convert t [] v).result

end TypedHeaders
