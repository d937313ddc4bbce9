import TypedHeaders.Feed

/-!
# Binding sets

All parameters of one handler that are bound from headers. Parameters are added
one by one until the set is *frozen*; nothing changes it after that, and binding
never does.
-/

namespace TypedHeaders

/-- The parameters that are bound from headers, in the order in which they were added. -/
structure BindingSet where
  params : List Parameter := []
  frozen : Bool := false

/-- Why a parameter of a set cannot be used as asked. -/
inductive BindingSetError where
  /-- A parameter was to be added to a frozen set. -/
  | frozen
  /-- There is no parameter with that token. -/
  | unknownToken
  /-- A parameter that is no record was to be assembled. -/
  | notRecord
deriving DecidableEq, Repr

/-- What is said of a parameter that cannot be used as asked. -/
def BindingSetError.message : BindingSetError → String
  | .frozen => "header binding set is frozen"
  | .unknownToken => "'NoneType' object has no attribute 'record'"
  | .notRecord => "'NoneType' object has no attribute 'fields'"

namespace BindingSet

/-- What the parameters of a set are bound from. -/
def typeName : String := "header"

/-- The set with one more parameter at its end. -/
def add (s : BindingSet) (p : Parameter) : Except BindingSetError BindingSet :=
  if s.frozen then .error .frozen else .ok { s with params := s.params ++ [p] }

/-- The set, to be changed no more. -/
def freeze (s : BindingSet) : BindingSet := { s with frozen := true }

/-- The number of parameters. -/
def size (s : BindingSet) : Nat := s.params.length

/-- Is there any parameter? -/
def isNotEmpty (s : BindingSet) : Bool := !s.params.isEmpty

/-- The length of the shortest feed that has all slots of the set. -/
def feedSize (s : BindingSet) : Nat := s.params.foldl (fun n p => max n (p.slot + 2)) 0

/-- The first parameter with that token. -/
def get? (s : BindingSet) (token : String) : Option Parameter :=
  s.params.find? fun p => p.token = token

/-- Binds all parameters into a feed, up to the first error. -/
def populate (s : BindingSet) (h : Headers) (lenient : Bool) (feed : Feed) :
    Feed × Option BindError :=
  feed.populate h lenient s.params

/-- The values of all parameters, by name. -/
def bind (s : BindingSet) (h : Headers) (lenient : Bool) : Except BindError (Entries Value) :=
  match s.populate h lenient (Feed.empty s.feedSize) with
  | (feed, none) => feed.values s.params
  | (_, some e) => .error e

/-- The values in a feed of the parameters whose flags are set, by name. -/
def arguments (s : BindingSet) (feed : Feed) : Except BindError (Entries Value) :=
  feed.arguments s.params

/-- The record parameter with that token, and its descriptor. -/
def findRecord (s : BindingSet) (token : String) :
    Except BindingSetError (Parameter × RecordDescriptor) :=
  match s.get? token with
  | none => .error .unknownToken
  | some p =>
    match p.reading.record? with
    | none => .error .notRecord
    | some r => .ok (p, r)

end BindingSet

end TypedHeaders
