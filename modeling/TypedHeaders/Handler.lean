import TypedHeaders.BindingSet

/-!
# Handlers

A *handler* is a function that takes what was bound as named arguments. Each
parameter of its signature owns two slots of the feed, whether it is bound from
a header or not, so that the feed lines up with the signature. Bound are those
parameters whose outermost notes hold a marker.

A *binder* is a handler with its binding set, which is made once.
-/

namespace TypedHeaders

/-- The signature of a function that takes named arguments. -/
structure Handler where
  name : String
  /-- The names of the parameters, with their declared types as far as there are any. -/
  params : List (String × Option TypeExpr)

namespace Handler

/-- The parameter that a place of the signature declares, if it is bound from a header. -/
def parameterAt (convert : Bool) (handler : String) (place : Nat) (name : String) :
    Option TypeExpr → Except DeclarationError (Option Parameter)
  | none => .ok none
  | some declared =>
    if (Parameter.markerOf? declared.notes).isNone then .ok none
    else
      ((Parameter.declare convert name (2 * place) declared none).map some).mapError
        (.ofHandler handler name)

/-- The parameters that are bound from headers; `place` is that of the first one given. -/
def headerParams (convert : Bool) (handler : String) (place : Nat) :
    List (String × Option TypeExpr) → Except DeclarationError (List Parameter)
  | [] => .ok []
  | (name, declared) :: rest => do
    let p ← parameterAt convert handler place name declared
    let ps ← headerParams convert handler (place + 1) rest
    return p.toList ++ ps

/-- The binding set of a handler. -/
def bindingSet (convert : Bool) (h : Handler) : Except DeclarationError BindingSet := do
  return BindingSet.freeze { params := ← headerParams convert h.name 0 h.params }

end Handler

/-- A handler with its binding set. -/
structure Binder where
  handler : Handler
  set : BindingSet

namespace Binder

/-- The binder of a handler. -/
def ofHandler (convert : Bool) (h : Handler) : Except DeclarationError Binder := do
  return ⟨h, ← h.bindingSet convert⟩

/-- The length of the feed for all parameters of the signature. -/
def feedSize (b : Binder) : Nat := 2 * b.handler.params.length

/-- A feed with all bound parameters. -/
def populate (b : Binder) (h : Headers) (lenient : Bool) : Except BindError Feed :=
  match b.set.populate h lenient (Feed.empty b.feedSize) with
  | (feed, none) => .ok feed
  | (_, some e) => .error e

/-- The named arguments that are bound from headers. -/
def bind (b : Binder) (h : Headers) (lenient : Bool) : Except BindError (Entries Value) := do
  b.set.arguments (← b.populate h lenient)

/-- The named arguments with which the handler is called: those that are bound from headers, and
    then those that the caller adds. -/
def call (b : Binder) (h : Headers) (lenient : Bool) (added : Entries Value) :
    Except BindError (Entries Value) := do
  return (← b.bind h lenient) ++ added

end Binder

end TypedHeaders
