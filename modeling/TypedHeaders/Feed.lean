import TypedHeaders.Binding

/-!
# Feeds

A *feed* is a row of slots for the arguments of a handler. Each parameter owns
two adjacent slots: one for its value, and one for the flag that says that the
value is there.

Parameters are bound into a feed one by one. The first error ends that: what was
written before stays, and nothing after it is written (`Feed.populate`). A feed
never changes its length; a slot outside it is an error.
-/

namespace TypedHeaders

/-- A row of slots. -/
abbrev Feed := List Value

namespace Feed

/-- A feed of empty slots. -/
def empty (size : Nat) : Feed := List.replicate size .absent

/-- Writes a value and its presence flag. If there is no slot for the flag, the value is written all
    the same, as far as there is a slot for it. -/
def store (feed : Feed) (slot : Nat) (v : Value) : Feed × Option BindError :=
  let written := feed.set slot v
  if slot + 1 < feed.length then (written.set (slot + 1) (.bool true), none)
  else (written, some .noSlotToWrite)

/-- Binds parameters into a feed, up to the first error. -/
def populate (h : Headers) (lenient : Bool) : List Parameter → Feed → Feed × Option BindError
  | [], feed => (feed, none)
  | p :: ps, feed =>
    match p.bind h lenient with
    | .error e => (feed, some e)
    | .ok v =>
      match feed.store p.slot v with
      | (feed, none) => populate h lenient ps feed
      | (feed, some e) => (feed, some e)

/-- The slot, if there is one. -/
def read (feed : Feed) (slot : Nat) : Except BindError Value :=
  match feed[slot]? with
  | some v => .ok v
  | none => .error .noSlotToRead

/-- The values of all parameters, by name. -/
def values (ps : List Parameter) (feed : Feed) : Except BindError (Entries Value) :=
  ps.foldlM (fun entries p => return Entries.put p.name (← feed.read p.slot) entries) []

/-- The values of the parameters whose flags are set, by name. -/
def arguments (ps : List Parameter) (feed : Feed) : Except BindError (Entries Value) :=
  ps.foldlM (fun entries p => do
    if (← feed.read (p.slot + 1)).holds then
      return Entries.put p.name (← feed.read p.slot) entries
    else return entries) []

end Feed

end TypedHeaders
