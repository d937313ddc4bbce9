import TypedHeaders.Problem

/-!
# How well a value fits

A value may be converted to several types, and a union has to choose between
them. The result of a conversion is therefore kept with its *fit*: how close the
value was to the type, and how many fields of records were given to it. A
conversion of several parts is as close as the least close of them.

The more given fields the better, where both results have records; at equal
numbers, or where one of the results has no record, the closer result is better
(`Fit.isBetter`).
-/

namespace TypedHeaders

/-- How close a value is to the type that it is converted to. -/
inductive Closeness where
  /-- It stands for a value of the type. -/
  | lax
  /-- It is one without loss. -/
  | strict
  /-- It is one already. -/
  | exact
deriving DecidableEq, Repr

namespace Closeness

/-- The rank of a degree of closeness; closer is higher. -/
def rank : Closeness → Nat
  | lax => 0
  | strict => 1
  | exact => 2

/-- The less close one of two. -/
def meet (a b : Closeness) : Closeness := if a.rank ≤ b.rank then a else b

end Closeness

/-- How well a value fits the type that it is converted to. -/
structure Fit where
  closeness : Closeness := .exact
  /-- How many fields of records are given, if there are records. -/
  fields : Option Nat := none
deriving DecidableEq, Repr

namespace Fit

/-- The sum of two numbers of fields. -/
def addFields : Option Nat → Option Nat → Option Nat
  | some m, some n => some (m + n)
  | m, n => m <|> n

/-- The fit of a value of two parts. -/
def both (a b : Fit) : Fit := ⟨a.closeness.meet b.closeness, addFields a.fields b.fields⟩

/-- Is nothing better than this? -/
def isBest (f : Fit) : Bool := f = {}

/-- Is `b` better than `a`? -/
def isBetter (a b : Fit) : Bool :=
  match a.fields, b.fields with
  | some m, some n => if m = n then a.closeness.rank < b.closeness.rank else m < n
  | _, _ => a.closeness.rank < b.closeness.rank

end Fit

/-- A result with how well the value fitted. -/
structure Fitted (α : Type) where
  value : α
  fit : Fit := {}

/-- A list of results with one more at its end. -/
def Fitted.push {α : Type} (xs : Fitted (List α)) (x : Fitted α) : Fitted (List α) :=
  ⟨xs.value ++ [x.value], xs.fit.both x.fit⟩

/-- The result of a conversion. -/
def Converted (α : Type) := Except Rejection (Fitted α)

namespace Converted

variable {α β : Type}

/-- The result, which is to be made of what was converted first, by one more conversion. -/
def bind (a : Converted α) (f : α → Converted β) : Converted β :=
  match a with
  | .error e => .error e
  | .ok x =>
    match f x.value with
    | .error e => .error e
    | .ok y => .ok ⟨y.value, x.fit.both y.fit⟩

instance : Monad Converted where
  pure a := .ok ⟨a, {}⟩
  bind := bind

instance : Inhabited (Converted α) := ⟨.error (.whole .required)⟩

/-- A refusal of the value as a whole. -/
def refuse (r : Reason) : Converted α := .error (.whole r)

/-- A result of this closeness, or a refusal of the value as a whole. -/
def ofReason (c : Closeness) : Except Reason α → Converted α
  | .ok a => .ok ⟨a, { closeness := c }⟩
  | .error r => refuse r

/-- A check that does not change how well a value fits. -/
def ofCheck : Except Rejection α → Converted α
  | .ok a => .ok ⟨a, {}⟩
  | .error e => .error e

/-- A result that is no closer than this. -/
def atMost (c : Closeness) (a : Converted α) : Converted α :=
  a.map fun x => { x with fit := x.fit.both { closeness := c } }

/-- The result without how well it fits. -/
def result (a : Converted α) : Except Rejection α := a.map (·.value)

/-- The results of two conversions. The first problem counts, but what ends a conversion at once
    comes before any problem. -/
def both (a : Converted α) (b : Converted β) : Converted (α × β) :=
  match a, b with
  | .ok x, .ok y => .ok ⟨(x.value, y.value), x.fit.both y.fit⟩
  | .ok _, .error e => .error e
  | .error e, .ok _ => .error e
  | .error e, .error f => .error (if !e.isFinal && f.isFinal then f else e)

/-- All results, if all are values. -/
def all : List (Converted α) → Converted (List α)
  | [] => pure []
  | a :: rest => do
    let (x, xs) ← both a (all rest)
    return x :: xs

/-- The conversion of a part of a value. -/
def inside (part : String) (a : Converted α) : Converted α := a.mapError (·.inside part)

/-- The conversions of items, each with its place in the path. -/
def placed (as : List (Converted α)) : List (Converted α) :=
  as.zipIdx.map fun (a, i) => a.inside (Numeral.integerText i)

/-- What ended a conversion at once. -/
def final? : Converted α → Option Rejection
  | .error e => if e.isFinal then some e else none
  | .ok _ => none

end Converted

end TypedHeaders
