import TypedHeaders.Atom
import TypedHeaders.Numeral.Grouped

/-!
# Enumerations

An *enumeration* is a type with named members, each of which stands for a value.
The members may be texts, integers or floats at the same time, or nothing else;
what is declared for a member is turned into a value of that kind first. A later
member with the value of an earlier one is another name of that one
(`Enumeration.declare`).
-/

namespace TypedHeaders

open Numeral

/-- What the members of an enumeration are, apart from being members. -/
inductive EnumBase where
  | text
  | int
  /-- Integers, in an enumeration that is an integer type by itself. -/
  | wholeInt
  | float
  /-- Nothing else. -/
  | bare
deriving DecidableEq, Repr

/-- A type with named members, each of which stands for a value. -/
structure Enumeration where
  name : String
  base : EnumBase
  members : List (String × Atom)
  /-- Tells enumerations of the same name apart: they are the same only if they stem from one
      declaration. -/
  declaration : String := ""
deriving DecidableEq, Repr

/-- The integer that a number is without its fractional part. -/
def Number.truncated? : Number → Option Int
  | .int n => some n
  | .float (.finite negative units) =>
    let n : Int := (units / Binary64.unitsPerOne : Nat)
    some (if negative then -n else n)
  | .float _ => none
  | .decimal d =>
    let n : Int :=
      (d.coefficient * Nat.pow 10 d.exponent.toNat / Nat.pow 10 (-d.exponent).toNat : Nat)
    some (if d.negative then -n else n)

namespace EnumBase

/-- The value that a member has for what it is declared with; what cannot be turned into a value of
    the kind is kept. -/
def valueOf (b : EnumBase) (a : Atom) : Atom :=
  match b, a with
  | .text, a => .text a.plain
  | .int, .text s | .wholeInt, .text s =>
    ((readGroupedInteger? s.toList).map fun n => .number (.int n)).getD (.text s)
  | .int, .number n | .wholeInt, .number n =>
    (n.truncated?.map fun n => .number (.int n)).getD (.number n)
  | .float, .text s =>
    ((Binary64.readGrouped? s.toList).map fun x => .number (.float x)).getD (.text s)
  | .float, .number n => .number (.float n.toBinary)
  | _, a => a

/-- Do the members count as what they stand for? -/
def isTransparent (b : EnumBase) : Bool := b != .bare

end EnumBase

namespace Enumeration

/-- The members declared so far with one more; it has the value of an earlier one that is equal to
    its own. -/
def addMember (b : EnumBase) (members : List (String × Atom)) (m : String × Atom) :
    List (String × Atom) :=
  let value := b.valueOf m.2
  let value := ((members.find? fun n => n.2.equal value).map (·.2)).getD value
  members ++ [(m.1, value)]

/-- The enumeration with members declared as given. -/
def declare (name : String) (b : EnumBase) (members : List (String × Atom))
    (declaration : String) : Enumeration where
  name := name
  base := b
  members := members.foldl (addMember b) []
  declaration := declaration

/-- The values of the members. -/
def values (e : Enumeration) : List Atom := e.members.map (·.2)

/-- The name of the first member with the value `a`. -/
def label? (e : Enumeration) (a : Atom) : Option String :=
  (e.members.find? fun m => m.2.equal a).map (·.1)

/-- The value of the member of that name. -/
def value? (e : Enumeration) (label : String) : Option Atom := e.members.lookup label

end Enumeration

end TypedHeaders
