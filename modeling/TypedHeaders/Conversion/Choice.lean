import TypedHeaders.Conversion.Scalar

/-!
# Choices

Types that have only some values: enumerations and literal types. A value is
looked up among those that the type has, first as what the type's values are, and
then by equality, which does not tell the kinds of numbers apart. Integers are
looked up as such only within the range of 64 bits; one outside it is refused for
its size, as long as there is any integer within it to be found.
-/

namespace TypedHeaders

/-- Is the atom an integer that can be looked up? -/
def Atom.isLookupInteger : Atom → Bool
  | .number (.int n) => inLookupRange n
  | _ => false

namespace Enumeration

/-- The members' values do not have the one that is asked for. -/
def refusal (e : Enumeration) : Rejection :=
  .whole (if e.members.isEmpty then .notInstance e.name else .notAmong e.values)

/-- Is there an integer among the values that can be looked up? -/
def hasIntegers (e : Enumeration) : Bool := e.values.any Atom.isLookupInteger

/-- The member with the value `a`. -/
def find (e : Enumeration) (a : Atom) : Converted Value :=
  match e.label? a with
  | some label => .ofReason .lax (.ok (.member e label))
  | none => .error e.refusal

/-- The member with an integer as its value. -/
def findInteger (e : Enumeration) (n : Int) : Converted Value :=
  if e.hasIntegers && !inLookupRange n then .refuse .oversizedInteger
  else e.find (.number (.int n))

/-- The member that an atom stands for. -/
def findAtom (e : Enumeration) (a : Atom) : Converted Value :=
  match e.base, a with
  | .int, a | .wholeInt, a =>
    match Scalar.integerOfAtom a with
    | .ok n => e.findInteger n.value
    | .error _ => e.find a
  | .float, a =>
    match Scalar.binaryOfAtom a with
    | .ok x => e.find (.number (.float x.value))
    | .error _ => e.find a
  | .bare, .number (.int n) => e.findInteger n
  | .text, a | .bare, a => e.find a

/-- The member that a value stands for; a member stands for itself. -/
def convert (e : Enumeration) (v : Value) : Converted Value :=
  match v with
  | .member e' label =>
    if e' = e then pure (.member e' label)
    else
      match v.atom? with
      | some a => e.findAtom a
      | none => .error e.refusal
  | .atom a => e.findAtom a
  | _ => .error e.refusal

end Enumeration

/-- The value among those listed that an atom is equal to; of several the last one. -/
def findEqual? (values : List Atom) (a : Atom) : Option Atom := values.reverse.find? a.equal

/-- The listed value that a value is, or else one that it is equal to. -/
def convertLiteral (values : List Atom) (v : Value) : Except Reason Atom :=
  let found : Option Atom → Except Reason Atom
    | some a => .ok a
    | none => .error (.notAmong values)
  match v with
  | .atom a =>
    if values.any Atom.isLookupInteger && a matches .number (.int _) && !a.isLookupInteger then
      .error .oversizedInteger
    else if values.contains a && !(a matches .number (.float _) | .number (.decimal _)) then .ok a
    else found (findEqual? values a)
  | v => found (v.atom?.bind (findEqual? values))

end TypedHeaders
