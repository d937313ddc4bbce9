import TypedHeaders.Value

/-!
# Limits

What a declaration asks of a value beyond its type. *Limits* bound numbers,
lengths and digits, and reshape texts; a *marker* says that a parameter is
bound from a header, and from which one; a *remark* says nothing to the binder.
Together they are the *notes* that an annotated type carries.

Limits consist of *constraints*, each of which asks one thing. The constraints
of all notes on a type follow each other in the order of the notes
(`constraintsOf`). Those that the conversion to a type checks itself are put
together as limits again, the later one winning where two say the same
(`Limits.ofConstraints`); the others are checked one by one.
-/

namespace TypedHeaders

/-- The limits on a value. What a limit does not apply to, it does not restrict. -/
structure Limits where
  multipleOf : Option Number := none
  le : Option Number := none
  lt : Option Number := none
  ge : Option Number := none
  gt : Option Number := none
  minLength : Option Nat := none
  maxLength : Option Nat := none
  /-- The largest number of digits of a decimal. -/
  maxDigits : Option Nat := none
  /-- The largest number of digits of a decimal after the point. -/
  decimalPlaces : Option Nat := none
  /-- May a number be infinite or NaN? -/
  allowInfNan : Option Bool := none
  /-- Is white space removed from the ends of a text? -/
  strip : Option Bool := none
  /-- Is a text put into upper case? -/
  toUpper : Option Bool := none
  /-- Is a text put into lower case? -/
  toLower : Option Bool := none
deriving DecidableEq, Repr

/-! ## Constraints -/

/-- How a text is reshaped; what is not said is left alone. -/
structure Reshaping where
  strip : Option Bool := none
  toUpper : Option Bool := none
  toLower : Option Bool := none
deriving DecidableEq, Repr

/-- One thing that is asked of a value. -/
inductive Constraint where
  | gt (bound : Number)
  | ge (bound : Number)
  | lt (bound : Number)
  | le (bound : Number)
  | multipleOf (divisor : Number)
  | minLength (size : Nat)
  | maxLength (size : Nat)
  | allowInfNan (allowed : Bool)
  | maxDigits (count : Nat)
  | decimalPlaces (count : Nat)
  | reshape (how : Reshaping)
deriving DecidableEq, Repr

namespace Constraint

/-- Does it bound a number? -/
def isNumeric : Constraint → Bool
  | gt _ | ge _ | lt _ | le _ | multipleOf _ => true
  | _ => false

/-- Does it bound a length? -/
def isLength : Constraint → Bool
  | minLength _ | maxLength _ => true
  | _ => false

/-- Does it bound the digits of a decimal? -/
def isDigits : Constraint → Bool
  | maxDigits _ | decimalPlaces _ => true
  | _ => false

/-- Is it about infinity and NaN? -/
def isFiniteness : Constraint → Bool
  | allowInfNan _ => true
  | _ => false

/-- Does it reshape a text? -/
def isReshaping : Constraint → Bool
  | reshape _ => true
  | _ => false

/-- The kind of conversion after which the constraint is checked, as messages tell it. -/
def schemaAfter (c : Constraint) : String :=
  if c.isReshaping then "chain" else "function-after"

end Constraint

namespace Reshaping

/-- Is nothing said? -/
def isEmpty (r : Reshaping) : Bool := r = {}

/-- The names of what is said, in the order in which it is done. -/
def names (r : Reshaping) : List String :=
  (r.strip.map fun _ => "strip_whitespace").toList ++ (r.toUpper.map fun _ => "to_upper").toList ++
    (r.toLower.map fun _ => "to_lower").toList

end Reshaping

namespace Limits

/-- How the limits reshape a text. -/
def reshaping (l : Limits) : Reshaping := ⟨l.strip, l.toUpper, l.toLower⟩

/-- The constraints that limits consist of, in the order in which they are checked one by one. -/
def constraints (l : Limits) : List Constraint :=
  (l.gt.map .gt).toList ++ (l.ge.map .ge).toList ++ (l.lt.map .lt).toList ++
    (l.le.map .le).toList ++ (l.multipleOf.map .multipleOf).toList ++
    (l.minLength.map .minLength).toList ++ (l.maxLength.map .maxLength).toList ++
    (l.allowInfNan.map .allowInfNan).toList ++ (l.maxDigits.map .maxDigits).toList ++
    (l.decimalPlaces.map .decimalPlaces).toList ++
    if l.reshaping.isEmpty then [] else [.reshape l.reshaping]

/-- The limits with one more constraint, which wins over what they say about the same. -/
def add (l : Limits) : Constraint → Limits
  | .gt n => { l with gt := some n }
  | .ge n => { l with ge := some n }
  | .lt n => { l with lt := some n }
  | .le n => { l with le := some n }
  | .multipleOf n => { l with multipleOf := some n }
  | .minLength n => { l with minLength := some n }
  | .maxLength n => { l with maxLength := some n }
  | .allowInfNan b => { l with allowInfNan := some b }
  | .maxDigits n => { l with maxDigits := some n }
  | .decimalPlaces n => { l with decimalPlaces := some n }
  | .reshape r =>
    { l with
      strip := r.strip <|> l.strip
      toUpper := r.toUpper <|> l.toUpper
      toLower := r.toLower <|> l.toLower }

/-- Constraints put together. -/
def ofConstraints (cs : List Constraint) : Limits := cs.foldl add {}

end Limits

/-! ## Notes -/

/-- Marks a parameter as bound from a header. -/
structure Marker where
  /-- The header's name; derived from the parameter's name if it is not given or empty. -/
  name : Option String := none
  /-- Does the derived name have hyphens for underscores? If not given, others decide. -/
  convertUnderscores : Option Bool := none
deriving DecidableEq, Repr

/-- What an annotated type carries beside its base. -/
inductive Note where
  | marker (m : Marker)
  /-- Limits, and the names under which a field is given and looked up. -/
  | limits (l : Limits) (aliasName : Option String := none)
      (validationAlias : Option String := none)
  /-- Limits on a text, and how it is reshaped. -/
  | textRules (l : Limits)
  /-- A text without a meaning to the binder. -/
  | remark (s : String)
deriving DecidableEq, Repr

/-- The constraints that a note states. -/
def Note.constraints : Note → List Constraint
  | .limits l _ _ | .textRules l => l.constraints
  | .marker _ | .remark _ => []

/-- Are two notes the same? Limits that are declared apart never are, whatever they say. -/
def Note.same : Note → Note → Bool
  | .limits _ _ _, _ => false
  | n, m => n = m

/-- The marker that a note is. -/
def Note.marker? : Note → Option Marker
  | .marker m => some m
  | _ => none

/-- The constraints that notes state, one after the other. -/
def constraintsOf (notes : List Note) : List Constraint := notes.flatMap Note.constraints

end TypedHeaders
