import TypedHeaders.Value
import TypedHeaders.Template

/-!
# Problems with values

Why a value is refused by a declared type. A *problem* is a reason and the path
to the part of the value that it concerns: the keys and places that lead there
from the outside. It is described as the path, its parts joined by points, and
the reason; empty parts are dropped, and the path with them if nothing is left.

A *rejection* is a problem, the *misuse* of a constraint on a value that it does
not fit, or a *fault* of arithmetic. The last two blame no part of a value.
-/

namespace TypedHeaders

open Numeral

/-- What has a size. -/
inductive Sized where
  | collection (kind : CollectionKind)
  | dictionary
  /-- Anything else that holds items. -/
  | value
deriving DecidableEq, Repr

/-- What a sized thing is called. -/
def Sized.name : Sized → String
  | .collection .list => "List"
  | .collection .tuple => "Tuple"
  | .collection .set => "Set"
  | .collection .frozenset => "Frozenset"
  | .dictionary => "Dictionary"
  | .value => "Value"

/-- A bound as a message tells it. -/
inductive Bound where
  /-- Written out in full. -/
  | plain (n : Number)
  /-- An infinite bound of decimals. -/
  | infinity (negative : Bool)
  /-- Shown as the value that it is. -/
  | shown (n : Number)
deriving DecidableEq, Repr

/-- The text of a bound. -/
def Bound.text : Bound → String
  | .plain (.float x) | .shown (.float x) => x.plainText
  | .plain n => n.text
  | .infinity negative => if negative then "-Infinity" else "Infinity"
  | .shown n => (Atom.number n).shown

/-- Why a value, or a part of it, is refused. -/
inductive Reason where
  | notText
  | notInteger
  /-- A text that is no integer. -/
  | unreadableInteger
  /-- An integer that is too large to be looked up, or to be read. -/
  | oversizedInteger
  /-- A number with a fractional part for an integer. -/
  | fractional
  | notNumber
  /-- A text that is no number. -/
  | unreadableNumber
  | notFinite
  | notBool
  /-- A value that stands for neither truth value. -/
  | unreadableBool
  | notDecimal
  /-- A text that is no decimal. -/
  | unreadableDecimal
  | notBytes
  | notNothing
  | notDictionary
  | notCollection (kind : CollectionKind)
  | notSequence
  /-- A text, or the like, for a sequence. -/
  | textForSequence (typeName : String)
  /-- An element of a set that cannot be one. -/
  | notElement
  /-- No instance of the model of that name, and no dictionary. -/
  | notModel (name : String)
  /-- No instance of the dataclass of that name, and no dictionary. -/
  | notDataclass (name : String)
  /-- No instance of the type of that name. -/
  | notInstance (name : String)
  /-- Not one of these values. -/
  | notAmong (values : List Atom)
  /-- A field without a value. -/
  | required
  | notMultiple (of : Bound)
  /-- More than the bound, which is allowed itself. -/
  | above (bound : Bound)
  /-- The bound or more. -/
  | notBelow (bound : Bound)
  /-- Less than the bound, which is allowed itself. -/
  | below (bound : Bound)
  /-- The bound or less. -/
  | notAbove (bound : Bound)
  | tooManyDigits (limit : Nat)
  | tooManyPlaces (limit : Nat)
  /-- Too many digits before the point. -/
  | tooManyWholeDigits (limit : Nat)
  | textTooShort (limit : Nat)
  | textTooLong (limit : Nat)
  | tooFewBytes (limit : Nat)
  | tooManyBytes (limit : Nat)
  | tooFewItems (what : Sized) (limit actual : Nat)
  /-- The number of items is given unless counting stopped at the limit. -/
  | tooManyItems (what : Sized) (limit : Nat) (actual : Option Nat)
  /-- A text that is no template, where one was to be filled. -/
  | malformedTemplate (m : Template.Malformed)
deriving DecidableEq, Repr

namespace Reason

/-- A number of things, with their name in the singular or the plural. -/
def counted (n : Nat) (one many : String) : String :=
  integerText n ++ " " ++ if n = 1 then one else many

/-- The values of a choice, with "or" before the last one. -/
def choice : List String → String
  | [] => ""
  | [a] => a
  | [a, b] => s!"{a} or {b}"
  | a :: rest => s!"{a}, {choice rest}"

/-- What is said of a value that is refused. -/
def message : Reason → String
  | notText => "Input should be a valid string"
  | notInteger => "Input should be a valid integer"
  | unreadableInteger =>
    "Input should be a valid integer, unable to parse string as an integer"
  | oversizedInteger => "Unable to parse input string as an integer, exceeded maximum size"
  | fractional => "Input should be a valid integer, got a number with a fractional part"
  | notNumber => "Input should be a valid number"
  | unreadableNumber => "Input should be a valid number, unable to parse string as a number"
  | notFinite => "Input should be a finite number"
  | notBool => "Input should be a valid boolean"
  | unreadableBool => "Input should be a valid boolean, unable to interpret input"
  | notDecimal => "Decimal input should be an integer, float, string or Decimal object"
  | unreadableDecimal => "Input should be a valid decimal"
  | notBytes => "Input should be a valid bytes"
  | notNothing => "Input should be None"
  | notDictionary => "Input should be a valid dictionary"
  | notCollection kind => s!"Input should be a valid {kind.name}"
  | notSequence => "Input should be an instance of Sequence"
  | textForSequence typeName => s!"'{typeName}' instances are not allowed as a Sequence value"
  | notElement => "Set items should be hashable"
  | notModel name => s!"Input should be a valid dictionary or instance of {name}"
  | notDataclass name => s!"Input should be a dictionary or an instance of {name}"
  | notInstance name => s!"Input should be an instance of {name}"
  | notAmong values => s!"Input should be {choice (values.map Atom.shown)}"
  | required => "Field required"
  | notMultiple b => s!"Input should be a multiple of {b.text}"
  | above b => s!"Input should be less than or equal to {b.text}"
  | notBelow b => s!"Input should be less than {b.text}"
  | below b => s!"Input should be greater than or equal to {b.text}"
  | notAbove b => s!"Input should be greater than {b.text}"
  | tooManyDigits n =>
    "Decimal input should have no more than " ++ counted n "digit" "digits" ++ " in total"
  | tooManyPlaces n =>
    "Decimal input should have no more than " ++ counted n "decimal place" "decimal places"
  | tooManyWholeDigits n =>
    "Decimal input should have no more than " ++ counted n "digit" "digits" ++
      " before the decimal point"
  | textTooShort n => "String should have at least " ++ counted n "character" "characters"
  | textTooLong n => "String should have at most " ++ counted n "character" "characters"
  | tooFewBytes n => "Data should have at least " ++ counted n "byte" "bytes"
  | tooManyBytes n => "Data should have at most " ++ counted n "byte" "bytes"
  | tooFewItems what n actual =>
    s!"{what.name} should have at least " ++ counted n "item" "items" ++
      s!" after validation, not {integerText actual}"
  | tooManyItems what n actual =>
    let actual := match actual with
      | some k => integerText k
      | none => "more"
    s!"{what.name} should have at most " ++ counted n "item" "items" ++
      s!" after validation, not {actual}"
  | malformedTemplate m => s!"Value error, {m.message}"

end Reason

/-- A reason and the path to what it concerns, from the outside in. -/
structure Problem where
  path : List String := []
  reason : Reason
deriving DecidableEq, Repr

/-- The problem on one line. -/
def Problem.described (p : Problem) : String :=
  match p.path.filter (· ≠ "") with
  | [] => p.reason.message
  | parts => String.intercalate "." parts ++ ": " ++ p.reason.message

/-- The problem of a part of a value, as one of the value. -/
def Problem.inside (part : String) (p : Problem) : Problem := { p with path := part :: p.path }

/-! ## Constraints that do not fit -/

/-- The use of a constraint on a value that it does not fit. Values are given as they are shown. -/
inductive Misuse where
  | constraint (name value : String)
  /-- A text was to be reshaped that is none; the schema is that of the type. -/
  | reshaping (name value schema : String)
  /-- Something that is no number was to be finite. -/
  | finiteness (typeName : String)
deriving DecidableEq, Repr

/-- What is said of a constraint that does not fit. -/
def Misuse.message : Misuse → String
  | .constraint name value => s!"Unable to apply constraint '{name}' to supplied value {value}"
  | .reshaping name value schema =>
    s!"Unable to apply constraint '{name}' to supplied value {value} " ++
      s!"for schema of type '{schema}'"
  | .finiteness typeName => s!"must be real number, not {typeName}"

/-! ## Faults of arithmetic -/

/-- What a fault of decimal arithmetic is called. -/
def Numeral.Decimal.ArithmeticFault.condition : Decimal.ArithmeticFault → String
  | .overflow => "Overflow"
  | .divisionByZero => "DivisionByZero"
  | .divisionUndefined => "DivisionUndefined"
  | .divisionImpossible => "DivisionImpossible"
  | .zeroModulus => "InvalidOperation"

/-- A calculation without a result. -/
inductive Fault where
  | decimal (f : Decimal.ArithmeticFault)
  /-- The remainder of a division by zero, of integers or of floats. -/
  | zeroModulus (whole : Bool)
  /-- An integer that is too large for a float. -/
  | tooLarge
  /-- An integer that is the code of no character. -/
  | noCharacter
deriving DecidableEq, Repr

/-- What is said of a calculation without a result. -/
def Fault.message : Fault → String
  | .decimal f => s!"[<class 'decimal.{f.condition}'>]"
  | .zeroModulus whole => if whole then "integer modulo by zero" else "float modulo"
  | .tooLarge => "int too large to convert to float"
  | .noCharacter => "%c arg not in range(0x110000)"

/-! ## Rejections -/

/-- Why a value cannot be converted. -/
inductive Rejection where
  | problem (p : Problem)
  | misuse (m : Misuse)
  | fault (f : Fault)
deriving DecidableEq, Repr

namespace Rejection

/-- A problem with the value as a whole. -/
def whole (r : Reason) : Rejection := .problem { reason := r }

/-- The rejection of a value because of its part `part`. -/
def inside (part : String) : Rejection → Rejection
  | .problem p => .problem (p.inside part)
  | r => r

/-- Does the rejection end the conversion at once? Problems are collected. -/
def isFinal : Rejection → Bool
  | .problem _ => false
  | _ => true

end Rejection

end TypedHeaders
