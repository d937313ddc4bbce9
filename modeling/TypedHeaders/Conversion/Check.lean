import TypedHeaders.Conversion.Bounds
import TypedHeaders.Conversion.Scalar
import TypedHeaders.Value.Shown

/-!
# Checking constraints one by one

Constraints that the conversion to a type does not check itself are checked after
it, one after the other, on the value that it gave. The values of bounds are then
compared exactly, whatever kinds of number they are, and truth values and members
of enumerations count as what they stand for. What a constraint cannot be asked
of at all is a misuse of it.

A text is a multiple of a number if nothing comes of filling it in (see
`TypedHeaders.Template`).
-/

namespace TypedHeaders

open Numeral

namespace Constraint

/-- The name of a constraint. -/
def name : Constraint → String
  | gt _ => "gt"
  | ge _ => "ge"
  | lt _ => "lt"
  | le _ => "le"
  | multipleOf _ => "multiple_of"
  | minLength _ => "min_length"
  | maxLength _ => "max_length"
  | allowInfNan _ => "allow_inf_nan"
  | maxDigits _ => "max_digits"
  | decimalPlaces _ => "decimal_places"
  | reshape r => (r.names.getLast?).getD ""

/-- The constraint does not fit the value. -/
def misuse (c : Constraint) (v : Value) : Rejection := .misuse (.constraint c.name v.shown)

end Constraint

/-! ## Remainders -/

namespace Number

/-- A remainder of a division of binary numbers that is not zero, which NaN is not. -/
def binaryRemainder (x m : Binary64) : Except Fault Bool :=
  match x, m with
  | _, .finite _ 0 => .error (.zeroModulus false)
  | .finite _ a, .finite _ b => .ok (a % b ≠ 0)
  | .finite _ a, .infinite _ => .ok (a ≠ 0)
  | _, _ => .ok true

/-- An integer as a binary number, unless it is too large. -/
def binaryOfInt (n : Int) : Except Fault Binary64 :=
  let x := Binary64.ofInt n
  if x.isFinite then .ok x else .error .tooLarge

/-- Does division by another number leave a remainder? There is none of a decimal and a binary
    number. -/
def hasRemainder? (x m : Number) : Option (Except Fault Bool) :=
  match x, m with
  | .int a, .int b =>
    some (if b = 0 then .error (.zeroModulus true) else .ok (a % b ≠ 0))
  | .float a, .float b => some (binaryRemainder a b)
  | .int a, .float b => some (binaryOfInt a >>= fun a => binaryRemainder a b)
  | .float a, .int b => some (binaryOfInt b >>= fun b => binaryRemainder a b)
  | .decimal a, .decimal b => some ((a.hasRemainder b).mapError .decimal)
  | .decimal a, .int b => some ((a.hasRemainder (.ofInt b)).mapError .decimal)
  | .int a, .decimal b => some (((Decimal.ofInt a).hasRemainder b).mapError .decimal)
  | .decimal _, .float _ | .float _, .decimal _ => none

/-- Is the number neither infinite nor NaN, as a binary number? -/
def isFinite : Number → Except Fault Bool
  | .int n => (binaryOfInt n).map fun _ => true
  | n => .ok n.toBinary.isFinite

end Number

/-- What a template that cannot be filled means for the constraint `c` on `v`. -/
def Template.Refusal.rejection (c : Constraint) (v : Value) : Template.Refusal → Rejection
  | .malformed m => .whole (.malformedTemplate m)
  | .mismatch => c.misuse v
  | .noCharacter => .fault .noCharacter
  | .tooLarge => .fault .tooLarge

namespace Constraint

/-- The value, if it is a multiple of a number. -/
def checkMultiple (m : Number) (v : Value) : Except Rejection Value := do
  let c : Constraint := .multipleOf m
  let fill (s : String) : Except Rejection Bool :=
    match Template.fill s m with
    | .ok empty => .ok !empty
    | .error e => .error (e.rejection c v)
  let remains ← match v, v.atom? with
    | .bytes s, _ | _, some (.text s) => fill s
    | v, _ =>
      match v.number?.bind (·.hasRemainder? m) with
      | none => throw (c.misuse v)
      | some r => r.mapError .fault
  if remains then throw (.whole (.notMultiple (.shown m))) else return v

/-- The value, if its order to a bound is one of those that `holds` tells. -/
def checkBound (c : Constraint) (holds : Ordering → Bool) (reason : Bound → Reason)
    (b : Number) (v : Value) : Except Rejection Value :=
  match v.number? with
  | none => .error (c.misuse v)
  | some x =>
    if (x.order? b).any holds then .ok v else .error (.whole (reason (.shown b)))

/-- The value, if its size is one of those that `holds` tells. -/
def checkSize (c : Constraint) (holds : Nat → Bool) (reason : Nat → Reason) (v : Value) :
    Except Rejection Value :=
  match v.size? with
  | none => .error (c.misuse v)
  | some n => if holds n then .ok v else .error (.whole (reason n))

/-- The value, if a count of its digits is one of those that `holds` tells, as it is written or
    without the zeros at its end. -/
def checkDigits (c : Constraint) (count : Decimal → Nat) (holds : Nat → Bool) (reason : Reason)
    (v : Value) : Except Rejection Value :=
  match v with
  | .decimal d =>
    match d.normalized with
    | .error f => .error (.fault (.decimal f))
    | .ok n => if holds (count d) || holds (count n) then .ok v else .error (.whole reason)
  | v => .error (c.misuse v)

/-- The value, if it is finite. -/
def checkFinite (v : Value) : Except Rejection Value :=
  match v.number? with
  | none => .error (.misuse (.finiteness v.typeName))
  | some n =>
    match n.isFinite with
    | .error f => .error (.fault f)
    | .ok true => .ok v
    | .ok false => .error (.whole .notFinite)

/-- The value as a text, reshaped step by step. -/
def checkReshaped (r : Reshaping) (schema : String) (v : Value) : Except Rejection Value :=
  match Scalar.toText v with
  | .error _ => .error (.misuse (.reshaping (Constraint.reshape r).name v.shown schema))
  | .ok s =>
    let s := s.value.toList
    let s := if r.strip = some true then Text.trim Text.whiteSpace s else s
    let s := if r.toUpper = some true then Text.upperCase s else s
    let s := if r.toLower = some true then Text.lowerCase s else s
    .ok (.text (String.ofList s))

/-- The value, if the constraint holds of it; a reshaped text, if that is what the constraint
    asks for. The schema is that of what has been checked so far. -/
def check (schema : String) (c : Constraint) (v : Value) : Except Rejection Value :=
  match c with
  | .gt b => c.checkBound Ordering.isGT .notAbove b v
  | .ge b => c.checkBound Ordering.isGE .below b v
  | .lt b => c.checkBound Ordering.isLT .notBelow b v
  | .le b => c.checkBound Ordering.isLE .above b v
  | .multipleOf m => checkMultiple m v
  | .minLength n => c.checkSize (n ≤ ·) (.tooFewItems .value n) v
  | .maxLength n => c.checkSize (· ≤ n) (fun k => .tooManyItems .value n (some k)) v
  | .allowInfNan allowed => if allowed then .ok v else checkFinite v
  | .maxDigits n => c.checkDigits (fun d => d.digitCounts.1) (· ≤ n) (.tooManyDigits n) v
  | .decimalPlaces n => c.checkDigits (fun d => d.digitCounts.2) (· ≤ n) (.tooManyPlaces n) v
  | .reshape r => checkReshaped r schema v

/-- The value, if all constraints hold of it, one after the other. -/
def checkAll (schema : String) : List Constraint → Value → Except Rejection Value
  | [], v => .ok v
  | c :: cs, v => do
    checkAll c.schemaAfter cs (← c.check schema v)

end Constraint

end TypedHeaders
