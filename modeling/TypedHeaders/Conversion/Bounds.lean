import TypedHeaders.Conversion.Fit
import TypedHeaders.Limits
import TypedHeaders.Text.Blank
import TypedHeaders.Text.Casing

/-!
# Checking limits

The limits that the conversion to a type checks itself. A bound is first put
into the kind of number that it bounds; NaN satisfies no bound. Of several limits
that a number breaks, the first in this order is reported: being finite, the
digits of a decimal, being a multiple, then the bounds `le`, `lt`, `ge` and `gt`.

A text is stripped first, then measured in characters, and put into lower or
upper case last. Bytes are measured as they are.
-/

namespace TypedHeaders

open Numeral

namespace Number

/-- The bound `b` in the kind of number of `x`, as far as there is one. -/
def boundFor (x b : Number) : Number :=
  match x, b with
  | .int _, b =>
    match b.truncated? with
    | some n => if b.equal (.int n) then .int n else b
    | none => b
  | .float _, b => .float b.toBinary
  | .decimal _, .int n => .decimal (.ofInt n)
  | .decimal _, .float y =>
    match Decimal.ofBinary? y with
    | some d => .decimal d
    | none => .float y
  | .decimal _, .decimal d => .decimal d

/-- How a message tells the bound `b` of numbers of the kind of `x`. -/
def toldBound (x b : Number) : Bound :=
  match x, x.boundFor b with
  | .decimal _, .float (.infinite negative) => .infinity negative
  | _, b => .plain b

/-- Is the number a multiple of another one of its kind? The integer zero is no divisor to ask for:
    no integer can be converted under it, since the conversion does not refuse the value but breaks
    down. That is left out, and zero counts as the only multiple. -/
def isMultipleOf : Number → Number → Bool
  | .int a, .int m => a % m = 0
  | .float x, .float m => x.isMultipleOf m
  | .decimal a, .decimal m => a.isMultipleOf m
  | _, _ => true

end Number

namespace Limits

/-- No breach, or the refusal that it is. -/
def orRefuse : Option Reason → Except Reason Unit
  | none => .ok ()
  | some r => .error r

/-! ## Numbers -/

/-- The reason to refuse a number because of a bound, which `holds` tells from the order of the
    number and the bound. -/
def breach? (holds : Ordering → Bool) (reason : Bound → Reason) (x : Number) (b : Option Number) :
    Option Reason :=
  b.bind fun b =>
    if (x.order? (x.boundFor b)).any holds then none else some (reason (x.toldBound b))

/-- The first bound that a number breaks. -/
def boundBreach? (l : Limits) (x : Number) : Option Reason :=
  breach? Ordering.isLE .above x l.le <|> breach? Ordering.isLT .notBelow x l.lt <|>
    breach? Ordering.isGE .below x l.ge <|> breach? Ordering.isGT .notAbove x l.gt

/-- The divisor that a number is no multiple of. -/
def multipleBreach? (l : Limits) (x : Number) : Option Reason :=
  l.multipleOf.bind fun m =>
    if x.isMultipleOf (x.boundFor m) then none else some (.notMultiple (x.toldBound m))

/-- The first limit on the digits of a decimal that it breaks, both as it is written and without the
    zeros at its end. Where both their number and the places are limited, so is the number of digits
    before the point. -/
def digitBreach? (l : Limits) (d : Decimal) : Option Reason :=
  let (digits, places) := d.digitCounts
  let (fewestDigits, fewestPlaces) := d.withoutZeros.digitCounts
  let total := l.maxDigits.bind fun n =>
    if n < min digits fewestDigits then some (.tooManyDigits n) else none
  let fraction := l.decimalPlaces.bind fun p =>
    if p < min places fewestPlaces then some (.tooManyPlaces p) else none
  let whole := do
    let n := (← l.maxDigits) - (← l.decimalPlaces)
    if n < min (digits - places) (fewestDigits - fewestPlaces) then some (.tooManyWholeDigits n)
    else none
  total <|> fraction <|> whole

/-- The limit on the form of a number that it breaks. -/
def formBreach? (l : Limits) : Number → Option Reason
  | .int _ => none
  | .float x => if l.allowInfNan = some false ∧ !x.isFinite then some .notFinite else none
  | .decimal d => l.digitBreach? d

/-- Checks all limits on a number. -/
def checkNumber (l : Limits) (x : Number) : Except Reason Unit :=
  orRefuse (l.formBreach? x <|> l.multipleBreach? x <|> l.boundBreach? x)

/-! ## Sizes -/

/-- Checks the number of items of a thing, which is told if there are too many only if `counted`
    says so. -/
def checkSize (l : Limits) (what : Sized) (counted : Bool) (size : Nat) : Except Reason Unit :=
  let few := l.minLength.bind fun n => if size < n then some (.tooFewItems what n size) else none
  let many := l.maxLength.bind fun n =>
    if n < size then some (.tooManyItems what n (if counted then some size else none)) else none
  orRefuse (few <|> many)

/-- Checks the number of bytes. -/
def checkBytes (l : Limits) (size : Nat) : Except Reason Unit :=
  let few := l.minLength.bind fun n => if size < n then some (.tooFewBytes n) else none
  let many := l.maxLength.bind fun n => if n < size then some (.tooManyBytes n) else none
  orRefuse (few <|> many)

/-! ## Texts -/

/-- The text without white space at its ends, if the limits ask for that. -/
def stripped (l : Limits) (s : List Char) : List Char :=
  if l.strip = some true then Text.trim Text.whiteSpace s else s

/-- The text in the case that the limits ask for. -/
def recased (l : Limits) (s : List Char) : List Char :=
  if l.toLower = some true then Text.lowerCase s
  else if l.toUpper = some true then Text.upperCase s
  else s

/-- Checks the number of characters of a text. -/
def checkText (l : Limits) (size : Nat) : Except Reason Unit :=
  let short := l.minLength.bind fun n => if size < n then some (.textTooShort n) else none
  let long := l.maxLength.bind fun n => if n < size then some (.textTooLong n) else none
  orRefuse (short <|> long)

/-- Checks the limits on a text, and reshapes it. -/
def reshape (l : Limits) (s : String) : Except Reason String := do
  let s := l.stripped s.toList
  l.checkText s.length
  return String.ofList (l.recased s)

end Limits

end TypedHeaders
