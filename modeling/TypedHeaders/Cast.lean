import TypedHeaders.Value
import TypedHeaders.Text.Blank
import TypedHeaders.Text.Casing

/-!
# Casting header texts

A header's text is cast to a single value by the *tag* of its parameter. The
casters are narrow: no blanks are trimmed and no digits are grouped, so that a
text means exactly one thing or is refused.

* An integer is an optional sign and ASCII digits, at most 4300 of them; one line
  feed may follow.
* A float is a number in scientific notation, or infinity or NaN by name; a
  decimal is a number in scientific notation, kept exactly. For both the text
  must not start or end with a blank, nor hold an underscore; the digits may be of
  any script.
* A truth value is `true` or `false`, in any mixture of cases.

An array is cast item by item, and the first item that is refused decides.
-/

namespace TypedHeaders

open Numeral

/-- What kind of single value a header is cast to. -/
inductive Tag where
  | string
  | int
  | float
  | decimal
  | boolean
  /-- A tag for which there is no caster. -/
  | other (name : String)
deriving DecidableEq, Repr

/-- The name of a tag. -/
def Tag.name : Tag → String
  | .string => "string"
  | .int => "int"
  | .float => "float"
  | .decimal => "decimal"
  | .boolean => "boolean"
  | .other name => name

/-- The tag of that name. -/
def Tag.ofName (name : String) : Tag :=
  ([.string, .int, .float, .decimal, .boolean].find? fun t => t.name = name).getD (.other name)

/-- Why a text cannot be cast. -/
inductive CastError where
  | invalidInt (raw : String)
  /-- An integer with more digits than are read. -/
  | tooManyDigits (count : Nat)
  /-- A float with blanks around it or with an underscore. -/
  | invalidFloat (raw : String)
  | unreadableFloat (raw : String)
  | invalidDecimal (raw : String)
  | invalidBoolean (raw : String)
  | unsupportedTag (name : String)
deriving DecidableEq, Repr

/-- What is said of a text that cannot be cast. -/
def CastError.message : CastError → String
  | .invalidInt raw => s!"invalid int value '{raw}'"
  | .tooManyDigits count =>
    s!"Exceeds the limit ({integerText maxIntDigits} digits) for integer string conversion: " ++
      s!"value has {integerText count} digits; " ++
      "use sys.set_int_max_str_digits() to increase the limit"
  | .invalidFloat raw => s!"invalid float value '{raw}'"
  | .unreadableFloat raw => s!"could not convert string to float: {Text.quote raw}"
  | .invalidDecimal raw => s!"invalid decimal value '{raw}'"
  | .invalidBoolean raw => s!"invalid boolean value '{raw}'"
  | .unsupportedTag name => s!"unsupported type tag: {Text.quote name}"

namespace Cast

/-- The sign and the digits of an integer, which one line feed may follow. -/
def intParts? (s : List Char) : Option (Bool × List Nat) :=
  let (negative, s) := takeSign s
  match spanDigits Text.asciiDigit? s with
  | ([], _) => none
  | (ds, rest) => if rest = [] ∨ rest = ['\n'] then some (negative, ds) else none

/-- Casts a text to an integer. -/
def toInt (raw : String) : Except CastError Int :=
  match intParts? raw.toList with
  | none => .error (.invalidInt raw)
  | some (negative, ds) =>
    if maxIntDigits < ds.length then .error (.tooManyDigits ds.length)
    else .ok (if negative then -(ofDigits ds : Int) else ofDigits ds)

/-- Is the text free of blanks at its ends and of underscores? -/
def isBare (s : List Char) : Bool := Text.trim Text.blank s = s && !s.contains '_'

/-- Casts a text to a float. -/
def toFloat (raw : String) : Except CastError Binary64 :=
  if !isBare raw.toList then .error (.invalidFloat raw)
  else
    match Binary64.parse raw.toList with
    | some x => .ok x
    | none => .error (.unreadableFloat raw)

/-- Casts a text to a decimal. -/
def toDecimal (raw : String) : Except CastError Decimal :=
  if !isBare raw.toList then .error (.invalidDecimal raw)
  else
    match Decimal.parse raw.toList with
    | some d => .ok d
    | none => .error (.invalidDecimal raw)

/-- Casts a text to a truth value. -/
def toBool (raw : String) : Except CastError Bool :=
  let s := Text.lowerCase raw.toList
  if s = "true".toList then .ok true
  else if s = "false".toList then .ok false
  else .error (.invalidBoolean raw)

end Cast

/-- Casts a text by a tag. -/
def Tag.cast (tag : Tag) (raw : String) : Except CastError Atom :=
  match tag with
  | .string => .ok (.text raw)
  | .int => (Cast.toInt raw).map fun n => .number (.int n)
  | .float => (Cast.toFloat raw).map fun x => .number (.float x)
  | .decimal => (Cast.toDecimal raw).map fun d => .number (.decimal d)
  | .boolean => (Cast.toBool raw).map .bool
  | .other name => .error (.unsupportedTag name)

/-- Casts the texts of an array, in order. -/
def Tag.castArray (tag : Tag) (raws : List String) : Except CastError (List Atom) :=
  raws.mapM tag.cast

end TypedHeaders
