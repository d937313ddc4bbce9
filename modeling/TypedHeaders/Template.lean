import TypedHeaders.Number

/-!
# Templates

A text is a *template* when the rest of its division by a number is asked for:
the number is then filled in where a *directive* stands, which is a percent sign,
flags, a width, a precision and a letter that says how the number is written. A
star for the width or the precision takes the number as well, and two percent
signs stand for one.

Only what comes of it is of interest: whether the filled template is empty, or
why it cannot be filled (`Template.fill`). The number has to be taken exactly
once.
-/

namespace TypedHeaders.Template

open Numeral

/-- What is wrong with a template by itself. -/
inductive Malformed where
  /-- The text ends within a directive. -/
  | incomplete
  /-- A letter that means nothing, at this place. -/
  | unknownLetter (letter : Char) (place : Nat)
deriving DecidableEq, Repr

/-- What is said of a template that is wrong by itself. -/
def Malformed.message : Malformed → String
  | .incomplete => "incomplete format"
  | .unknownLetter c place =>
    let shown := if 31 ≤ c.toNat ∧ c.toNat ≤ 126 then c else '?'
    let code := String.ofList (Nat.toDigits 16 c.toNat)
    s!"unsupported format character '{shown}' (0x{code}) at index {place}"

/-- Why a template cannot be filled with a number. -/
inductive Refusal where
  | malformed (m : Malformed)
  /-- The number is taken more often or less often than once, or is of another kind than is asked
      for. -/
  | mismatch
  /-- The number is the code of no character. -/
  | noCharacter
  /-- The integer is too large for a float. -/
  | tooLarge
deriving DecidableEq, Repr

/-- Where in a template a character stands: outside directives, or how far within one. -/
inductive Stage where
  | outside
  | opened
  | flags
  | width
  | widthGiven
  | point
  | precision
  | precisionGiven
  | letter
deriving DecidableEq, Repr

/-- What is known when a part of a template has been read. -/
structure State where
  stage : Stage := .outside
  /-- Is the number taken already? -/
  taken : Bool := false
  /-- Is everything so far filled with nothing? -/
  empty : Bool := true
  width : Nat := 0
  precision : Option Nat := none
deriving DecidableEq, Repr

/-- The number is taken as a width or a precision, for which it has to be an integer. -/
def State.takeSize (s : State) (n : Number) (next : Stage) : Except Refusal State :=
  match s.taken, n with
  | false, .int _ => .ok { s with taken := true, stage := next }
  | _, _ => .error .mismatch

/-- A directive ends with its letter. -/
def State.finish (s : State) (n : Number) (c : Char) (place : Nat) : Except Refusal State :=
  let filled : State := { s with stage := .outside, taken := true, empty := false }
  if c = '%' then .ok { s with stage := .outside, empty := false }
  else if s.taken then .error .mismatch
  else if c ∈ ['s', 'r', 'a'] then
    .ok { filled with empty := s.empty && s.width = 0 && s.precision = some 0 }
  else if c ∈ ['d', 'i', 'u'] then .ok filled
  else if c ∈ ['x', 'X', 'o'] then
    match n with
    | .int _ => .ok filled
    | _ => .error .mismatch
  else if c ∈ ['e', 'E', 'f', 'F', 'g', 'G'] then
    match n with
    | .int i => if (Binary64.ofInt i).isFinite then .ok filled else .error .tooLarge
    | _ => .ok filled
  else if c = 'c' then
    match n with
    | .int i => if 0 ≤ i ∧ i < 0x110000 then .ok filled else .error .noCharacter
    | _ => .error .mismatch
  else .error (.malformed (.unknownLetter c place))

/-- Reads one more character, which stands at `place`. -/
def State.read (n : Number) (s : State) (c : Char) (place : Nat) : Except Refusal State :=
  let size (next : Stage) : Except Refusal State :=
    if c = '*' then s.takeSize n next else s.finish n c place
  let rest : Except Refusal State :=
    if c ∈ ['h', 'l', 'L'] then .ok { s with stage := .letter } else s.finish n c place
  let afterWidth : Except Refusal State :=
    if c = '.' then .ok { s with stage := .point, precision := some 0 } else rest
  let digit := Text.asciiDigit? c
  match s.stage, digit with
  | .outside, _ =>
    if c = '%' then .ok { s with stage := .opened, width := 0, precision := none }
    else .ok { s with empty := false }
  | .letter, _ => s.finish n c place
  | .width, some d => .ok { s with width := 10 * s.width + d }
  | .point, some d | .precision, some d =>
    .ok { s with stage := .precision, precision := some (10 * s.precision.getD 0 + d) }
  | .precision, none | .precisionGiven, _ => rest
  | .point, none => if c = '*' then size .precisionGiven else rest
  | .width, none | .widthGiven, _ => afterWidth
  | .opened, d | .flags, d =>
    if c = '(' ∧ s.stage = .opened then .error .mismatch
    else if c ∈ ['-', '+', ' ', '#', '0'] then .ok { s with stage := .flags }
    else if c = '*' then size .widthGiven
    else
      match d with
      | some d => .ok { s with stage := .width, width := d }
      | none => afterWidth

/-- Fills a template with a number: is the result empty? -/
def fill (template : String) (n : Number) : Except Refusal Bool := do
  let s ← template.toList.zipIdx.foldlM (fun s (c, place) => s.read n c place) ({} : State)
  if s.stage ≠ .outside then throw (.malformed .incomplete)
  if !s.taken then throw .mismatch
  return s.empty

end TypedHeaders.Template
