import TypedHeaders.Number
import TypedHeaders.Text.Quoted

/-!
# Atoms

An *atom* is a single value: nothing, a truth value, a text or a number. Atoms
are equal if they have the same value, whatever their kind; a truth value counts
as zero or one (`Atom.equal`).
-/

namespace TypedHeaders

/-- A single value. -/
inductive Atom where
  /-- No value. -/
  | absent
  | bool (b : Bool)
  | text (s : String)
  | number (n : Number)
deriving DecidableEq, Repr

namespace Atom

/-- The atom as text. -/
def plain : Atom → String
  | .absent => "None"
  | .bool true => "True"
  | .bool false => "False"
  | .text s => s
  | .number n => n.text

/-- The atom as text, unless it is an integer with too many digits to be written. -/
def written? : Atom → Option String
  | .number (.int n) =>
    if Numeral.width n.natAbs ≤ maxIntDigits then some (Numeral.integerText n) else none
  | a => some a.plain

/-- The atom as messages show it: texts between quotes, decimals marked as such. -/
def shown : Atom → String
  | .text s => Text.quote s
  | .number (.decimal d) => s!"Decimal('{d.text}')"
  | a => a.plain

/-- The number that an atom counts as. -/
def number? : Atom → Option Number
  | .number n => some n
  | .bool b => some (.int (if b then 1 else 0))
  | _ => none

/-- Do two atoms have the same value? -/
def equal : Atom → Atom → Bool
  | .absent, .absent => true
  | .text s, .text t => s = t
  | a, b =>
    match a.number?, b.number? with
    | some m, some n => m.equal n
    | _, _ => false

end Atom

end TypedHeaders
