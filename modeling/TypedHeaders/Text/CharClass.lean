/-!
# Character classes

A *class* of characters is given by closed ranges of code points, in ascending
order. Membership is decided range by range.
-/

namespace TypedHeaders.Text

/-- A set of characters, as ascending closed ranges of code points. -/
structure CharClass where
  ranges : List (Nat × Nat)

/-- Does the class hold the character? -/
def CharClass.contains (k : CharClass) (c : Char) : Bool :=
  k.ranges.any fun r => r.1 ≤ c.toNat && c.toNat ≤ r.2

end TypedHeaders.Text
