import TypedHeaders.Text.CharClass

/-!
# Blanks

Two sets of blank characters are in use. `whiteSpace` is the Unicode property
White_Space; it is what a string constraint strips. `blank` adds to it the four
information separators U+001C to U+001F; it is what header lines are stripped
of, and what a number must not start or end with.

* `trim` removes the characters of a class from both ends, and nothing else.
-/

namespace TypedHeaders.Text

/-- The characters with the Unicode property White_Space. -/
def whiteSpace : CharClass where
  ranges :=
    [(0x09, 0x0D), (0x20, 0x20), (0x85, 0x85), (0xA0, 0xA0), (0x1680, 0x1680), (0x2000, 0x200A),
     (0x2028, 0x2029), (0x202F, 0x202F), (0x205F, 0x205F), (0x3000, 0x3000)]

/-- White space and the information separators. -/
def blank : CharClass where
  ranges :=
    [(0x09, 0x0D), (0x1C, 0x20), (0x85, 0x85), (0xA0, 0xA0), (0x1680, 0x1680), (0x2000, 0x200A),
     (0x2028, 0x2029), (0x202F, 0x202F), (0x205F, 0x205F), (0x3000, 0x3000)]

/-- The text without the characters of `k` at its start. -/
def trimStart (k : CharClass) (s : List Char) : List Char := s.dropWhile k.contains

/-- The text without the characters of `k` at its end. -/
def trimEnd (k : CharClass) (s : List Char) : List Char := (trimStart k s.reverse).reverse

/-- The text without the characters of `k` at either end. -/
def trim (k : CharClass) (s : List Char) : List Char := trimEnd k (trimStart k s)

end TypedHeaders.Text
