/-!
# Sets of characters

A set of characters is a list of closed ranges of code points.
-/

namespace TestDouble.Text

/-- Closed ranges of code points. -/
abbrev CodePoints := List (Nat × Nat)

namespace CodePoints

def contains (ranges : CodePoints) (c : Char) : Bool :=
  ranges.any fun r => r.1 ≤ c.toNat && c.toNat ≤ r.2

end CodePoints

/-- White space, by the Unicode property of that name. -/
def blanks : CodePoints :=
  [(0x09, 0x0d), (0x20, 0x20), (0x85, 0x85), (0xa0, 0xa0), (0x1680, 0x1680), (0x2000, 0x200a),
    (0x2028, 0x2029), (0x202f, 0x202f), (0x205f, 0x205f), (0x3000, 0x3000)]

/-- The text without the white space at its two ends. -/
def trimmed (s : String) : List Char :=
  ((s.toList.dropWhile blanks.contains).reverse.dropWhile blanks.contains).reverse

end TestDouble.Text
