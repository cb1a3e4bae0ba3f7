/-!
# Sets of characters

A `CharSet` is a list of closed ranges of code points. The tables of this library are such lists,
each named for the property of Unicode 17.0 that it holds.
-/

namespace LineShell

/-- Closed ranges of code points. -/
structure CharSet where
  ranges : List (Nat × Nat)

namespace CharSet

/-- Does the code point lie in one of the ranges? -/
def containsCode (s : CharSet) (code : Nat) : Bool :=
  s.ranges.any fun r => decide (r.1 ≤ code) && decide (code ≤ r.2)

def contains (s : CharSet) (c : Char) : Bool :=
  s.containsCode c.toNat

end CharSet

end LineShell
