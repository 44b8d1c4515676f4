/-!
# Text/Ranges — sets of characters given as ranges of code points
-/

namespace SqlRender

/-- A set of characters: closed ranges of code points, ascending. -/
structure Ranges where
  ranges : Array (Nat × Nat)

/-- Whether `c` lies in one of the ranges. -/
def Ranges.contains (r : Ranges) (c : Char) : Bool :=
  r.ranges.any fun range => range.1 ≤ c.toNat && c.toNat ≤ range.2

end SqlRender
