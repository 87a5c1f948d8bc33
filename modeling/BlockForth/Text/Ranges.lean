/-!
# Ranges of characters

A property of characters is given by the ranges of the codes that have it.
-/

namespace BlockForth

/-- Whether one of the ranges holds the character. -/
def inRanges (ranges : List (Nat × Nat)) (c : Char) : Bool :=
  ranges.any fun r => r.1 ≤ c.toNat && c.toNat ≤ r.2

end BlockForth
