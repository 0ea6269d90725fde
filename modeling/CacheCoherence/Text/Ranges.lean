/-!
Sets of characters, given by ranges of their code points.
-/

namespace CacheCoherence.Text

/-- Ranges of code points with both ends included, in ascending order. -/
abbrev Ranges := List (Nat × Nat)

def Ranges.contains (ranges : Ranges) (c : Char) : Bool :=
  ranges.any fun r => r.1 ≤ c.toNat && c.toNat ≤ r.2

end CacheCoherence.Text
