/-!
The length of a list against a bound, looking no further than the bound.
-/

namespace CacheCoherence

variable {α : Type}

def isShorter : List α → Nat → Bool
  | _, 0 => false
  | [], _ + 1 => true
  | _ :: r, n + 1 => isShorter r n

@[simp] theorem isShorter_eq (l : List α) (n : Nat) : isShorter l n = decide (l.length < n) := by
  induction l generalizing n with
  | nil => cases n <;> simp [isShorter]
  | cons _ r ih => cases n <;> simp [isShorter, ih]

end CacheCoherence
