import CacheCoherence.Access

/-!
What a node believes it holds. The directory decides; this record only tells
the node what it may give up without asking, and it is emptied when the node
loses its channel.
-/

namespace CacheCoherence

structure Holdings where
  levels : SortedMap Key Access.Level := SortedMap.empty
  deriving DecidableEq

namespace Holdings

def granted (h : Holdings) (k : Key) (level : Access.Level) : Holdings :=
  ⟨h.levels.insert k level⟩

def level? (h : Holdings) (k : Key) : Option Access.Level :=
  h.levels.get? k

def mayWrite (h : Holdings) (k : Key) : Bool :=
  h.level? k = some .write

def evicted (h : Holdings) (k : Key) : Holdings :=
  ⟨h.levels.erase k⟩

/-- Weakens write to read; a key that is not held for writing stays as it is. -/
def downgraded (h : Holdings) (k : Key) : Holdings :=
  if h.mayWrite k then ⟨h.levels.insert k .read⟩ else h

def size (h : Holdings) : Nat :=
  h.levels.size

end Holdings

end CacheCoherence
