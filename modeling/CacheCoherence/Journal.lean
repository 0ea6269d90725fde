/-!
Entries in the order in which they came. Adding to a journal does not look at
the entries that are there already.
-/

namespace CacheCoherence

structure Journal (α : Type) where
  latestFirst : List α := []
  deriving DecidableEq

namespace Journal

variable {α : Type}

def toList (j : Journal α) : List α :=
  j.latestFirst.reverse

def size (j : Journal α) : Nat :=
  j.latestFirst.length

def append (j : Journal α) (entries : List α) : Journal α :=
  ⟨entries.reverse ++ j.latestFirst⟩

@[simp] theorem toList_empty : ({} : Journal α).toList = [] := rfl

@[simp] theorem toList_append (j : Journal α) (entries : List α) :
    (j.append entries).toList = j.toList ++ entries := by
  simp [toList, append]

@[simp] theorem length_toList_eq_size (j : Journal α) : j.toList.length = j.size := by
  simp [toList, size]

end Journal

end CacheCoherence
