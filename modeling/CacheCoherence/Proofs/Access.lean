import CacheCoherence.Access
import CacheCoherence.Proofs.SortedMap

/-!
Access states through the levels that they give to nodes. A transition changes
the level of the node that makes it and of nobody else, and a coherent state is
known from its levels, so a state may be reasoned about one node at a time.
-/

namespace CacheCoherence

open Std

namespace SortedSet

variable {κ : Type} [Ord κ] [DecidableEq κ]

theorem ext_of_contains [TransOrd κ] [LawfulEqOrd κ] {s t : SortedSet κ}
    (h : ∀ k, s.contains k = t.contains k) : s = t := by
  obtain ⟨l, hl⟩ := s
  obtain ⟨r, hr⟩ := t
  have eq : l = r := SortedMap.eq_of_ascending id hl hr fun k => by
    have hk := h k
    rw [Bool.eq_iff_iff, contains_iff, contains_iff] at hk
    exact hk
  subst eq
  rfl

@[simp] theorem contains_singleton [TransOrd κ] [LawfulEqOrd κ] (k y : κ) :
    (singleton k).contains y = decide (y = k) := by
  rw [Bool.eq_iff_iff, contains_iff, decide_eq_true_iff]
  exact List.mem_singleton

@[simp] theorem contains_erase (s : SortedSet κ) (k y : κ) :
    (s.erase k).contains y = (decide (y ≠ k) && s.contains y) := by
  rw [Bool.eq_iff_iff, contains_iff, mem_erase, Bool.and_eq_true, decide_eq_true_iff, contains_iff]

theorem contains_eq_false_of_isEmpty {s : SortedSet κ} (h : s.toList.isEmpty = true) (k : κ) :
    s.contains k = false := by
  rw [List.isEmpty_iff] at h
  simp [contains, h]

end SortedSet

namespace Access

/-- The ways in which a node gives up access of its own accord. -/
inductive Change where
  | release
  | weaken
  deriving DecidableEq

/-- The level that a node is left with. -/
def Change.level : Change → Option Level
  | .release => none
  | .weaken => some .read

/-- How much a level allows. -/
def strength : Option Level → Nat
  | none => 0
  | some .read => 1
  | some .write => 2

theorem eq_write_of_strength {level : Option Level}
    (h : strength (some .write) ≤ strength level) : level = some .write := by
  cases level with
  | none => cases h
  | some l =>
      cases l with
      | read => exact absurd h (by decide)
      | write => rfl

/-- What a change leaves of a level. -/
def Change.leaves : Change → Option Level → Option Level
  | .release, _ => none
  | .weaken, level => level.map fun _ => .read

theorem Change.strength_leaves (c : Change) (level : Option Level) :
    strength (c.leaves level) = min (strength level) (strength c.level) := by
  cases c with
  | release => exact (Nat.min_zero _).symm
  | weaken =>
      cases level with
      | none => rfl
      | some l => cases l <;> rfl

theorem Change.leaves_weaken {level : Option Level} (unwritten : level ≠ some .write) :
    Change.weaken.leaves level = level := by
  cases level with
  | none => rfl
  | some l =>
      cases l with
      | read => rfl
      | write => exact absurd rfl unwritten

/-- A change takes nothing from a node that has no more than what it would leave. -/
theorem Change.leaves_eq_self_iff (c : Change) (level : Option Level) :
    c.leaves level = level ↔ strength level ≤ strength c.level := by
  cases level with
  | none => cases c <;> decide
  | some l => cases c <;> cases l <;> decide

namespace State

def change? (s : State) (n : NodeId) : Change → Option State
  | .release => s.release? n
  | .weaken => s.weaken? n

/-- The state once `n` has given up access, or as it is if `n` has none to give up. -/
def changed (s : State) (n : NodeId) (c : Change) : State :=
  (s.change? n c).getD s

theorem levelOf_ofReaders (readers : SortedSet NodeId) (n : NodeId) :
    (ofReaders readers).levelOf n = if readers.contains n then some .read else none := by
  rw [ofReaders]
  split
  next h => simp [levelOf, SortedSet.contains_eq_false_of_isEmpty h]
  · rfl

theorem levelOf_of_release? {s t : State} {n : NodeId} (h : s.release? n = some t) (m : NodeId) :
    t.levelOf m = if m = n then none else s.levelOf m := by
  cases s with
  | unheld => cases h
  | shared readers =>
      simp only [release?, Option.ite_none_right_eq_some, Option.some.injEq] at h
      rw [← h.2, levelOf_ofReaders, SortedSet.contains_erase]
      by_cases e : m = n <;> simp [e, levelOf]
  | exclusive writer =>
      simp only [release?, Option.ite_none_right_eq_some, Option.some.injEq] at h
      rw [← h.2, h.1]
      by_cases e : m = n
      · simp [e, levelOf]
      · simp [e, Ne.symm e, levelOf]

theorem levelOf_of_weaken? {s t : State} {n : NodeId} (h : s.weaken? n = some t) (m : NodeId) :
    t.levelOf m = if m = n then some .read else s.levelOf m := by
  cases s with
  | unheld | shared _ => cases h
  | exclusive writer =>
      simp only [weaken?, Option.ite_none_right_eq_some, Option.some.injEq] at h
      rw [← h.2, h.1]
      by_cases e : m = n
      · simp [e, levelOf]
      · simp [e, Ne.symm e, levelOf]

theorem levelOf_of_change? {s t : State} {n : NodeId} {c : Change} (h : s.change? n c = some t)
    (m : NodeId) : t.levelOf m = if m = n then c.level else s.levelOf m := by
  cases c with
  | release => exact levelOf_of_release? h m
  | weaken => exact levelOf_of_weaken? h m

/-- A node may release what it holds, and weaken what it writes. -/
theorem change?_eq_none_iff (s : State) (n : NodeId) (c : Change) :
    s.change? n c = none ↔
      match c with
      | .release => s.levelOf n = none
      | .weaken => s.levelOf n ≠ some .write := by
  cases c <;> cases s <;> simp [change?, release?, weaken?, levelOf]

/-- A node that gives up access is left with what the change leaves, and nobody else loses any. -/
theorem levelOf_changed (s : State) (n : NodeId) (c : Change) (m : NodeId) :
    (s.changed n c).levelOf m = if m = n then c.leaves (s.levelOf n) else s.levelOf m := by
  have refused := change?_eq_none_iff s n c
  rw [changed]
  cases given : s.change? n c with
  | some t =>
      have allowed := mt refused.mpr (given ▸ Option.some_ne_none t)
      rw [Option.getD_some, levelOf_of_change? given]
      refine if_congr Iff.rfl ?_ rfl
      cases c with
      | release => rfl
      | weaken =>
          rw [Classical.not_not.mp allowed]
          rfl
  | none =>
      have kept : c.leaves (s.levelOf n) = s.levelOf n := by
        cases c with
        | release => exact (refused.mp given).symm
        | weaken => exact Change.leaves_weaken (refused.mp given)
      rw [Option.getD_none, kept]
      split
      next own => rw [own]
      next => rfl

theorem writer?_eq_some_iff (s : State) (n : NodeId) :
    s.writer? = some n ↔ s.levelOf n = some .write := by
  cases s <;> simp [writer?, levelOf]

theorem writer?_eq_some_iff_eq (s : State) (n : NodeId) :
    s.writer? = some n ↔ s = .exclusive n := by
  cases s <;> simp [writer?]

theorem holds_iff (s : State) (n : NodeId) : s.holds n = true ↔ s.levelOf n ≠ none := by
  simp [holds, Option.isSome_iff_ne_none]

theorem levelOf_eq_write_iff (s : State) (n : NodeId) :
    s.levelOf n = some .write ↔ s = .exclusive n := by
  cases s <;> simp [levelOf]

theorem eq_exclusive_of_levelOf {s : State} {n : NodeId} (h : s.levelOf n = some .write) :
    s = .exclusive n :=
  (levelOf_eq_write_iff s n).mp h

/-- A writer is alone. -/
theorem eq_of_levelOf_write {s : State} {n m : NodeId} (hn : s.levelOf n = some .write)
    (hm : s.levelOf m ≠ none) : m = n := by
  rw [eq_exclusive_of_levelOf hn, levelOf, ne_eq, ite_eq_right_iff] at hm
  simp only [reduceCtorEq, imp_false, not_not] at hm
  exact hm.symm

theorem isCoherent_shared_of_mem {readers : SortedSet NodeId} {n : NodeId} (h : n ∈ readers) :
    (shared readers).isCoherent = true := by
  have member : n ∈ readers.toList := h
  have ne : readers.toList ≠ [] := List.ne_nil_of_mem member
  simp [isCoherent, ne]

theorem isCoherent_of_change? {s t : State} {n : NodeId} {c : Change}
    (h : s.change? n c = some t) : t.isCoherent = true := by
  cases c with
  | release =>
      cases s with
      | unheld => cases h
      | shared readers =>
          simp only [change?, release?, Option.ite_none_right_eq_some, Option.some.injEq] at h
          rw [← h.2, ofReaders]
          split
          · rfl
          next ne => simpa [isCoherent] using ne
      | exclusive writer =>
          simp only [change?, release?, Option.ite_none_right_eq_some, Option.some.injEq] at h
          rw [← h.2]
          rfl
  | weaken =>
      cases s with
      | unheld | shared _ => cases h
      | exclusive writer =>
          simp only [change?, weaken?, Option.ite_none_right_eq_some, Option.some.injEq] at h
          rw [← h.2]
          exact isCoherent_shared_of_mem (SortedSet.mem_insert.mpr (.inl rfl))

theorem isCoherent_changed {s : State} (h : s.isCoherent = true) (n : NodeId) (c : Change) :
    (s.changed n c).isCoherent = true := by
  rw [changed]
  cases given : s.change? n c with
  | none => exact h
  | some t => exact isCoherent_of_change? given

theorem isCoherent_of_allow {s t : State} {n : NodeId} {level : Level}
    (h : s.allow n level = .ok t) : t.isCoherent = true := by
  cases level with
  | read =>
      cases s with
      | unheld | shared _ =>
          cases h
          exact isCoherent_shared_of_mem (SortedSet.mem_insert.mpr (.inl rfl))
      | exclusive writer =>
          simp only [allow, allowReader] at h
          split at h <;> cases h
          rfl
  | write =>
      cases s with
      | unheld =>
          cases h
          rfl
      | shared _ | exclusive _ =>
          simp only [allow, allowWriter] at h
          split at h <;> cases h
          rfl

/-- The levels of all nodes determine a coherent state. -/
theorem ext_of_levelOf {s t : State} (hs : s.isCoherent = true) (ht : t.isCoherent = true)
    (h : ∀ n, s.levelOf n = t.levelOf n) : s = t := by
  have unheld_of_none : ∀ u : State, u.isCoherent = true → (∀ n, u.levelOf n = none) →
      u = .unheld := by
    intro u hu none
    cases u with
    | unheld => rfl
    | shared readers =>
        obtain ⟨n, rest, eq⟩ := List.exists_cons_of_ne_nil (l := readers.toList)
          (by simpa [isCoherent] using hu)
        have level := none n
        simp [levelOf, SortedSet.contains, eq] at level
    | exclusive w => simpa [levelOf] using none w
  cases s with
  | unheld => exact (unheld_of_none t ht fun n => (h n).symm).symm
  | exclusive w =>
      have level := (writer?_eq_some_iff t w).mpr (by rw [← h w]; simp [levelOf])
      cases t <;> simp_all [writer?]
  | shared readers =>
      cases t with
      | unheld => exact unheld_of_none _ hs h
      | exclusive w =>
          have level := h w
          simp [levelOf] at level
      | shared others =>
          congr 1
          apply SortedSet.ext_of_contains
          intro n
          have level := h n
          simp only [levelOf] at level
          split at level <;> split at level <;> simp_all

end State

end Access

end CacheCoherence
