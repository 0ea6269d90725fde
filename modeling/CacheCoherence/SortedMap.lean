/-!
Finite sets and maps kept as lists in ascending order. Order and absence of
repetitions are part of the types, so two of them are equal exactly when they
have the same members, and a list of entries is already the sorted answer to a
question about all of them.
-/

namespace CacheCoherence

open Std

variable {κ ν : Type} [Ord κ]

structure SortedSet (κ : Type) [Ord κ] where
  toList : List κ
  ascending : toList.Pairwise fun a b => compare a b = .lt
  deriving DecidableEq

namespace SortedSet

def insertList (k : κ) : List κ → List κ
  | [] => [k]
  | x :: r =>
    match compare k x with
    | .lt => k :: x :: r
    | .eq => k :: r
    | .gt => x :: insertList k r

theorem mem_insertList [LawfulEqOrd κ] (k y : κ) (l : List κ) :
    y ∈ insertList k l ↔ y = k ∨ y ∈ l := by
  induction l with
  | nil => simp [insertList]
  | cons x r ih =>
    rw [insertList]
    split
    · simp
    next h => simp [LawfulEqOrd.eq_of_compare h]
    · simp [ih, or_left_comm]

theorem ascending_insertList [TransOrd κ] [LawfulEqOrd κ] (k : κ) (l : List κ)
    (h : l.Pairwise fun a b => compare a b = .lt) :
    (insertList k l).Pairwise fun a b => compare a b = .lt := by
  induction l with
  | nil => simp [insertList]
  | cons x r ih =>
    rw [List.pairwise_cons] at h
    rw [insertList]
    split
    next hk =>
      refine List.pairwise_cons.2 ⟨fun y hy => ?_, List.pairwise_cons.2 h⟩
      rcases List.mem_cons.1 hy with rfl | hy
      · exact hk
      · exact TransCmp.lt_trans hk (h.1 y hy)
    next hk =>
      cases LawfulEqOrd.eq_of_compare hk
      exact List.pairwise_cons.2 h
    next hk =>
      refine List.pairwise_cons.2 ⟨fun y hy => ?_, ih h.2⟩
      rcases (mem_insertList k y r).1 hy with rfl | hy
      · exact OrientedCmp.gt_iff_lt.1 hk
      · exact h.1 y hy

def empty : SortedSet κ := ⟨[], List.Pairwise.nil⟩

def insert [TransOrd κ] [LawfulEqOrd κ] (s : SortedSet κ) (k : κ) : SortedSet κ :=
  ⟨insertList k s.toList, ascending_insertList k s.toList s.ascending⟩

def erase [DecidableEq κ] (s : SortedSet κ) (k : κ) : SortedSet κ :=
  ⟨s.toList.filter (· ≠ k), s.ascending.filter _⟩

def contains [DecidableEq κ] (s : SortedSet κ) (k : κ) : Bool :=
  s.toList.contains k

def singleton [TransOrd κ] [LawfulEqOrd κ] (k : κ) : SortedSet κ :=
  empty.insert k

/-- The members of a list, whatever their order and however often each occurs. -/
def ofList [TransOrd κ] [LawfulEqOrd κ] (l : List κ) : SortedSet κ :=
  l.foldl insert empty

instance : Membership κ (SortedSet κ) := ⟨fun s k => k ∈ s.toList⟩

instance [DecidableEq κ] (s : SortedSet κ) (k : κ) : Decidable (k ∈ s) :=
  inferInstanceAs (Decidable (k ∈ s.toList))

theorem mem_insert [TransOrd κ] [LawfulEqOrd κ] {s : SortedSet κ} {k y : κ} :
    y ∈ s.insert k ↔ y = k ∨ y ∈ s :=
  mem_insertList k y s.toList

theorem mem_ofList [TransOrd κ] [LawfulEqOrd κ] {l : List κ} {y : κ} : y ∈ ofList l ↔ y ∈ l := by
  have key : ∀ (l : List κ) (s : SortedSet κ), y ∈ l.foldl insert s ↔ y ∈ l ∨ y ∈ s := by
    intro l
    induction l with
    | nil => simp
    | cons x r ih =>
      intro s
      rw [List.foldl_cons, ih, mem_insert, List.mem_cons, or_left_comm, or_assoc]
  rw [ofList, key]
  exact or_iff_left List.not_mem_nil

theorem mem_erase [DecidableEq κ] {s : SortedSet κ} {k y : κ} :
    y ∈ s.erase k ↔ y ≠ k ∧ y ∈ s := by
  change y ∈ s.toList.filter (· ≠ k) ↔ y ≠ k ∧ y ∈ s.toList
  rw [List.mem_filter, decide_eq_true_iff, and_comm]

theorem contains_iff [DecidableEq κ] {s : SortedSet κ} {k : κ} :
    s.contains k = true ↔ k ∈ s :=
  List.contains_iff_mem

end SortedSet

structure SortedMap (κ ν : Type) [Ord κ] where
  entries : List (κ × ν)
  ascending : entries.Pairwise fun a b => compare a.1 b.1 = .lt
  deriving DecidableEq

namespace SortedMap

def insertEntry (k : κ) (v : ν) : List (κ × ν) → List (κ × ν)
  | [] => [(k, v)]
  | e :: r =>
    match compare k e.1 with
    | .lt => (k, v) :: e :: r
    | .eq => (k, v) :: r
    | .gt => e :: insertEntry k v r

theorem mem_insertEntry {k : κ} {v : ν} {e : κ × ν} {l : List (κ × ν)}
    (h : e ∈ insertEntry k v l) : e = (k, v) ∨ e ∈ l := by
  induction l with
  | nil => simpa [insertEntry] using h
  | cons x r ih =>
    rw [insertEntry] at h
    split at h
    · simpa using h
    · rcases List.mem_cons.1 h with h | h
      · exact .inl h
      · exact .inr (List.mem_cons_of_mem _ h)
    · rcases List.mem_cons.1 h with h | h
      · exact .inr (h ▸ List.mem_cons_self)
      · exact (ih h).imp_right (List.mem_cons_of_mem _)

theorem ascending_insertEntry [TransOrd κ] [LawfulEqOrd κ] (k : κ) (v : ν) (l : List (κ × ν))
    (h : l.Pairwise fun a b => compare a.1 b.1 = .lt) :
    (insertEntry k v l).Pairwise fun a b => compare a.1 b.1 = .lt := by
  induction l with
  | nil => simp [insertEntry]
  | cons x r ih =>
    rw [List.pairwise_cons] at h
    rw [insertEntry]
    split
    next hk =>
      refine List.pairwise_cons.2 ⟨fun y hy => ?_, List.pairwise_cons.2 h⟩
      rcases List.mem_cons.1 hy with rfl | hy
      · exact hk
      · exact TransCmp.lt_trans hk (h.1 y hy)
    next hk =>
      refine List.pairwise_cons.2 ⟨fun y hy => ?_, h.2⟩
      rw [show compare k y.1 = compare x.1 y.1 by rw [LawfulEqOrd.eq_of_compare hk]]
      exact h.1 y hy
    next hk =>
      refine List.pairwise_cons.2 ⟨fun y hy => ?_, ih h.2⟩
      rcases mem_insertEntry hy with rfl | hy
      · exact OrientedCmp.gt_iff_lt.1 hk
      · exact h.1 y hy

def empty : SortedMap κ ν := ⟨[], List.Pairwise.nil⟩

def get? (m : SortedMap κ ν) (k : κ) : Option ν :=
  (m.entries.find? fun e => (compare k e.1).isEq).map Prod.snd

def insert [TransOrd κ] [LawfulEqOrd κ] (m : SortedMap κ ν) (k : κ) (v : ν) : SortedMap κ ν :=
  ⟨insertEntry k v m.entries, ascending_insertEntry k v m.entries m.ascending⟩

def filter (m : SortedMap κ ν) (p : κ × ν → Bool) : SortedMap κ ν :=
  ⟨m.entries.filter p, m.ascending.filter p⟩

def erase (m : SortedMap κ ν) (k : κ) : SortedMap κ ν :=
  m.filter fun e => !(compare k e.1).isEq

/-- Gives every key the new value that `f` makes of its old one, or drops it. -/
def filterMapValues (f : ν → Option ν) (m : SortedMap κ ν) : SortedMap κ ν where
  entries := m.entries.filterMap fun e => (f e.2).map fun v => (e.1, v)
  ascending := by
    refine m.ascending.filterMap _ fun a b h x hx y hy => ?_
    obtain ⟨_, _, rfl⟩ := Option.map_eq_some_iff.1 hx
    obtain ⟨_, _, rfl⟩ := Option.map_eq_some_iff.1 hy
    exact h

/-- Sets the value of a key, or removes the key where there is none. -/
def alter [TransOrd κ] [LawfulEqOrd κ] (m : SortedMap κ ν) (k : κ) : Option ν → SortedMap κ ν
  | some v => m.insert k v
  | none => m.erase k

def contains (m : SortedMap κ ν) (k : κ) : Bool :=
  (m.get? k).isSome

def size (m : SortedMap κ ν) : Nat :=
  m.entries.length

def isEmpty (m : SortedMap κ ν) : Bool :=
  m.entries.isEmpty

def keys (m : SortedMap κ ν) : List κ :=
  m.entries.map Prod.fst

def nextKey? (m : SortedMap κ ν) (k : κ) : Option κ :=
  (m.entries.find? fun e => (compare k e.1).isLT).map Prod.fst

theorem get?_empty (k : κ) : (empty : SortedMap κ ν).get? k = none := rfl

theorem get?_insert [DecidableEq κ] [TransOrd κ] [LawfulEqOrd κ] (m : SortedMap κ ν) (k : κ)
    (v : ν) (j : κ) : (m.insert k v).get? j = if j = k then some v else m.get? j := by
  have key : ∀ l : List (κ × ν),
      ((insertEntry k v l).find? fun e => (compare j e.1).isEq).map Prod.snd =
        if j = k then some v else (l.find? fun e => (compare j e.1).isEq).map Prod.snd := by
    intro l
    induction l with
    | nil => by_cases h : j = k <;> simp [insertEntry, h]
    | cons x r ih =>
      rw [insertEntry]
      split
      · by_cases h : j = k <;> simp [List.find?_cons, h]
      next hk =>
        cases LawfulEqOrd.eq_of_compare hk
        by_cases h : j = x.1 <;> simp [h]
      next hk =>
        by_cases hx : j = x.1
        · have hne : x.1 ≠ k := by
            rintro rfl
            simp at hk
          simp [hx, hne]
        · simp [hx, ih]
  exact key m.entries

theorem get?_erase [DecidableEq κ] [TransOrd κ] [LawfulEqOrd κ] (m : SortedMap κ ν) (k j : κ) :
    (m.erase k).get? j = if j = k then none else m.get? j := by
  have key : ∀ l : List (κ × ν),
      ((l.filter fun e => !(compare k e.1).isEq).find? fun e => (compare j e.1).isEq).map Prod.snd =
        if j = k then none else (l.find? fun e => (compare j e.1).isEq).map Prod.snd := by
    intro l
    induction l with
    | nil => simp
    | cons x r ih =>
      by_cases hk : k = x.1
      · by_cases h : j = k <;> simp_all
      · by_cases h : j = x.1
        · have : j ≠ k := fun e => hk (e ▸ h)
          simp_all
        · simp_all
  exact key m.entries

end SortedMap

end CacheCoherence
