import CacheCoherence.SortedMap
import Mathlib.Data.List.Sort
import Mathlib.Data.Set.Card

/-!
What a sorted map answers after it has been changed. A key is found exactly when
it stands in an entry, so dropping and changing values can be said entry by
entry, and maps that answer alike are the same; after a row of changes the last
one for a key decides.
-/

namespace CacheCoherence.SortedMap

open Std

variable {κ ν : Type} [Ord κ]

theorem get?_eq_some_iff [TransOrd κ] [LawfulEqOrd κ] {m : SortedMap κ ν} {k : κ} {v : ν} :
    m.get? k = some v ↔ (k, v) ∈ m.entries := by
  obtain ⟨l, ascending⟩ := m
  change (l.find? fun e => (compare k e.1).isEq).map Prod.snd = some v ↔ (k, v) ∈ l
  induction l with
  | nil => simp
  | cons x r ih =>
      rw [List.pairwise_cons] at ascending
      by_cases h : k = x.1
      · have absent : (k, v) ∉ r := by
          intro hm
          have lt := ascending.1 _ hm
          rw [h, compare_self] at lt
          cases lt
        have head : (k, v) = x ↔ x.2 = v := by
          constructor
          · intro same
            subst same
            rfl
          · intro same
            subst same
            rw [h]
        simp only [List.find?_cons, h, compare_self, Ordering.isEq_eq, Option.map_some,
          Option.some.injEq, List.mem_cons]
        rw [← h]
        simp [absent, head]
      · have ne : (k, v) ≠ x := fun e => h (congrArg Prod.fst e)
        simp [ne, h, ih ascending.2]

theorem mem_keys_iff [TransOrd κ] [LawfulEqOrd κ] (m : SortedMap κ ν) (k : κ) :
    k ∈ m.keys ↔ (m.get? k).isSome = true := by
  rw [keys, List.mem_map, Option.isSome_iff_exists]
  constructor
  · intro h
    obtain ⟨e, among, rfl⟩ := h
    exact ⟨e.2, get?_eq_some_iff.mpr among⟩
  · intro h
    obtain ⟨v, found⟩ := h
    exact ⟨(k, v), get?_eq_some_iff.mp found, rfl⟩

theorem ascending_keys (m : SortedMap κ ν) : m.keys.Pairwise fun a b => compare a b = .lt :=
  List.pairwise_map.mpr m.ascending

/-- A map has as many entries as there are keys that are found in it. -/
theorem encard_found [TransOrd κ] [LawfulEqOrd κ] (m : SortedMap κ ν) :
    {k | (m.get? k).isSome = true}.encard = m.size := by
  classical
  have distinct : m.keys.Nodup := m.ascending_keys.imp fun {a b} less same => by
    rw [same, compare_self] at less
    cases less
  have found : {k | (m.get? k).isSome = true} = (m.keys.toFinset : Set κ) := by
    ext k
    rw [Finset.mem_coe, List.mem_toFinset, mem_keys_iff]
    rfl
  rw [found, Set.encard_coe_eq_coe_finsetCard, List.toFinset_card_of_nodup distinct, keys,
    List.length_map]
  rfl

/-- Lists in ascending order of some key of their members are known from their members. -/
theorem eq_of_ascending {α : Type} [TransOrd κ] (key : α → κ) {l l' : List α}
    (ascending : l.Pairwise fun a b => compare (key a) (key b) = .lt)
    (ascending' : l'.Pairwise fun a b => compare (key a) (key b) = .lt)
    (same : ∀ a, a ∈ l ↔ a ∈ l') : l = l' := by
  have irrefl : Std.Irrefl fun a b : α => compare (key a) (key b) = .lt := ⟨fun a => by simp⟩
  have antisymm : Std.Antisymm fun a b : α => compare (key a) (key b) = .lt :=
    ⟨fun a b hab hba => by simp [OrientedCmp.gt_of_lt hab] at hba⟩
  exact ascending.eq_of_mem_iff ascending' same

theorem ext_of_get? [TransOrd κ] [LawfulEqOrd κ] {m m' : SortedMap κ ν}
    (h : ∀ k, m.get? k = m'.get? k) : m = m' := by
  have same : m.entries = m'.entries :=
    eq_of_ascending Prod.fst m.ascending m'.ascending fun e => by
      rw [← get?_eq_some_iff, ← get?_eq_some_iff, h]
  cases m
  cases m'
  cases same
  rfl

theorem get?_filterMapValues [TransOrd κ] [LawfulEqOrd κ] (f : ν → Option ν) (m : SortedMap κ ν)
    (k : κ) : (m.filterMapValues f).get? k = (m.get? k).bind f := by
  apply Option.ext
  intro v
  rw [get?_eq_some_iff, Option.bind_eq_some_iff]
  simp only [filterMapValues, List.mem_filterMap, Option.map_eq_some_iff, Prod.mk.injEq]
  constructor
  · intro h
    obtain ⟨⟨j, old⟩, hm, v', hf, rfl, rfl⟩ := h
    exact ⟨old, get?_eq_some_iff.mpr hm, hf⟩
  · intro h
    obtain ⟨old, hg, hf⟩ := h
    exact ⟨(k, old), get?_eq_some_iff.mp hg, v, hf, rfl, rfl⟩

section Lookup

variable [DecidableEq κ] [TransOrd κ] [LawfulEqOrd κ]

theorem get?_alter (m : SortedMap κ ν) (k : κ) (v : Option ν) (j : κ) :
    (m.alter k v).get? j = if j = k then v else m.get? j := by
  cases v with
  | none => exact get?_erase m k j
  | some v => exact get?_insert m k v j

variable {ω : Type} (key : ω → κ) (value : ω → Option ν)

theorem get?_foldl_alter (writes : List ω) (m : SortedMap κ ν) (j : κ) :
    (writes.foldl (fun m w => m.alter (key w) (value w)) m).get? j =
      match writes.reverse.find? fun w => key w = j with
      | some w => value w
      | none => m.get? j := by
  induction writes generalizing m with
  | nil => rfl
  | cons w r ih =>
      rw [List.foldl_cons, ih, List.reverse_cons, List.find?_append, get?_alter]
      cases r.reverse.find? fun w => key w = j with
      | some last => rfl
      | none =>
          by_cases h : key w = j
          · simp [h]
          · simp [h, Ne.symm h]

theorem get?_foldl_alter_of_last {writes before after : List ω} {w : ω}
    (split : writes = before ++ w :: after) (last : ∀ v ∈ after, key v ≠ key w)
    (m : SortedMap κ ν) :
    (writes.foldl (fun m w => m.alter (key w) (value w)) m).get? (key w) = value w := by
  have later : after.reverse.find? (fun v => key v = key w) = none :=
    List.find?_eq_none.mpr fun v among => by simpa using last v (List.mem_reverse.mp among)
  have found : writes.reverse.find? (fun v => key v = key w) = some w := by
    rw [split, List.reverse_append, List.reverse_cons, List.append_assoc, List.find?_append, later,
      Option.none_or, List.singleton_append, List.find?_cons_of_pos (by simp)]
  rw [get?_foldl_alter, found]

theorem get?_foldl_alter_of_absent {writes : List ω} {j : κ} (absent : ∀ w ∈ writes, key w ≠ j)
    (m : SortedMap κ ν) :
    (writes.foldl (fun m w => m.alter (key w) (value w)) m).get? j = m.get? j := by
  have none : writes.reverse.find? (fun w => key w = j) = none :=
    List.find?_eq_none.mpr fun w among => by simpa using absent w (List.mem_reverse.mp among)
  rw [get?_foldl_alter, none]

end Lookup

end CacheCoherence.SortedMap

namespace CacheCoherence.SortedSet

open Std

variable {κ : Type} [Ord κ] [TransOrd κ] [LawfulEqOrd κ]

omit [TransOrd κ] [LawfulEqOrd κ] in
theorem ext_toList {s t : SortedSet κ} (h : s.toList = t.toList) : s = t := by
  cases s
  cases t
  cases h
  rfl

theorem ofList_toList (s : SortedSet κ) : ofList s.toList = s :=
  ext_toList (SortedMap.eq_of_ascending id (ofList s.toList).ascending s.ascending
    fun _ => mem_ofList)

end CacheCoherence.SortedSet
