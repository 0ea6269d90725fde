import CacheCoherence.Proofs.SortedMap
import CacheCoherence.Proofs.Utf8Order
import CacheCoherence.Store
import Mathlib.Logic.Function.Iterate

/-!
Walks over the bindings. From any key on, the bound names behind it are met one
by one in the order of their octets, and then the upper bound; none is met
twice, and none is passed over.
-/

namespace CacheCoherence

open Std

/-- Whether a key stands before another one: names in the order of their octets, the upper bound
after every name. -/
def BindingKey.Before : BindingKey → BindingKey → Prop
  | .name a, .name b => Text.Utf8.encode a < Text.Utf8.encode b
  | .name _, .upper => True
  | .upper, _ => False

theorem compare_texts_eq_lt_iff (a b : String) :
    compare a b = .lt ↔ Text.Utf8.encode a < Text.Utf8.encode b := by
  rw [Text.Utf8.encode_lt_iff]
  exact compareOfLessAndEq_eq_lt

theorem BindingKey.compare_eq_lt_iff (j k : BindingKey) : compare j k = .lt ↔ j.Before k := by
  cases j with
  | name a =>
      cases k with
      | name b => exact compare_texts_eq_lt_iff a b
      | upper => exact iff_of_true rfl trivial
  | upper =>
      cases k with
      | name b => exact iff_of_false Ordering.noConfusion id
      | upper => exact iff_of_false Ordering.noConfusion id

namespace SortedMap

variable {κ ν : Type} [Ord κ]

/-- The keys behind `k`, in ascending order. -/
def keysAfter (m : SortedMap κ ν) (k : κ) : List κ :=
  m.keys.filter fun j => (compare k j).isLT

theorem mem_keysAfter_iff [TransOrd κ] [LawfulEqOrd κ] (m : SortedMap κ ν) (k j : κ) :
    j ∈ m.keysAfter k ↔ (m.get? j).isSome = true ∧ compare k j = .lt := by
  rw [keysAfter, List.mem_filter, mem_keys_iff, Ordering.isLT_iff_eq_lt]

theorem ascending_keysAfter (m : SortedMap κ ν) (k : κ) :
    (m.keysAfter k).Pairwise fun a b => compare a b = .lt :=
  m.ascending_keys.filter _

theorem length_keysAfter_le (m : SortedMap κ ν) (k : κ) : (m.keysAfter k).length ≤ m.size := by
  have fewer := List.length_filter_le (fun j => (compare k j).isLT) m.keys
  rwa [keys, List.length_map] at fewer

theorem nextKey?_eq_head? (m : SortedMap κ ν) (k : κ) : m.nextKey? k = (m.keysAfter k).head? := by
  rw [keysAfter, List.head?_filter, keys, List.find?_map]
  rfl

/-- Behind the first of the keys behind `k` there are the others. -/
theorem keysAfter_of_cons [TransOrd κ] {m : SortedMap κ ν} {k j : κ} {others : List κ}
    (h : m.keysAfter k = j :: others) : m.keysAfter j = others := by
  have here : j ∈ m.keysAfter k := h ▸ List.mem_cons_self
  have behind : compare k j = .lt := by simpa using (List.mem_filter.mp here).2
  have again : m.keysAfter j = (m.keysAfter k).filter fun i => (compare j i).isLT := by
    rw [keysAfter, keysAfter, List.filter_filter]
    refine List.filter_congr fun i _ => ?_
    cases between : (compare j i).isLT with
    | false => rfl
    | true =>
        have later := TransCmp.lt_trans behind (Ordering.isLT_iff_eq_lt.mp between)
        rw [later]
        rfl
  have ascending := m.ascending_keysAfter k
  rw [h, List.pairwise_cons] at ascending
  rw [again, h, List.filter_cons_of_neg (by simp)]
  exact List.filter_eq_self.mpr fun i among => Ordering.isLT_iff_eq_lt.mpr (ascending.1 i among)

end SortedMap

namespace Store

/-- The bound names behind a key, in ascending order. -/
def namesAfter (s : Store) : BindingKey → List String
  | .name text => s.bindings.keysAfter text
  | .upper => []

theorem nextBinding_eq (s : Store) (k : BindingKey) :
    s.nextBinding k = (s.namesAfter k).head?.elim .upper .name := by
  cases k with
  | upper => rfl
  | name text =>
      rw [nextBinding, namesAfter, SortedMap.nextKey?_eq_head?]
      cases (s.bindings.keysAfter text).head? <;> rfl

/-- One step takes the first of the names that are ahead, if any is. -/
theorem namesAfter_nextBinding (s : Store) (k : BindingKey) :
    s.namesAfter (s.nextBinding k) = (s.namesAfter k).tail := by
  rw [nextBinding_eq]
  cases ahead : s.namesAfter k with
  | nil => rfl
  | cons text others =>
      cases k with
      | upper => cases ahead
      | name start => exact SortedMap.keysAfter_of_cons ahead

theorem walkFrom_eq (s : Store) {fuel : Nat} {k : BindingKey}
    (enough : (s.namesAfter k).length < fuel) : s.walkFrom fuel k = s.namesAfter k := by
  induction fuel generalizing k with
  | zero => cases enough
  | succ fuel ih =>
      have later := s.namesAfter_nextBinding k
      rw [walkFrom]
      rw [nextBinding_eq] at later ⊢
      cases ahead : s.namesAfter k with
      | nil => rfl
      | cons text others =>
          rw [ahead] at later enough
          change s.namesAfter (.name text) = others at later
          change text :: s.walkFrom fuel (.name text) = text :: others
          rw [ih (by rw [later]; exact Nat.lt_of_succ_lt_succ enough), later]

theorem length_namesAfter_le (s : Store) (k : BindingKey) :
    (s.namesAfter k).length ≤ s.bindings.size := by
  cases k with
  | name text => exact s.bindings.length_keysAfter_le text
  | upper => exact Nat.zero_le _

theorem walk_eq (s : Store) (k : BindingKey) : s.walk k = s.namesAfter k :=
  s.walkFrom_eq (Nat.lt_succ_of_le (s.length_namesAfter_le k))

theorem iterate_nextBinding (s : Store) (k : BindingKey) (i : Nat) :
    s.nextBinding^[i + 1] k = (s.namesAfter k)[i]?.elim .upper .name := by
  induction i generalizing k with
  | zero => rw [Function.iterate_one, nextBinding_eq, List.head?_eq_getElem?]
  | succ i ih => rw [Function.iterate_succ_apply, ih, namesAfter_nextBinding, List.getElem?_tail]

theorem mem_namesAfter_iff (s : Store) (k : BindingKey) (text : String) :
    text ∈ s.namesAfter k ↔ (s.binding text).isSome = true ∧ k.Before (.name text) := by
  cases k with
  | name start =>
      rw [namesAfter, SortedMap.mem_keysAfter_iff, compare_texts_eq_lt_iff]
      rfl
  | upper => exact iff_of_false List.not_mem_nil fun h => h.2

theorem ascending_namesAfter (s : Store) (k : BindingKey) :
    (s.namesAfter k).Pairwise fun a b => Text.Utf8.encode a < Text.Utf8.encode b := by
  cases k with
  | name start =>
      exact (s.bindings.ascending_keysAfter start).imp fun h => (compare_texts_eq_lt_iff ..).mp h
  | upper => exact List.Pairwise.nil

/-- No bound name lies between a key and the key that comes next. -/
theorem not_between_nextBinding (s : Store) (k : BindingKey) {text : String}
    (bound : (s.binding text).isSome = true) :
    ¬(k.Before (.name text) ∧ BindingKey.Before (.name text) (s.nextBinding k)) := by
  intro between
  have among := (s.mem_namesAfter_iff k text).mpr ⟨bound, between.1⟩
  have ascending := s.ascending_namesAfter k
  have sooner := between.2
  rw [nextBinding_eq] at sooner
  cases ahead : s.namesAfter k with
  | nil =>
      rw [ahead] at among
      cases among
  | cons first others =>
      rw [ahead] at among ascending sooner
      change Text.Utf8.encode text < Text.Utf8.encode first at sooner
      rcases List.mem_cons.mp among with rfl | behind
      · exact List.lt_irrefl _ sooner
      · exact List.lt_asymm sooner ((List.pairwise_cons.mp ascending).1 text behind)

/-- Taken again and again, the step to the next binding meets the bound names behind the key from
which it starts, one after the other in the order of their octets, and then the upper bound; and no
step passes over a bound name. Keys are compared by the same order. -/
theorem walk_exact (s : Store) (k : BindingKey) :
    (∀ i j : BindingKey, compare i j = .lt ↔ i.Before j) ∧
    (∀ i, s.nextBinding^[i + 1] k = (s.walk k)[i]?.elim .upper .name) ∧
    (∀ text, text ∈ s.walk k ↔ (s.binding text).isSome = true ∧ k.Before (.name text)) ∧
    ((s.walk k).Pairwise fun a b => Text.Utf8.encode a < Text.Utf8.encode b) ∧
    (∃ calls ≤ s.bindings.size + 1, calls = (s.walk k).length + 1 ∧
      s.nextBinding^[calls] k = .upper) ∧
    ∀ i text, (s.binding text).isSome = true →
      ¬((s.nextBinding^[i] k).Before (.name text) ∧
        BindingKey.Before (.name text) (s.nextBinding^[i + 1] k)) := by
  rw [walk_eq]
  refine ⟨BindingKey.compare_eq_lt_iff, s.iterate_nextBinding k, s.mem_namesAfter_iff k,
    s.ascending_namesAfter k, ⟨_, Nat.succ_le_succ (s.length_namesAfter_le k), rfl, ?_⟩, ?_⟩
  · rw [iterate_nextBinding, List.getElem?_eq_none (Nat.le_refl _)]
    rfl
  · intro i text bound
    rw [Function.iterate_succ_apply']
    exact s.not_between_nextBinding _ bound

/-- Names that begin alike, the empty name and one that is not plain text; the walk starts at a
name that is not bound. -/
theorem walk_exact_unbound :
    let s := write {} ((((Batch.mk [] []).bind "é" 1).bind "ab" 2).bind "" 3 |>.bind "a" 4)
    s.walk "A" = ["a", "ab", "é"] ∧ s.nextBinding^[2] "A" = .name "ab" ∧
    s.nextBinding^[4] "A" = .upper ∧ (s.binding "ab").isSome = true ∧
    ¬(BindingKey.Before (s.nextBinding^[1] "A") "ab" ∧
      BindingKey.Before "ab" (s.nextBinding^[2] "A")) := by
  intro s
  have names : s.walk "A" = ["a", "ab", "é"] := by decide
  have bound : (s.binding "ab").isSome = true := by decide
  obtain ⟨-, visited, -, -, -, passed⟩ := s.walk_exact "A"
  refine ⟨names, ?_, ?_, bound, passed 1 "ab" bound⟩
  · rw [visited, names]
    rfl
  · rw [visited, names]
    rfl

end Store

end CacheCoherence
