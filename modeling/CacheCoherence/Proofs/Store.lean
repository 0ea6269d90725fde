import CacheCoherence.Proofs.SortedMap
import CacheCoherence.Store

/-!
The store seen key by key. A batch gives a key the value of its last write to
that key and leaves every other key alone, so what a batch does to the store is
known from its last writes.
-/

namespace CacheCoherence

/-- What the store has for a key: the octets of an object, or the object that a name is bound to. -/
inductive Value where
  | bytes (octets : List UInt8)
  | target (oid : ObjectId)
  deriving DecidableEq

/-- The last write of a batch to a key: a new value, or removal. -/
def Batch.lastWrite? (b : Batch) : Key → Option (Option Value)
  | .object oid =>
      (b.objects.reverse.find? fun w => w.oid = oid).map fun w => w.value.map .bytes
  | .binding (.name text) =>
      (b.bindings.reverse.find? fun w => w.name = text).map fun w => w.target.map .target
  | .binding .upper => none

theorem Batch.lastWrite?_eq_none_iff (b : Batch) (k : Key) :
    b.lastWrite? k = none ↔ k ∉ b.keys := by
  cases k with
  | object oid => simp [lastWrite?, keys]
  | binding key =>
      cases key with
      | name text => simp [lastWrite?, keys]
      | upper => simp [lastWrite?, keys]

namespace Store

def value? (s : Store) : Key → Option Value
  | .object oid => (s.object oid).map .bytes
  | .binding (.name text) => (s.binding text).map .target
  | .binding .upper => none

theorem value?_write (s : Store) (b : Batch) (k : Key) :
    (s.write b).value? k = (b.lastWrite? k).getD (s.value? k) := by
  cases k with
  | object oid =>
      simp only [value?, object, write, Batch.lastWrite?, SortedMap.get?_foldl_alter]
      cases b.objects.reverse.find? fun w => w.oid = oid <;> rfl
  | binding key =>
      cases key with
      | name text =>
          simp only [value?, binding, write, Batch.lastWrite?, SortedMap.get?_foldl_alter]
          cases b.bindings.reverse.find? fun w => w.name = text <;> rfl
      | upper => rfl

theorem value?_write_of_not_mem (s : Store) {b : Batch} {k : Key} (h : k ∉ b.keys) :
    (s.write b).value? k = s.value? k := by
  rw [value?_write, (b.lastWrite?_eq_none_iff k).mpr h, Option.getD_none]

theorem write_of_keys_eq_nil (s : Store) {b : Batch} (h : b.keys = []) : s.write b = s := by
  simp only [Batch.keys, List.append_eq_nil_iff, List.map_eq_nil_iff] at h
  simp only [write, h.1, h.2, List.foldl_nil]

theorem value?_foldl_write (s : Store) (batches : List Batch) (k : Key) :
    (batches.foldl write s).value? k =
      batches.foldl (fun v b => (b.lastWrite? k).getD v) (s.value? k) := by
  induction batches generalizing s with
  | nil => rfl
  | cons b batches ih => rw [List.foldl_cons, ih, value?_write, List.foldl_cons]

/-- Stores that have the same values consist of the same maps. -/
theorem ext_of_value? {s t : Store} (h : ∀ k, s.value? k = t.value? k) :
    s.objects = t.objects ∧ s.bindings = t.bindings := by
  constructor
  · refine SortedMap.ext_of_get? fun oid => ?_
    refine Option.map_injective (fun a b same => ?_) (h (.object oid))
    exact Value.bytes.inj same
  · refine SortedMap.ext_of_get? fun text => ?_
    refine Option.map_injective (fun a b same => ?_) (h (.binding (.name text)))
    exact Value.target.inj same

end Store

end CacheCoherence
