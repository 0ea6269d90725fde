import CacheCoherence.Proofs.Store

/-!
Batches as changes of the store. After a batch each key that it names has the
value of its last write there, and every other key is as it was. So two batches
in turn come to one batch with the writes of both, and batches without a common
key may change places.
-/

namespace CacheCoherence.Store

section Write

variable (s : Store)

theorem object_write_of_last {b : Batch} {before after : List ObjectWrite} {w : ObjectWrite}
    (split : b.objects = before ++ w :: after) (last : ∀ v ∈ after, v.oid ≠ w.oid) :
    (s.write b).object w.oid = w.value :=
  SortedMap.get?_foldl_alter_of_last ObjectWrite.oid ObjectWrite.value split last s.objects

theorem object_write_of_absent {b : Batch} {oid : ObjectId}
    (absent : ∀ w ∈ b.objects, w.oid ≠ oid) : (s.write b).object oid = s.object oid :=
  SortedMap.get?_foldl_alter_of_absent ObjectWrite.oid ObjectWrite.value absent s.objects

theorem binding_write_of_last {b : Batch} {before after : List BindingWrite} {w : BindingWrite}
    (split : b.bindings = before ++ w :: after) (last : ∀ v ∈ after, v.name ≠ w.name) :
    (s.write b).binding w.name = w.target :=
  SortedMap.get?_foldl_alter_of_last BindingWrite.name BindingWrite.target split last s.bindings

theorem binding_write_of_absent {b : Batch} {name : String}
    (absent : ∀ w ∈ b.bindings, w.name ≠ name) : (s.write b).binding name = s.binding name :=
  SortedMap.get?_foldl_alter_of_absent BindingWrite.name BindingWrite.target absent s.bindings

theorem write_write (b c : Batch) :
    (s.write b).write c = s.write ⟨b.objects ++ c.objects, b.bindings ++ c.bindings⟩ := by
  simp only [write, List.foldl_append]

theorem write_comm {b c : Batch} (apart : b.keys.Disjoint c.keys) :
    (s.write b).write c = (s.write c).write b := by
  have values : ∀ k, ((s.write b).write c).value? k = ((s.write c).write b).value? k := by
    intro k
    rw [value?_write, value?_write, value?_write, value?_write]
    by_cases named : k ∈ b.keys
    · rw [(c.lastWrite?_eq_none_iff k).mpr (apart named), Option.getD_none, Option.getD_none]
    · rw [(b.lastWrite?_eq_none_iff k).mpr named, Option.getD_none, Option.getD_none]
  obtain ⟨objects, bindings⟩ := ext_of_value? values
  exact (Store.mk.injEq ..).mpr ⟨objects, bindings, rfl⟩

end Write

theorem apply_eq_ok_iff (s t : Store) (b : Batch) :
    s.apply b = .ok t ↔ s.disorder = none ∧ t = s.write b := by
  rw [apply]
  cases s.disorder <;> simp [eq_comm]

/-- A store in disorder refuses the second of two batches for the same reason as the first. -/
theorem apply_bind_apply (s : Store) (b c : Batch) :
    (s.apply b >>= fun t => t.apply c) =
      match s.disorder with
      | some reason => .error (.applyFailed reason)
      | none => .ok ((s.write b).write c) := by
  rw [apply]
  cases order : s.disorder with
  | some reason => rfl
  | none =>
      change (s.write b).apply c = _
      exact (apply_eq_ok_iff ..).mpr ⟨order, rfl⟩

/-- A batch that is applied gives each object and each name that it names the value of its last
write there, and leaves all others alone. The store counts what is there. Two batches in turn come
to the one batch that has the writes of both, and the order of batches without a common key does
not matter. -/
theorem apply_laws (s : Store) (b : Batch) :
    (s.disorder = none → ∃ t, s.apply b = .ok t) ∧
    (∀ t, s.apply b = .ok t →
      (∀ before w after, b.objects = before ++ w :: after → (∀ v ∈ after, v.oid ≠ w.oid) →
        t.object w.oid = w.value) ∧
      (∀ oid, (∀ w ∈ b.objects, w.oid ≠ oid) → t.object oid = s.object oid) ∧
      (∀ before w after, b.bindings = before ++ w :: after → (∀ v ∈ after, v.name ≠ w.name) →
        t.binding w.name = w.target) ∧
      ∀ name, (∀ w ∈ b.bindings, w.name ≠ name) → t.binding name = s.binding name) ∧
    {oid | (s.object oid).isSome = true}.encard = s.objects.size ∧
    {name | (s.binding name).isSome = true}.encard = s.bindings.size ∧
    (∀ c : Batch, (s.apply b >>= fun t => t.apply c) =
      s.apply ⟨b.objects ++ c.objects, b.bindings ++ c.bindings⟩) ∧
    ∀ c : Batch, b.keys.Disjoint c.keys →
      (s.apply b >>= fun t => t.apply c) = (s.apply c >>= fun t => t.apply b) := by
  refine ⟨fun ordered => ⟨s.write b, (apply_eq_ok_iff ..).mpr ⟨ordered, rfl⟩⟩, ?_,
    s.objects.encard_found, s.bindings.encard_found, ?_, ?_⟩
  · intro t applied
    obtain ⟨-, rfl⟩ := (apply_eq_ok_iff ..).mp applied
    exact ⟨fun _ _ _ split last => s.object_write_of_last split last,
      fun _ absent => s.object_write_of_absent absent,
      fun _ _ _ split last => s.binding_write_of_last split last,
      fun _ absent => s.binding_write_of_absent absent⟩
  · intro c
    rw [apply_bind_apply, write_write]
    rfl
  · intro c apart
    rw [apply_bind_apply, apply_bind_apply, write_comm s apart]

/-- An object is written twice and a name bound and unbound by one batch, which also removes an
object that is not there; the other batch has other keys. -/
theorem apply_laws_repeated :
    let s := write {} ((Batch.store {} 7 [0]).bind "b" 7)
    let b := (((Batch.store {} 5 [1]).store 5 []).remove 6 |>.bind "a" 5).unbind "a"
    let c := (Batch.remove {} 7).bind "b" 5
    ∃ t, s.apply b = .ok t ∧ t.object 5 = some [] ∧ t.object 6 = none ∧ t.object 7 = some [0] ∧
      t.binding "a" = none ∧ t.binding "b" = some 7 ∧ b.keys.Disjoint c.keys ∧
      (s.apply b >>= fun t => t.apply c) = (s.apply c >>= fun t => t.apply b) := by
  intro s b c
  obtain ⟨applies, after, -, -, -, swap⟩ := s.apply_laws b
  obtain ⟨t, applied⟩ := applies rfl
  obtain ⟨last, absent, bound, unnamed⟩ := after t applied
  have apart : b.keys.Disjoint c.keys := by
    intro k
    revert k
    decide
  refine ⟨t, applied, ?_, ?_, ?_, ?_, ?_, apart, swap c apart⟩
  · exact last [⟨5, some [1]⟩] ⟨5, some []⟩ [⟨6, none⟩] rfl (by decide)
  · exact last [⟨5, some [1]⟩, ⟨5, some []⟩] ⟨6, none⟩ [] rfl (by decide)
  · exact absent 7 (by decide)
  · exact bound [⟨"a", some 5⟩] ⟨"a", none⟩ [] rfl (by decide)
  · exact unnamed "b" (by decide)

end CacheCoherence.Store
