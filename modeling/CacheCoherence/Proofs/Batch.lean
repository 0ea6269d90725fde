import CacheCoherence.Frame.Batch
import CacheCoherence.Proofs.Except
import CacheCoherence.Proofs.Word

/-!
A batch comes out of exactly the arrays that it goes into. Arrays of different
lengths, an absent name, or a number that is no identifier and does not stand
for removal belong to no batch; all others belong to one.
-/

namespace CacheCoherence.Batch

theorem checkLengths_eq_ok_iff (leftField rightField : String) (left right : Nat) (u : Unit) :
    checkLengths leftField left rightField right = .ok u ↔ left = right := by
  rw [checkLengths]
  split <;> simp [*]

theorem objectWrite_eq_ok_iff (raw : Int64) (value : Option (List UInt8)) (w : ObjectWrite) :
    objectWrite raw value = .ok w ↔ raw = w.oid.toInt64 ∧ value = w.value := by
  rw [objectWrite, bind_eq_ok_iff]
  simp only [ObjectId.ofInt64_eq_ok_iff]
  constructor
  · intro h
    obtain ⟨o, rfl, hw⟩ := h
    cases hw
    exact ⟨rfl, rfl⟩
  · intro h
    obtain ⟨rfl, rfl⟩ := h
    exact ⟨w.oid, rfl, rfl⟩

theorem exists_objectWrite_iff (raw : Int64) (value : Option (List UInt8)) :
    (∃ w, objectWrite raw value = .ok w) ↔ 0 ≤ raw.toInt := by
  simp only [objectWrite_eq_ok_iff, ← ObjectId.exists_toInt64_iff]
  constructor
  · intro h
    obtain ⟨w, id, -⟩ := h
    exact ⟨w.oid, id⟩
  · intro h
    obtain ⟨oid, id⟩ := h
    exact ⟨⟨oid, value⟩, id, rfl⟩

theorem toInt64_ne_removal (o : ObjectId) : o.toInt64 ≠ -1 := by
  intro h
  have word := o.toInt_toInt64
  rw [h] at word
  change (-1 : Int) = o.value at word
  omega

theorem bindingWrite_eq_ok_iff (name : Option String) (raw : Int64) (w : BindingWrite) :
    bindingWrite name raw = .ok w ↔ name = some w.name ∧
      raw = match w.target with
        | some oid => oid.toInt64
        | none => -1 := by
  obtain ⟨text, target⟩ := w
  cases name with
  | none => simp [bindingWrite]
  | some name =>
      by_cases removal : raw = -1
      · cases target with
        | none => simp [bindingWrite, removal]
        | some oid => simp [bindingWrite, removal, (toInt64_ne_removal oid).symm]
      · simp only [bindingWrite, if_neg removal]
        cases found : ObjectId.ofInt64? raw with
        | none =>
            cases target with
            | none => simp [removal]
            | some oid =>
                have other := mt (ObjectId.ofInt64?_eq_some_iff raw oid).mpr (by simp [found])
                simp [other]
        | some oid =>
            obtain rfl := (ObjectId.ofInt64?_eq_some_iff raw oid).mp found
            cases target with
            | none => simp [removal]
            | some target =>
                have same := ObjectId.ofInt64?_eq_some_iff oid.toInt64 target
                rw [found, Option.some.injEq] at same
                simp [same]

theorem exists_bindingWrite_iff (name : Option String) (raw : Int64) :
    (∃ w, bindingWrite name raw = .ok w) ↔ name.isSome = true ∧ -1 ≤ raw.toInt := by
  simp only [bindingWrite_eq_ok_iff, Option.isSome_iff_exists]
  constructor
  · intro h
    obtain ⟨⟨text, target⟩, named, word⟩ := h
    refine ⟨⟨text, named⟩, ?_⟩
    cases target with
    | none => exact word ▸ Int.le_refl (-1)
    | some oid =>
        rw [word, ObjectId.toInt_toInt64]
        omega
  · intro h
    obtain ⟨⟨text, named⟩, least⟩ := h
    by_cases removal : raw = -1
    · exact ⟨⟨text, none⟩, named, removal⟩
    · have other : raw.toInt ≠ -1 := fun same => removal (Int64.toInt_inj.mp same)
      obtain ⟨oid, word⟩ := (ObjectId.exists_toInt64_iff raw).mpr (by omega)
      exact ⟨⟨text, some oid⟩, named, word⟩

theorem ofArrays_eq_ok_iff (a : BatchArrays) (b : Batch) :
    ofArrays a = .ok b ↔ a = b.toArrays := by
  obtain ⟨oids, oidValues, names, nameValues⟩ := a
  obtain ⟨objects, bindings⟩ := b
  simp only [ofArrays, bind_eq_ok_iff, checkLengths_eq_ok_iff, toArrays,
    BatchArrays.mk.injEq]
  constructor
  · intro h
    obtain ⟨_, left, _, right, read, hread, bound, hbound, hb⟩ := h
    rw [mapM_zip_eq_ok_iff objectWrite_eq_ok_iff _ _ left] at hread
    rw [mapM_zip_eq_ok_iff bindingWrite_eq_ok_iff _ _ right] at hbound
    cases hb
    exact ⟨hread.1, hread.2, hbound.1, hbound.2⟩
  · intro h
    obtain ⟨h₁, h₂, h₃, h₄⟩ := h
    have left : oids.length = oidValues.length := by rw [h₁, h₂, List.length_map, List.length_map]
    have right : names.length = nameValues.length := by
      rw [h₃, h₄, List.length_map, List.length_map]
    refine ⟨(), left, (), right, objects, ?_, bindings, ?_, rfl⟩
    · exact (mapM_zip_eq_ok_iff objectWrite_eq_ok_iff _ _ left _).mpr ⟨h₁, h₂⟩
    · exact (mapM_zip_eq_ok_iff bindingWrite_eq_ok_iff _ _ right _).mpr
        ⟨h₃, h₄⟩

/-- Exactly these arrays belong to a batch. -/
theorem exists_ofArrays_iff (a : BatchArrays) :
    (∃ b, ofArrays a = .ok b) ↔
      a.oids.length = a.oidValues.length ∧ a.names.length = a.nameValues.length ∧
      (∀ raw ∈ a.oids, 0 ≤ raw.toInt) ∧ (∀ name ∈ a.names, name.isSome = true) ∧
      ∀ raw ∈ a.nameValues, -1 ≤ raw.toInt := by
  simp only [ofArrays, bind_eq_ok_iff, checkLengths_eq_ok_iff]
  constructor
  · intro h
    obtain ⟨_, _, left, _, right, written, read, named, bound, -⟩ := h
    have ids := (exists_mapM_eq_ok_iff _ _).mp ⟨written, read⟩
    have names := (exists_mapM_eq_ok_iff _ _).mp ⟨named, bound⟩
    simp only [exists_objectWrite_iff, exists_bindingWrite_iff] at ids names
    have objects : (∀ raw ∈ a.oids, 0 ≤ raw.toInt) ∧ ∀ value ∈ a.oidValues, True :=
      (forall_mem_zip_iff left).mp fun e among => ⟨ids e among, trivial⟩
    exact ⟨left, right, objects.1, (forall_mem_zip_iff right).mp names⟩
  · intro h
    obtain ⟨left, right, ids, names, words⟩ := h
    have objects := (forall_mem_zip_iff left).mpr ⟨ids, fun _ _ => trivial⟩
    have bindings := (forall_mem_zip_iff right).mpr ⟨names, words⟩
    obtain ⟨objects, read⟩ := (exists_mapM_eq_ok_iff (fun p => objectWrite p.1 p.2) _).mpr
      fun e among => (exists_objectWrite_iff ..).mpr (objects e among).1
    obtain ⟨bindings, bound⟩ := (exists_mapM_eq_ok_iff (fun p => bindingWrite p.1 p.2) _).mpr
      fun e among => (exists_bindingWrite_iff ..).mpr (bindings e among)
    exact ⟨⟨objects, bindings⟩, (), left, (), right, objects, read, bindings, bound, rfl⟩

/-- Batches and the arrays of the right form belong together one to one. In its array a removal is
told from an empty value, and from every object that a name is bound to. -/
theorem arrays_one_to_one (a : BatchArrays) :
    ((∃ b, ofArrays a = .ok b) ↔
      a.oids.length = a.oidValues.length ∧ a.names.length = a.nameValues.length ∧
      (∀ raw ∈ a.oids, 0 ≤ raw.toInt) ∧ (∀ name ∈ a.names, name.isSome = true) ∧
      ∀ raw ∈ a.nameValues, -1 ≤ raw.toInt) ∧
    (∀ b, ofArrays a = .ok b →
      b.toArrays = a ∧
      (∀ (i : Nat) (w : ObjectWrite), b.objects[i]? = some w →
        (w.value = none ↔ a.oidValues[i]? = some none) ∧
        ∀ bytes, w.value = some bytes ↔ a.oidValues[i]? = some (some bytes)) ∧
      ∀ (i : Nat) (w : BindingWrite), b.bindings[i]? = some w →
        (w.target = none ↔ a.nameValues[i]? = some (-1)) ∧
        ∀ oid, w.target = some oid ↔ a.nameValues[i]? = some oid.toInt64) ∧
    ∀ b : Batch, ofArrays b.toArrays = .ok b := by
  refine ⟨exists_ofArrays_iff a, fun b accepted => ?_, fun b => (ofArrays_eq_ok_iff ..).mpr rfl⟩
  obtain rfl := (ofArrays_eq_ok_iff ..).mp accepted
  refine ⟨rfl, fun i w here => ?_, fun i w here => ?_⟩
  · simp [toArrays, here]
  · have word : b.toArrays.nameValues[i]? = some (match w.target with
        | some oid => oid.toInt64
        | none => -1) := by
      rw [toArrays, List.getElem?_map, here]
      rfl
    rw [word]
    cases w.target with
    | none => simp [(toInt64_ne_removal _).symm]
    | some oid => simp [toInt64_ne_removal, ObjectId.toInt64_inj]

/-- An empty value beside a removed object, and the object of number zero beside a removed name. -/
theorem arrays_one_to_one_zero :
    let a : BatchArrays := ⟨[0, 0], [some [], none], [some "", some "a"], [0, -1]⟩
    let b : Batch := ⟨[⟨0, some []⟩, ⟨0, none⟩], [⟨"", some 0⟩, ⟨"a", none⟩]⟩
    ofArrays a = .ok b ∧ a.names.length = a.nameValues.length ∧ b.toArrays = a ∧
      a.oidValues[0]? = some (some []) ∧ a.oidValues[1]? = some none ∧
      a.nameValues[0]? = some (ObjectId.toInt64 0) ∧ a.nameValues[1]? = some (-1 : Int64) := by
  intro a b
  have accepted : ofArrays a = .ok b := by decide
  obtain ⟨accepts, batch, -⟩ := arrays_one_to_one a
  obtain ⟨-, names, -⟩ := accepts.mp ⟨b, accepted⟩
  obtain ⟨back, objects, bindings⟩ := batch b accepted
  refine ⟨accepted, names, back, ?_, ?_, ?_, ?_⟩
  · exact ((objects 0 ⟨0, some []⟩ rfl).2 []).mp rfl
  · exact (objects 1 ⟨0, none⟩ rfl).1.mp rfl
  · exact ((bindings 0 ⟨"", some 0⟩ rfl).2 0).mp rfl
  · exact (bindings 1 ⟨"a", none⟩ rfl).1.mp rfl

end CacheCoherence.Batch
