import CacheCoherence.Frame.Request
import CacheCoherence.Proofs.Batch
import CacheCoherence.Proofs.Reader

/-!
The request format. A request is read exactly where the octets begin with its
frame and every part of it is within the limits; the check that a node makes
before sending asks for just that.
-/

namespace CacheCoherence

open CacheCoherence.Frame CacheCoherence.Frame.Reader

/-- The limits are such that every length they allow can be written in a frame. -/
structure Limits.Framed (limits : Limits) : Prop where
  batch : limits.batch ≤ Settings.maxLength
  value : limits.value ≤ Settings.maxLength
  name : limits.name ≤ Settings.maxLength

namespace Settings

theorem checkSize_eq_ok_iff (bad : Nat → Bool) (reason : String) (field : String × Nat) :
    checkSize bad reason field = .ok () ↔ bad field.2 = false := by
  rw [checkSize]
  cases bad field.2 <;> simp

/-- What is accepted: sizes above zero, limits that a frame can carry, and an address. -/
theorem check_eq_ok_iff (s : Settings) :
    s.check = .ok () ↔ (∀ field ∈ s.sizeFields, 0 < field.2) ∧
      (∀ field ∈ s.limitFields, field.2 ≤ maxLength) ∧
      (Text.strip s.listenAddress.toList).isEmpty = false := by
  have addressed (address : String) (blank : Bool) :
      (if blank then throw (.invalidValue "listen_addr" address "must not be empty")
        else pure () : Except SettingError Unit) = .ok () ↔ blank = false := by
    cases blank <;> simp [throw, throwThe, MonadExceptOf.throw, pure, Except.pure]
  simp only [check, bind_eq_ok_iff, forM_eq_ok_iff, checkSize_eq_ok_iff, addressed,
    decide_eq_false_iff_not, Nat.pos_iff_ne_zero, Nat.not_lt, exists_const]

theorem framed_of_check {s : Settings} (h : s.check = .ok ()) : s.limits.Framed := by
  have fits := (s.check_eq_ok_iff.mp h).2.1
  exact ⟨fits ("max_batch_len", _) (by simp [limitFields, limits]),
    fits ("max_value_len", _) (by simp [limitFields, limits]),
    fits ("max_name_len", _) (by simp [limitFields, limits])⟩

end Settings

namespace Request

/-- Whether every part of the request is within the limits, and short enough for a frame. -/
def Within (limits : Limits) : Request → Prop
  | .commit b =>
    Fits limits.batch b.objects.length ∧ Fits limits.batch b.bindings.length ∧
      (∀ w ∈ b.objects, ∀ bytes ∈ w.value, Fits limits.value bytes.length) ∧
      ∀ w ∈ b.bindings, Fits limits.name (Text.Utf8.size w.name)
  | .evictObject _ | .downgradeObject _ => True
  | .evictBinding k | .downgradeBinding k => ∀ s ∈ k.name?, Fits limits.name (Text.Utf8.size s)

def payload (r : Request) : List UInt8 :=
  r.fields.flatMap Field.write

theorem attempt_malformed_eq_ok_iff {α : Type} (x : Except InputError α) (bytes rest : List UInt8)
    (y : α) : (malformed x).attempt bytes = (.ok y, rest) ↔ x = .ok y ∧ bytes = rest := by
  cases x with
  | error e =>
      rw [malformed, attempt_malformed]
      simp
  | ok a =>
      rw [malformed, attempt_pure]
      simp

theorem exact_readObject : readObject.Exact (fun o => writeLong o.toInt64) fun _ => True := by
  intro bytes o rest
  rw [readObject, attempt_bind_eq_ok]
  simp only [exact_long "oid" _ _ _, attempt_malformed_eq_ok_iff, ObjectId.ofInt64_eq_ok_iff]
  constructor
  · intro h
    obtain ⟨raw, middle, ⟨hb, _⟩, hraw, hm⟩ := h
    rw [hb, hraw, hm]
    exact ⟨rfl, trivial⟩
  · intro h
    obtain ⟨hb, _⟩ := h
    exact ⟨o.toInt64, rest, ⟨hb, trivial⟩, rfl, rfl⟩

theorem exact_readBinding (limits : Limits) :
    (readBinding limits).Exact (fun k => writeString k.name?) fun k =>
      ∀ s ∈ k.name?, Fits limits.name (Text.Utf8.size s) := by
  intro bytes k rest
  rw [readBinding, attempt_bind_eq_ok]
  simp only [exact_string limits "name" _ _ _]
  constructor
  · intro h
    obtain ⟨name, middle, ⟨hb, fits⟩, hk⟩ := h
    cases name with
    | none =>
        cases hk
        exact ⟨hb, fits⟩
    | some s =>
        cases hk
        exact ⟨hb, fits⟩
  · intro h
    obtain ⟨hb, fits⟩ := h
    refine ⟨k.name?, rest, ⟨hb, fits⟩, ?_⟩
    cases k <;> rfl

theorem within_commit_iff (limits : Limits) (b : Batch) : (commit b).Within limits ↔
    Fits limits.batch b.toArrays.oids.length ∧
      (Fits limits.batch b.toArrays.oidValues.length ∧
        ∀ v ∈ b.toArrays.oidValues, ∀ bytes ∈ v, Fits limits.value bytes.length) ∧
      (Fits limits.batch b.toArrays.names.length ∧
        ∀ v ∈ b.toArrays.names, ∀ s ∈ v, Fits limits.name (Text.Utf8.size s)) ∧
      Fits limits.batch b.toArrays.nameValues.length := by
  simp only [Within, Batch.toArrays, List.length_map, List.forall_mem_map, Option.mem_def,
    Option.some.injEq, forall_eq']
  constructor
  · intro h
    obtain ⟨objects, bindings, values, names⟩ := h
    exact ⟨objects, ⟨objects, values⟩, ⟨bindings, names⟩, bindings⟩
  · intro h
    obtain ⟨objects, ⟨_, values⟩, ⟨bindings, names⟩, _⟩ := h
    exact ⟨objects, bindings, values, names⟩

theorem payload_commit (b : Batch) : (commit b).payload =
    writeLongs b.toArrays.oids ++ (writeBlobs b.toArrays.oidValues ++
      (writeStrings b.toArrays.names ++ writeLongs b.toArrays.nameValues)) := by
  simp [payload, fields, Field.write]

theorem exact_readBatch (limits : Limits) :
    (readBatch limits).Exact (fun b => (commit b).payload) fun b => (commit b).Within limits := by
  intro bytes b rest
  change _ ↔ bytes = (commit b).payload ++ rest ∧ (commit b).Within limits
  rw [payload_commit, within_commit_iff, readBatch]
  simp only [attempt_bind_eq_ok, exact_longs limits _ _ _ _, exact_blobs limits _ _ _ _,
    exact_strings limits _ _ _ _, attempt_malformed_eq_ok_iff, Batch.ofArrays_eq_ok_iff,
    List.append_assoc]
  constructor
  · intro h
    obtain ⟨oids, _, ⟨h₁, fits₁⟩, oidValues, _, ⟨h₂, fits₂⟩, names, _, ⟨h₃, fits₃⟩, nameValues,
      _, ⟨h₄, fits₄⟩, ha, hr⟩ := h
    rw [← ha, h₁, h₂, h₃, h₄, hr]
    exact ⟨rfl, fits₁, fits₂, fits₃, fits₄⟩
  · intro h
    obtain ⟨hb, fits₁, fits₂, fits₃, fits₄⟩ := h
    exact ⟨_, _, ⟨hb, fits₁⟩, _, _, ⟨rfl, fits₂⟩, _, _, ⟨rfl, fits₃⟩, _, _, ⟨rfl, fits₄⟩, rfl, rfl⟩

theorem ofTag?_eq_some_iff (tag : UInt8) (k : RequestKind) :
    RequestKind.ofTag? tag = some k ↔ tag = k.tag := by
  constructor
  · intro h
    have found := List.find?_some h
    exact (of_decide_eq_true found).symm
  · intro h
    subst h
    cases k <;> rfl

def readPayload (limits : Limits) : RequestKind → Reader Request
  | .commit => do return .commit (← readBatch limits)
  | .evictObject => do return .evictObject (← readObject)
  | .downgradeObject => do return .downgradeObject (← readObject)
  | .evictBinding => do return .evictBinding (← readBinding limits)
  | .downgradeBinding => do return .downgradeBinding (← readBinding limits)

theorem exact_readPayload (limits : Limits) (k : RequestKind) :
    (readPayload limits k).Exact payload fun r => r.kind = k ∧ r.Within limits := by
  have object : readObject.Exact (fun o => (evictObject o).payload) fun _ => True :=
    exact_readObject.congr (fun _ _ => (List.append_nil _).symm) fun _ => Iff.rfl
  have binding : (readBinding limits).Exact (fun k => (evictBinding k).payload) fun k =>
      (evictBinding k).Within limits :=
    (exact_readBinding limits).congr (fun _ _ => (List.append_nil _).symm) fun _ => Iff.rfl
  cases k with
  | commit =>
      refine (exact_readBatch limits).image fun r => ?_
      cases r <;> simp [kind]
  | evictObject =>
      refine object.image fun r => ?_
      cases r <;> simp [kind]
  | downgradeObject =>
      refine Exact.image (c := downgradeObject) object fun r => ?_
      cases r <;> simp [kind]
  | evictBinding =>
      refine binding.image fun r => ?_
      cases r <;> simp [kind]
  | downgradeBinding =>
      refine Exact.image (c := downgradeBinding) binding fun r => ?_
      cases r <;> simp [kind]

theorem attempt_read (limits : Limits) (tag : UInt8) (bytes : List UInt8) :
    (read limits).attempt (tag :: bytes) =
      match RequestKind.ofTag? tag with
      | none => (.error (.refused (.unknownTag tag)), bytes)
      | some k => Reader.attempt (do return some (← readPayload limits k)) bytes := by
  have begun : start.attempt (tag :: bytes) = (.ok (some tag), bytes) := rfl
  rw [read, attempt_bind, begun]
  cases h : RequestKind.ofTag? tag with
  | none =>
      simp only [h]
      rfl
  | some k => cases k <;> simp only [h, readPayload, bind_assoc, pure_bind]

theorem attempt_read_eq_some_iff (limits : Limits) (bytes rest : List UInt8) (r : Request) :
    (read limits).attempt bytes = (.ok (some r), rest) ↔
      bytes = r.frame ++ rest ∧ r.Within limits := by
  cases bytes with
  | nil =>
      have ended : (read limits).attempt [] = (.ok none, []) := rfl
      rw [ended]
      simp [frame]
  | cons tag bytes =>
      have frame_eq : tag :: bytes = r.frame ++ rest ↔
          tag = r.kind.tag ∧ bytes = r.payload ++ rest :=
        List.cons.injEq .. ▸ Iff.rfl
      rw [attempt_read, frame_eq, ← ofTag?_eq_some_iff]
      cases h : RequestKind.ofTag? tag with
      | none => simp
      | some k =>
          simp only [attempt_bind_eq_ok, exact_readPayload limits k bytes _ _, attempt_pure,
            Prod.mk.injEq, Except.ok.injEq, Option.some.injEq]
          constructor
          · intro given
            obtain ⟨x, middle, ⟨hb, hk, within⟩, hx, hm⟩ := given
            subst hx hm
            exact ⟨⟨hk.symm, hb⟩, within⟩
          · intro given
            obtain ⟨⟨hk, hb⟩, within⟩ := given
            exact ⟨r, rest, ⟨hb, hk.symm, within⟩, rfl, rfl⟩

theorem checkLength_eq_ok_iff (field : String) (length limit : Nat) (u : Unit) :
    checkLength field length limit = .ok u ↔ length ≤ limit := by
  rw [checkLength]
  split
  · simp only [reduceCtorEq, false_iff]
    omega
  · simp only [true_iff]
    omega

theorem fits_iff {limit : Nat} (h : limit ≤ Settings.maxLength) (n : Nat) :
    Fits limit n ↔ n ≤ limit :=
  ⟨fun fits => fits.1, fun le => ⟨le, Nat.le_trans le h⟩⟩

theorem checkBindingKey_eq_ok_iff (limits : Limits) (k : BindingKey) (u : Unit) :
    checkBindingKey limits k = .ok u ↔ ∀ s ∈ k.name?, Text.Utf8.size s ≤ limits.name := by
  cases k <;> simp [checkBindingKey, BindingKey.name?, checkLength_eq_ok_iff]

theorem checkValue_eq_ok_iff (limits : Limits) (w : ObjectWrite) (u : Unit) :
    checkValue limits w = .ok u ↔ ∀ bytes ∈ w.value, bytes.length ≤ limits.value := by
  rw [checkValue]
  cases w.value <;> simp [checkLength_eq_ok_iff]

theorem check_eq_ok_iff {limits : Limits} (framed : limits.Framed) (r : Request) :
    r.check limits = .ok () ↔ r.Within limits := by
  cases r with
  | commit b =>
      simp only [check, Within, bind_eq_ok_iff, forM_eq_ok_iff, checkLength_eq_ok_iff,
        checkValue_eq_ok_iff, fits_iff framed.batch, fits_iff framed.value, fits_iff framed.name]
      constructor
      · intro h
        obtain ⟨_, objects, _, bindings, _, values, names⟩ := h
        exact ⟨objects, bindings, values, names⟩
      · intro h
        obtain ⟨objects, bindings, values, names⟩ := h
        exact ⟨(), objects, (), bindings, (), values, names⟩
  | evictObject o => simp [check, Within]
  | downgradeObject o => simp [check, Within]
  | evictBinding k =>
      simp only [check, Within, checkBindingKey_eq_ok_iff, fits_iff framed.name]
  | downgradeBinding k =>
      simp only [check, Within, checkBindingKey_eq_ok_iff, fits_iff framed.name]

/-- An error of a check tells of a length beyond its limit. -/
def IsLimit (e : InputError) : Prop :=
  ∃ field length limit, e = .limitExceeded field length limit

theorem isLimit_of_checkLength {field : String} {length limit : Nat} {e : InputError}
    (h : checkLength field length limit = .error e) : IsLimit e := by
  rw [checkLength] at h
  split at h
  · cases h
    exact ⟨field, length, limit, rfl⟩
  · cases h

theorem isLimit_of_checkBindingKey {limits : Limits} {k : BindingKey} {e : InputError}
    (h : checkBindingKey limits k = .error e) : IsLimit e := by
  rw [checkBindingKey] at h
  split at h
  · exact isLimit_of_checkLength h
  · cases h

theorem isLimit_of_checkValue {limits : Limits} {w : ObjectWrite} {e : InputError}
    (h : checkValue limits w = .error e) : IsLimit e := by
  rw [checkValue] at h
  split at h
  · exact isLimit_of_checkLength h
  · cases h

theorem isLimit_of_check {limits : Limits} {r : Request} {e : InputError}
    (h : r.check limits = .error e) : IsLimit e := by
  cases r with
  | commit b =>
      simp only [check, bind_eq_error_iff] at h
      obtain objects | ⟨_, -, bindings | ⟨_, -, values | ⟨_, -, names⟩⟩⟩ := h
      · exact isLimit_of_checkLength objects
      · exact isLimit_of_checkLength bindings
      · obtain ⟨w, -, failed⟩ := exists_of_forM_eq_error values
        exact isLimit_of_checkValue failed
      · obtain ⟨w, -, failed⟩ := exists_of_forM_eq_error names
        exact isLimit_of_checkLength failed
  | evictObject _ | downgradeObject _ => cases h
  | evictBinding k | downgradeBinding k => exact isLimit_of_checkBindingKey h

/-- Octets are read as a request where they begin with its frame and its check succeeds, and a
request passes its check where its own frame is read as itself. -/
theorem read_eq_some_iff_check {limits : Limits} (framed : limits.Framed) :
    (∀ bytes r rest, (read limits).on bytes = (.ok (some r), rest) ↔
      bytes = r.frame ++ rest ∧ r.check limits = .ok ()) ∧
    ∀ r : Request, r.check limits = .ok () ↔ (read limits).on r.frame = (.ok (some r), []) := by
  have law : ∀ bytes r rest, (read limits).on bytes = (.ok (some r), rest) ↔
      bytes = r.frame ++ rest ∧ r.check limits = .ok () := by
    intro bytes r rest
    rw [on_eq_ok_iff, attempt_read_eq_some_iff, check_eq_ok_iff framed]
  refine ⟨law, fun r => ?_⟩
  rw [law, List.append_nil]
  exact (and_iff_right rfl).symm

/-- A batch with a removal of each kind, an empty value and a name of two octets in one
character, at the bounds of the limits used with it. -/
def mixed : Request := .commit
  { objects := [⟨7, some [1, 2]⟩, ⟨8, some []⟩, ⟨9, none⟩]
    bindings := [⟨"é", some 0x7fffffffffffffff⟩, ⟨"", none⟩] }

theorem read_frame_mixed : Limits.Framed ⟨3, 2, 2⟩ ∧
    (read ⟨3, 2, 2⟩).on (mixed.frame ++ [7]) = (.ok (some mixed), [7]) ∧
    (read ⟨3, 2, 1⟩).on mixed.frame ≠ (.ok (some mixed), []) := by
  have framed : Limits.Framed ⟨3, 2, 2⟩ := ⟨by decide, by decide, by decide⟩
  have narrow : Limits.Framed ⟨3, 2, 1⟩ := ⟨by decide, by decide, by decide⟩
  refine ⟨framed, ?_, ?_⟩
  · exact ((read_eq_some_iff_check framed).1 _ mixed [7]).mpr ⟨rfl, by decide⟩
  · exact mt ((read_eq_some_iff_check narrow).2 mixed).mpr (by decide)

end Request

end CacheCoherence
