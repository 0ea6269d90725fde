import CacheCoherence.Proofs.RequestFormat
import Mathlib.Data.List.Forall2

/-!
Fields one after the other. A field tells by itself where it ends, so fields are
read back from what they were written as, whatever comes behind the last one; and
a field that is read is written as exactly the octets that it was read from.
-/

namespace CacheCoherence

/-- The greatest limits whose lengths can all be written in a frame. -/
def Limits.greatest : Limits := ⟨Settings.maxLength, Settings.maxLength, Settings.maxLength⟩

namespace Frame

namespace Reader

variable {α β ι : Type}

/-- Readers one after the other, each exact for items of its own kind. -/
theorem Exact.mapM {r : ι → Reader α} {write : α → List UInt8} {p : ι → α → Prop}
    (h : ∀ i, (r i).Exact write (p i)) (is : List ι) :
    (is.mapM r).Exact (List.flatMap write) (List.Forall₂ p is) := by
  induction is with
  | nil =>
      intro bytes ys rest
      rw [List.mapM_nil, attempt_pure, Prod.mk.injEq, Except.ok.injEq, List.forall₂_nil_left_iff]
      constructor
      · intro given
        obtain ⟨rfl, rfl⟩ := given
        exact ⟨rfl, rfl⟩
      · intro given
        obtain ⟨rfl, rfl⟩ := given
        exact ⟨rfl, rfl⟩
  | cons i is ih =>
      intro bytes ys rest
      rw [List.mapM_cons, List.forall₂_cons_left_iff]
      simp only [attempt_bind_eq_ok, h i _ _ _, ih _ _ _, attempt_pure, Prod.mk.injEq,
        Except.ok.injEq]
      constructor
      · intro given
        obtain ⟨x, _, ⟨rfl, px⟩, xs, _, ⟨rfl, others⟩, rfl, rfl⟩ := given
        exact ⟨by rw [List.flatMap_cons, List.append_assoc], x, xs, px, others, rfl⟩
      · intro given
        obtain ⟨rfl, x, xs, px, others, rfl⟩ := given
        rw [List.flatMap_cons, List.append_assoc]
        exact ⟨x, _, ⟨rfl, px⟩, xs, _, ⟨rfl, others⟩, rfl, rfl⟩

end Reader

open Reader

namespace Field

/-- Whether the counts and the lengths in the field are within the limits. -/
def Within (limits : Limits) : Field → Prop
  | .long _ => True
  | .longs vs => vs.length ≤ limits.batch
  | .blob v => ∀ bytes ∈ v, bytes.length ≤ limits.value
  | .blobs vs => vs.length ≤ limits.batch ∧ ∀ v ∈ vs, ∀ bytes ∈ v, bytes.length ≤ limits.value
  | .string v => ∀ s ∈ v, Text.Utf8.size s ≤ limits.name
  | .strings vs =>
    vs.length ≤ limits.batch ∧ ∀ v ∈ vs, ∀ s ∈ v, Text.Utf8.size s ≤ limits.name

instance (limits : Limits) : (f : Field) → Decidable (f.Within limits)
  | .long _ => inferInstanceAs (Decidable True)
  | .longs vs => inferInstanceAs (Decidable (vs.length ≤ limits.batch))
  | .blob v => inferInstanceAs (Decidable (∀ bytes ∈ v, bytes.length ≤ limits.value))
  | .blobs vs => inferInstanceAs (Decidable (vs.length ≤ limits.batch ∧
      ∀ v ∈ vs, ∀ bytes ∈ v, bytes.length ≤ limits.value))
  | .string v => inferInstanceAs (Decidable (∀ s ∈ v, Text.Utf8.size s ≤ limits.name))
  | .strings vs => inferInstanceAs (Decidable (vs.length ≤ limits.batch ∧
      ∀ v ∈ vs, ∀ s ∈ v, Text.Utf8.size s ≤ limits.name))

theorem within_greatest {limits : Limits} (framed : limits.Framed) {f : Field}
    (within : f.Within limits) : f.Within .greatest := by
  cases f with
  | long v => trivial
  | longs vs => exact Nat.le_trans within framed.batch
  | blob v => exact fun bytes present => Nat.le_trans (within bytes present) framed.value
  | blobs vs =>
      exact ⟨Nat.le_trans within.1 framed.batch, fun v among bytes present =>
        Nat.le_trans (within.2 v among bytes present) framed.value⟩
  | string v => exact fun s present => Nat.le_trans (within s present) framed.name
  | strings vs =>
      exact ⟨Nat.le_trans within.1 framed.batch, fun v among s present =>
        Nat.le_trans (within.2 v among s present) framed.name⟩

end Field

namespace FieldType

/-- A field of a type is read by reading what such a field holds. -/
theorem exact_of_content {α : Type} {r : Reader α} {write : α → List UInt8} {p : α → Prop}
    {limits : Limits} {type : FieldType} {c : α → Field} (content : r.Exact write p)
    (written : ∀ x, write x = (c x).write)
    (allowed : ∀ x, p x ↔ (c x).Within limits ∧ (c x).Within .greatest)
    (ofType : ∀ f : Field, f.type = type ↔ ∃ x, c x = f) :
    (c <$> r).Exact Field.write fun f => f.type = type ∧ f.Within limits ∧ f.Within .greatest := by
  rw [map_eq_pure_bind]
  exact (content.congr (fun x _ => written x) allowed).image ofType

/-- A field is read where the octets begin with what it is written as, and it is within the limits
and within what a frame can carry. -/
theorem exact_read (limits : Limits) (context : String) (type : FieldType) :
    (type.read limits context).Exact Field.write fun f =>
      f.type = type ∧ f.Within limits ∧ f.Within .greatest := by
  cases type with
  | long =>
      refine exact_of_content (exact_long context) (fun _ => rfl) (fun v => ?_) fun f => ?_
      · simp only [Field.Within, and_self]
      · cases f <;> simp [Field.type]
  | longs =>
      refine exact_of_content (exact_longs limits context) (fun _ => rfl) (fun vs => ?_) fun f => ?_
      · rfl
      · cases f <;> simp [Field.type]
  | blob =>
      refine exact_of_content (exact_body context limits.value) (fun _ => rfl) (fun v => ?_)
        fun f => ?_
      · simp only [Fits, Field.Within, Limits.greatest, forall_and]
      · cases f <;> simp [Field.type]
  | blobs =>
      refine exact_of_content (exact_blobs limits context) (fun _ => rfl) (fun vs => ?_) fun f => ?_
      · simp only [Fits, Field.Within, Limits.greatest, forall_and, and_and_and_comm]
      · cases f <;> simp [Field.type]
  | string =>
      refine exact_of_content (exact_string limits context) (fun _ => rfl) (fun v => ?_)
        fun f => ?_
      · simp only [Fits, Field.Within, Limits.greatest, forall_and]
      · cases f <;> simp [Field.type]
  | strings =>
      refine exact_of_content (exact_strings limits context) (fun _ => rfl) (fun vs => ?_)
        fun f => ?_
      · simp only [Fits, Field.Within, Limits.greatest, forall_and, and_and_and_comm]
      · cases f <;> simp [Field.type]

/-- Reads fields one after the other, each of its type and under its name. -/
def readAll (limits : Limits) (places : List (FieldType × String)) : Reader (List Field) :=
  places.mapM fun place => place.1.read limits place.2

theorem exact_readAll (limits : Limits) (places : List (FieldType × String)) :
    (readAll limits places).Exact (List.flatMap Field.write) (List.Forall₂
      (fun place f => f.type = place.1 ∧ f.Within limits ∧ f.Within .greatest) places) :=
  Exact.mapM (fun place : FieldType × String => exact_read limits place.2 place.1) places

end FieldType

namespace Field

/-- Fields that are within limits are read back from what they were written as, and what comes
behind them is left. What is read of any octets, under any limits, is within the limits and written
as exactly the octets that were taken. A read that fails has met no field that it should have read. -/
theorem self_delimiting :
    (∀ limits : Limits, limits.Framed →
      ∀ (fields : List (Field × String)) (behind : List UInt8),
        (∀ f ∈ fields, f.1.Within limits) →
        (FieldType.readAll limits (fields.map fun f => (f.1.type, f.2))).on
          ((fields.flatMap fun f => f.1.write) ++ behind) = (.ok (fields.map Prod.fst), behind)) ∧
    ∀ (limits : Limits) (context : String) (type : FieldType) (bytes : List UInt8),
      (∃ f rest, (type.read limits context).on bytes = (.ok f, rest) ∧
        bytes = f.write ++ rest ∧ f.type = type ∧ f.Within limits) ∨
      ∃ e rest, (type.read limits context).on bytes = (.error e, rest) ∧
        (limits.Framed → ∀ (f : Field) (behind : List UInt8), f.type = type → f.Within limits →
          bytes ≠ f.write ++ behind) := by
  constructor
  · intro limits framed fields behind within
    rw [on_eq_ok_iff, FieldType.exact_readAll, List.flatMap_map, List.forall₂_map_left_iff,
      List.forall₂_map_right_iff, List.forall₂_same]
    exact ⟨rfl, fun f among => ⟨rfl, within f among, within_greatest framed (within f among)⟩⟩
  · intro limits context type bytes
    have law := fun f rest => FieldType.exact_read limits context type bytes f rest
    cases answered : (type.read limits context).on bytes with
    | mk answer rest =>
        cases answer with
        | ok f =>
            obtain ⟨taken, ofType, within, -⟩ := (law f rest).mp ((on_eq_ok_iff ..).mp answered)
            exact .inl ⟨f, rest, rfl, taken, ofType, within⟩
        | error e =>
            -- A field that stands there would be read, by the same law, and there is one answer.
            refine .inr ⟨e, rest, rfl, fun framed f behind ofType within begins => ?_⟩
            have read := (on_eq_ok_iff ..).mpr
              ((law f behind).mpr ⟨begins, ofType, within, within_greatest framed within⟩)
            rw [answered] at read
            cases read

/-- Fields of every type, with absent and empty values and all at the bounds of the limits, before
octets that look like one more absent value. -/
theorem self_delimiting_mixed :
    let fields : List (Field × String) :=
      [(.blob none, "value"), (.longs [1, -1], "oids"), (.string (some "é"), "name"),
        (.blobs [some [0xFF, 0xFF], none, some []], "oid_values"), (.blob (some []), "value"),
        (.strings [none, some "", some "né"], "names"), (.longs [], "oids"), (.long (-1), "oid")]
    Limits.Framed ⟨3, 2, 3⟩ ∧ (∀ f ∈ fields, f.1.Within ⟨3, 2, 3⟩) ∧
      (FieldType.readAll ⟨3, 2, 3⟩ (fields.map fun f => (f.1.type, f.2))).on
        ((fields.flatMap fun f => f.1.write) ++ absent) = (.ok (fields.map Prod.fst), absent) := by
  intro fields
  have framed : Limits.Framed ⟨3, 2, 3⟩ := ⟨by decide, by decide, by decide⟩
  have within : ∀ f ∈ fields, f.1.Within ⟨3, 2, 3⟩ := by decide
  exact ⟨framed, within, self_delimiting.1 _ framed fields absent within⟩

end Field

end Frame

end CacheCoherence
