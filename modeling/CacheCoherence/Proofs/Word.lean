import CacheCoherence.Error
import CacheCoherence.Frame.Field
import Mathlib.Data.List.Induction

/-!
Octets and numbers determine each other: reading a number and writing it in as
many octets gives the same octets back, and a number in two's complement is its
own reading within the range of its width.
-/

namespace CacheCoherence.Frame

theorem toNat_lt (bytes : List UInt8) : toNat bytes < bound bytes.length := by
  induction bytes using List.reverseRecOn with
  | nil => decide
  | append_singleton rest b ih =>
      rw [toNat_concat, List.length_append, List.length_singleton, bound]
      have := b.toNat_lt
      omega

theorem ofNat_toNat (bytes : List UInt8) : ofNat bytes.length (toNat bytes) = bytes := by
  induction bytes using List.reverseRecOn with
  | nil => rfl
  | append_singleton rest b ih =>
      have below := b.toNat_lt
      have high : (toNat rest * 256 + b.toNat) / 256 = toNat rest := by omega
      have low : UInt8.ofNat (toNat rest * 256 + b.toNat) = b := by
        rw [← UInt8.toNat_inj, UInt8.toNat_ofNat']
        omega
      rw [toNat_concat, List.length_append, List.length_singleton, ofNat, high, low, ih]

/-- The octets of a number in two's complement. -/
def ofInt (width : Nat) (i : Int) : List UInt8 :=
  ofNat width (i % (bound width : Int)).toNat

theorem length_ofInt (width : Nat) (i : Int) : (ofInt width i).length = width :=
  length_ofNat width _

theorem ofInt_natCast (width n : Nat) (h : n < bound width) : ofInt width n = ofNat width n := by
  rw [ofInt, ← Int.natCast_emod, Int.toNat_natCast, Nat.mod_eq_of_lt h]

theorem ofInt_signed (bytes : List UInt8) :
    ofInt bytes.length (signed bytes.length (toNat bytes)) = bytes := by
  have below := toNat_lt bytes
  have number : (signed bytes.length (toNat bytes) % (bound bytes.length : Int)).toNat =
      toNat bytes := by
    rw [signed]
    split
    · rw [← Int.natCast_emod, Int.toNat_natCast, Nat.mod_eq_of_lt below]
    · rw [Int.sub_emod_right, ← Int.natCast_emod, Int.toNat_natCast, Nat.mod_eq_of_lt below]
  rw [ofInt, number, ofNat_toNat]

/-- Whether a number is the reading of so many octets. -/
def InRange (width : Nat) (i : Int) : Prop :=
  -((bound width / 2 : Nat) : Int) ≤ i ∧ i < (bound width / 2 : Nat)

private theorem even_of_pos {width : Nat} (h : 0 < width) :
    bound width = 2 * (bound width / 2) := by
  obtain ⟨w, rfl⟩ : ∃ w, width = w + 1 := ⟨width - 1, by omega⟩
  rw [bound]
  omega

theorem inRange_signed (bytes : List UInt8) (h : 0 < bytes.length) :
    InRange bytes.length (signed bytes.length (toNat bytes)) := by
  have below := toNat_lt bytes
  have even := even_of_pos h
  rw [InRange, signed]
  split <;> omega

theorem signed_ofInt {width : Nat} {i : Int} (pos : 0 < width) (h : InRange width i) :
    signed width (toNat (ofInt width i)) = i := by
  obtain ⟨low, high⟩ := h
  have even := even_of_pos pos
  rw [ofInt, toNat_ofNat, signed]
  generalize bound width = m at *
  rcases Int.lt_or_le i 0 with negative | positive
  · have number : i % (m : Int) = i + m := by
      rw [← Int.add_emod_right, Int.emod_eq_of_lt (by omega) (by omega)]
    rw [number, Nat.mod_eq_of_lt (by omega), if_neg (by omega)]
    omega
  · rw [Int.emod_eq_of_lt positive (by omega), Nat.mod_eq_of_lt (by omega), if_pos (by omega)]
    omega

theorem writeLong_eq (v : Int64) : writeLong v = ofInt 8 v.toInt := by
  have word : v.toBitVec = BitVec.ofInt 64 v.toInt := (BitVec.ofInt_toInt).symm
  change ofNat 8 v.toBitVec.toNat = _
  rw [word, BitVec.toNat_ofInt]
  rfl

theorem inRange_toInt (v : Int64) : InRange 8 v.toInt :=
  ⟨v.le_toInt, v.toInt_lt⟩

theorem ofInt_signed_long {bytes : List UInt8} (h : bytes.length = 8) :
    writeLong (Int64.ofInt (signed 8 (toNat bytes))) = bytes := by
  obtain ⟨low, high⟩ := inRange_signed bytes (by omega)
  have read := ofInt_signed bytes
  rw [h] at low high read
  rw [writeLong_eq, Int64.toInt_ofInt_of_le low high, read]

theorem long_of_writeLong (v : Int64) : Int64.ofInt (signed 8 (toNat (writeLong v))) = v := by
  rw [writeLong_eq, signed_ofInt (by decide) (inRange_toInt v), Int64.ofInt_toInt]

end CacheCoherence.Frame

namespace CacheCoherence

theorem NodeId.toInt_toInt64 (n : NodeId) : n.toInt64.toInt = n.value :=
  Int64.toInt_ofNat_of_lt n.value_lt

theorem ObjectId.toInt_toInt64 (o : ObjectId) : o.toInt64.toInt = o.value :=
  Int64.toInt_ofNat_of_lt o.value_lt

/-- The word of a number that fits is the only one that is read as that number. -/
theorem eq_ofNat_iff {raw : Int64} {value : Nat} (below : value < 0x8000000000000000) :
    raw = Int64.ofNat value ↔ 0 ≤ raw.toInt ∧ raw.toInt.toNat = value := by
  rw [← Int64.toInt_inj, Int64.toInt_ofNat_of_lt below]
  omega

theorem ObjectId.ofInt64?_eq_some_iff (raw : Int64) (o : ObjectId) :
    ObjectId.ofInt64? raw = some o ↔ raw = o.toInt64 := by
  obtain ⟨value, below⟩ := o
  rw [ObjectId.ofInt64?, ObjectId.toInt64, eq_ofNat_iff below]
  split <;> simp [*]

theorem ObjectId.ofInt64_eq_ok_iff (raw : Int64) (o : ObjectId) :
    ObjectId.ofInt64 raw = .ok o ↔ raw = o.toInt64 := by
  rw [← ObjectId.ofInt64?_eq_some_iff]
  rw [ObjectId.ofInt64]
  cases ObjectId.ofInt64? raw <;> simp

theorem ObjectId.exists_toInt64_iff (raw : Int64) :
    (∃ o : ObjectId, raw = o.toInt64) ↔ 0 ≤ raw.toInt := by
  simp only [← ObjectId.ofInt64?_eq_some_iff, ObjectId.ofInt64?]
  split <;> simp [*]

theorem ObjectId.toInt64_inj {o p : ObjectId} : o.toInt64 = p.toInt64 ↔ o = p := by
  rw [← ObjectId.ofInt64?_eq_some_iff, (ObjectId.ofInt64?_eq_some_iff _ o).mpr rfl,
    Option.some.injEq]

theorem NodeId.ofInt64?_eq_some_iff (raw : Int64) (n : NodeId) :
    NodeId.ofInt64? raw = some n ↔ raw = n.toInt64 := by
  obtain ⟨value, below⟩ := n
  rw [NodeId.ofInt64?, NodeId.toInt64, eq_ofNat_iff below]
  split <;> simp [*]

theorem NodeId.ofInt64_eq_ok_iff (raw : Int64) (n : NodeId) :
    NodeId.ofInt64 raw = .ok n ↔ raw = n.toInt64 := by
  rw [← NodeId.ofInt64?_eq_some_iff, NodeId.ofInt64]
  cases NodeId.ofInt64? raw <;> simp

theorem NodeId.negative_of_ofInt64 {raw : Int64} {e : InputError}
    (refused : NodeId.ofInt64 raw = .error e) :
    raw.toInt < 0 ∧ e = .negativeId "node_id" raw := by
  rw [NodeId.ofInt64, NodeId.ofInt64?] at refused
  by_cases natural : 0 ≤ raw.toInt
  · rw [if_pos natural] at refused
    cases refused
  · rw [if_neg natural] at refused
    cases refused
    exact ⟨Int.lt_of_not_ge natural, rfl⟩

end CacheCoherence
