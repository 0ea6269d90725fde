import CacheCoherence.Proofs.RequestFormat
import Mathlib.Data.List.Basic

/-!
The counts and lengths that stand in the frame of a request. A frame is written
piece by piece, and each count and each length is a piece of its own. Below the
greatest length that a frame can carry, a reader gets back the number that was
written, and never takes it for the mark of something absent.
-/

namespace CacheCoherence

namespace Frame

/-- What a field is written as, piece by piece. -/
inductive Piece where
  | long (v : Int64)
  /-- The count of the items that follow, or the length of the octets. -/
  | length (n : Nat)
  | absent
  | octets (bytes : List UInt8)

def Piece.write : Piece → List UInt8
  | .long v => writeLong v
  | .length n => writeLength n
  | .absent => Frame.absent
  | .octets bytes => bytes

def blobPieces : Option (List UInt8) → List Piece
  | some bytes => [.length bytes.length, .octets bytes]
  | none => [.absent]

def stringPieces (s : Option String) : List Piece :=
  blobPieces (s.map Text.Utf8.encode)

section Arrays

variable {α : Type} {write : α → List UInt8} {item : α → List Piece}

def arrayPieces (item : α → List Piece) (items : List α) : List Piece :=
  .length items.length :: items.flatMap item

theorem writeArray_eq (written : ∀ x, write x = (item x).flatMap Piece.write) (items : List α) :
    writeArray write items = (arrayPieces item items).flatMap Piece.write := by
  rw [arrayPieces, List.flatMap_cons, List.flatMap_assoc, writeArray]
  exact congrArg (_ ++ ·) (List.flatMap_congr fun x _ => written x)

theorem forall_mem_arrayPieces {p : Piece → Prop} {items : List α} :
    (∀ piece ∈ arrayPieces item items, p piece) ↔
      p (.length items.length) ∧ ∀ x ∈ items, ∀ piece ∈ item x, p piece := by
  simp only [arrayPieces, List.forall_mem_cons, List.forall_mem_flatMap]

end Arrays

theorem writeLong_eq_pieces (v : Int64) : writeLong v = [Piece.long v].flatMap Piece.write :=
  (List.append_nil _).symm

theorem writeBlob_eq (o : Option (List UInt8)) :
    writeBlob o = (blobPieces o).flatMap Piece.write := by
  cases o with
  | none => rfl
  | some bytes => exact congrArg (_ ++ ·) (List.append_nil bytes).symm

theorem writeString_eq (s : Option String) :
    writeString s = (stringPieces s).flatMap Piece.write :=
  writeBlob_eq _

def Field.pieces : Field → List Piece
  | .long v => [.long v]
  | .longs vs => arrayPieces (fun v => [.long v]) vs
  | .blob v => blobPieces v
  | .blobs vs => arrayPieces blobPieces vs
  | .string v => stringPieces v
  | .strings vs => arrayPieces stringPieces vs

theorem Field.write_eq (f : Field) : f.write = f.pieces.flatMap Piece.write := by
  cases f with
  | long v => exact writeLong_eq_pieces v
  | longs vs => exact writeArray_eq writeLong_eq_pieces vs
  | blob v => exact writeBlob_eq v
  | blobs vs => exact writeArray_eq writeBlob_eq vs
  | string v => exact writeString_eq v
  | strings vs => exact writeArray_eq writeString_eq vs

theorem toNat_writeLength {n : Nat} (h : n ≤ Settings.maxLength) : toNat (writeLength n) = n := by
  rw [writeLength, toNat_ofNat]
  exact Nat.mod_eq_of_lt (Nat.lt_of_le_of_lt h (by decide))

theorem signed_writeLength {n : Nat} (h : n ≤ Settings.maxLength) :
    signed 4 (toNat (writeLength n)) = n := by
  rw [toNat_writeLength h, signed, if_pos (Nat.lt_of_le_of_lt h (by decide))]

theorem writeLength_ne_absent {n : Nat} (h : n ≤ Settings.maxLength) :
    writeLength n ≠ Frame.absent := by
  intro eq
  have big := toNat_writeLength h
  rw [eq] at big
  exact absurd h (by rw [← big]; decide)

/-- The piece is no count and no length that a frame cannot carry. -/
def Piece.Carried : Piece → Prop
  | .length n => n ≤ Settings.maxLength
  | .long _ | .absent | .octets _ => True

theorem carried_blobPieces {limit : Nat} {o : Option (List UInt8)}
    (fits : ∀ bytes ∈ o, Reader.Fits limit bytes.length) : ∀ p ∈ blobPieces o, p.Carried := by
  cases o with
  | none => exact List.forall_mem_singleton.mpr trivial
  | some bytes =>
      exact List.forall_mem_cons.mpr
        ⟨(fits bytes rfl).2, List.forall_mem_singleton.mpr trivial⟩

theorem carried_stringPieces {limit : Nat} {o : Option String}
    (fits : ∀ s ∈ o, Reader.Fits limit (Text.Utf8.size s)) : ∀ p ∈ stringPieces o, p.Carried := by
  cases o with
  | none => exact List.forall_mem_singleton.mpr trivial
  | some s =>
      have short : Reader.Fits limit (Text.Utf8.encode s).length := by
        rw [Text.Utf8.length_encode]
        exact fits s rfl
      exact carried_blobPieces fun bytes given => Option.some.inj given ▸ short

end Frame

namespace Request

open CacheCoherence.Frame

def pieces (r : Request) : List Piece :=
  r.fields.flatMap Field.pieces

theorem frame_eq_pieces (r : Request) : r.frame = r.kind.tag :: r.pieces.flatMap Piece.write := by
  rw [frame, pieces, List.flatMap_assoc]
  exact congrArg (_ :: ·) (List.flatMap_congr fun f _ => f.write_eq)

theorem carried_of_within {limits : Limits} {r : Request} (within : r.Within limits) :
    ∀ p ∈ r.pieces, p.Carried := by
  cases r with
  | commit b =>
      obtain ⟨oids, ⟨values, value⟩, ⟨names, name⟩, nameValues⟩ := (within_commit_iff ..).mp within
      have longs : ∀ vs : List Int64, ∀ v ∈ vs, ∀ p ∈ [Piece.long v], p.Carried :=
        fun _ _ _ => List.forall_mem_singleton.mpr trivial
      rw [pieces, List.forall_mem_flatMap]
      refine List.forall_mem_cons.mpr ⟨?_, List.forall_mem_cons.mpr ⟨?_, List.forall_mem_cons.mpr
        ⟨?_, List.forall_mem_singleton.mpr ?_⟩⟩⟩
      · exact forall_mem_arrayPieces.mpr ⟨oids.2, longs _⟩
      · exact forall_mem_arrayPieces.mpr
          ⟨values.2, fun v among => carried_blobPieces (value v among)⟩
      · exact forall_mem_arrayPieces.mpr
          ⟨names.2, fun v among => carried_stringPieces (name v among)⟩
      · exact forall_mem_arrayPieces.mpr ⟨nameValues.2, longs _⟩
  | evictObject oid | downgradeObject oid => exact List.forall_mem_singleton.mpr trivial
  | evictBinding key | downgradeBinding key =>
      simp only [pieces, fields, List.flatMap_singleton, Field.pieces]
      exact carried_stringPieces within

end Request

end CacheCoherence
