import CacheCoherence.Proofs.Utf8
import Mathlib.Data.Char
import Mathlib.Data.String.Basic

/-!
Texts by their octets. No character begins with the octets of another one, and
of two characters the lesser has the lesser octets. So one text begins another,
or comes before it, exactly when its octets do.
-/

namespace CacheCoherence.Text.Utf8

/-- The octets of the character of number `n`, which is at least the least number of its width. -/
inductive Spelled (n : Nat) : List UInt8 → Prop where
  | one (a : UInt8) (lead : a.toNat < 0x80) (number : n = a.toNat) : Spelled n [a]
  | two (a b : UInt8) (least : 0x80 ≤ n) (lead : 0xC2 ≤ a.toNat ∧ a.toNat ≤ 0xDF)
      (second : 0x80 ≤ b.toNat ∧ b.toNat ≤ 0xBF)
      (number : n = (a.toNat - 0xC0) * 64 + (b.toNat - 0x80)) : Spelled n [a, b]
  | three (a b c : UInt8) (least : 0x800 ≤ n) (lead : 0xE0 ≤ a.toNat ∧ a.toNat ≤ 0xEF)
      (second : 0x80 ≤ b.toNat ∧ b.toNat ≤ 0xBF) (third : 0x80 ≤ c.toNat ∧ c.toNat ≤ 0xBF)
      (number : n = (a.toNat - 0xE0) * 4096 + (b.toNat - 0x80) * 64 + (c.toNat - 0x80)) :
      Spelled n [a, b, c]
  | four (a b c d : UInt8) (least : 0x10000 ≤ n) (lead : 0xF0 ≤ a.toNat ∧ a.toNat ≤ 0xF4)
      (second : 0x80 ≤ b.toNat ∧ b.toNat ≤ 0xBF) (third : 0x80 ≤ c.toNat ∧ c.toNat ≤ 0xBF)
      (fourth : 0x80 ≤ d.toNat ∧ d.toNat ≤ 0xBF)
      (number : n = (a.toNat - 0xF0) * 262144 + (b.toNat - 0x80) * 4096 +
        (c.toNat - 0x80) * 64 + (d.toNat - 0x80)) : Spelled n [a, b, c, d]

theorem spelled_utf8EncodeChar (c : Char) : Spelled c.toNat (String.utf8EncodeChar c) := by
  obtain ⟨n, valid, rfl⟩ : ∃ n : Nat, n.isValidChar ∧ c = Char.ofNat n :=
    ⟨c.toNat, c.valid, (Char.ofNat_toNat c).symm⟩
  have bound : n < 0x110000 := by
    simp only [Nat.isValidChar] at valid
    omega
  have number : (Char.ofNat n).toNat = n := by
    rw [Char.ofNat, dif_pos valid]
    rfl
  have octet : ∀ m < 256, (UInt8.ofNat m).toNat = m := fun m h => UInt8.toNat_ofNat_of_lt' h
  rw [number]
  rcases Nat.lt_or_ge n 0x80 with one | one
  · rw [utf8EncodeChar_one one]
    exact .one _ (by rwa [octet n (by omega)]) (octet n (by omega)).symm
  rcases Nat.lt_or_ge n 0x800 with two | two
  · rw [utf8EncodeChar_two one two]
    refine .two _ _ one ?_ ?_ ?_ <;> simp (disch := omega) only [octet] <;> omega
  rcases Nat.lt_or_ge n 0x10000 with three | three
  · rw [utf8EncodeChar_three valid two three]
    refine .three _ _ _ two ?_ ?_ ?_ ?_ <;> simp (disch := omega) only [octet] <;> omega
  · rw [utf8EncodeChar_four three bound]
    refine .four _ _ _ _ three ?_ ?_ ?_ ?_ ?_ <;> simp (disch := omega) only [octet] <;> omega

/-- Characters of different widths differ in their first octets already, and those of one width are
compared octet by octet like the digits of their numbers. -/
theorem Spelled.append_lt {n m : Nat} {s t : List UInt8} (hs : Spelled n s) (ht : Spelled m t)
    (less : n < m) (x y : List UInt8) : s ++ x < t ++ y := by
  cases hs <;> cases ht <;>
    simp only [List.cons_append, List.nil_append, List.cons_lt_cons_iff, UInt8.lt_iff_toNat_lt,
      ← UInt8.toNat_inj] <;>
    omega

theorem utf8EncodeChar_append_lt {c d : Char} (less : c < d) (x y : List UInt8) :
    String.utf8EncodeChar c ++ x < String.utf8EncodeChar d ++ y :=
  (spelled_utf8EncodeChar c).append_lt (spelled_utf8EncodeChar d) less x y

theorem utf8EncodeChar_append_inj {c d : Char} {x y : List UInt8}
    (same : String.utf8EncodeChar c ++ x = String.utf8EncodeChar d ++ y) : c = d ∧ x = y := by
  rcases lt_trichotomy c d with less | rfl | less
  · have octets := utf8EncodeChar_append_lt less x y
    rw [same] at octets
    exact absurd octets (List.lt_irrefl _)
  · exact ⟨rfl, List.append_cancel_left same⟩
  · have octets := utf8EncodeChar_append_lt less y x
    rw [same] at octets
    exact absurd octets (List.lt_irrefl _)

theorem flatMap_prefix_iff (xs ys : List Char) :
    xs.flatMap String.utf8EncodeChar <+: ys.flatMap String.utf8EncodeChar ↔ xs <+: ys := by
  induction xs generalizing ys with
  | nil => simp
  | cons c xs ih =>
      cases ys with
      | nil => simp
      | cons d ys =>
          rw [List.flatMap_cons, List.flatMap_cons, List.cons_prefix_cons, ← ih]
          constructor
          · intro begins
            obtain ⟨rest, octets⟩ := begins
            rw [List.append_assoc] at octets
            obtain ⟨first, others⟩ := utf8EncodeChar_append_inj octets
            exact ⟨first, rest, others⟩
          · intro begins
            obtain ⟨rfl, others⟩ := begins
            exact (List.prefix_append_right_inj _).mpr others

theorem encode_prefix_iff (s t : String) : encode s <+: encode t ↔ s.toList <+: t.toList :=
  flatMap_prefix_iff s.toList t.toList

theorem flatMap_lt_of_lt {xs ys : List Char} (less : xs < ys) :
    xs.flatMap String.utf8EncodeChar < ys.flatMap String.utf8EncodeChar := by
  induction less with
  | nil =>
      rw [List.flatMap_nil, List.flatMap_cons]
      refine List.not_le.mp fun le => ?_
      simp at le
  | cons _ ih =>
      rw [List.flatMap_cons, List.flatMap_cons]
      exact List.append_left_lt ih
  | rel first =>
      rw [List.flatMap_cons, List.flatMap_cons]
      exact utf8EncodeChar_append_lt first _ _

theorem encode_lt_iff (s t : String) : encode s < encode t ↔ s < t := by
  constructor
  · intro less
    rcases lt_trichotomy s t with before | rfl | behind
    · exact before
    · exact absurd less (List.lt_irrefl _)
    · exact absurd less (List.lt_asymm (flatMap_lt_of_lt (String.lt_iff.mp behind)))
  · intro less
    exact flatMap_lt_of_lt (String.lt_iff.mp less)

end CacheCoherence.Text.Utf8
