import CacheCoherence.Text.Utf8

/-!
Reading text undoes writing it, and reads nothing else. A character is found at
the beginning of the octets exactly when they begin with its own octets; the
numbers of the octets decide, width by width.
-/

namespace CacheCoherence.Text.Utf8

private theorem toNat_of_isValid {n : Nat} (h : n.isValidChar) : (Char.ofNat n).val.toNat = n := by
  rw [Char.ofNat, dif_pos h]
  rfl

theorem utf8EncodeChar_one {n : Nat} (h : n < 0x80) :
    String.utf8EncodeChar (Char.ofNat n) = [UInt8.ofNat n] := by
  have valid : n.isValidChar := .inl (by omega)
  simp only [String.utf8EncodeChar, toNat_of_isValid valid]
  rw [if_pos (by omega)]

theorem utf8EncodeChar_two {n : Nat} (low : 0x80 ≤ n) (high : n < 0x800) :
    String.utf8EncodeChar (Char.ofNat n) =
      [UInt8.ofNat (n / 64 + 0xC0), UInt8.ofNat (n % 64 + 0x80)] := by
  have valid : n.isValidChar := .inl (by omega)
  simp only [String.utf8EncodeChar, toNat_of_isValid valid]
  rw [if_neg (by omega), if_pos (by omega), Nat.mod_eq_of_lt (by omega : n / 64 < 0x20)]

theorem utf8EncodeChar_three {n : Nat} (valid : n.isValidChar) (low : 0x800 ≤ n)
    (high : n < 0x10000) :
    String.utf8EncodeChar (Char.ofNat n) =
      [UInt8.ofNat (n / 4096 + 0xE0), UInt8.ofNat (n / 64 % 64 + 0x80),
        UInt8.ofNat (n % 64 + 0x80)] := by
  simp only [String.utf8EncodeChar, toNat_of_isValid valid]
  rw [if_neg (by omega), if_neg (by omega), if_pos (by omega),
    Nat.mod_eq_of_lt (by omega : n / 4096 < 0x10)]

theorem utf8EncodeChar_four {n : Nat} (low : 0x10000 ≤ n) (high : n < 0x110000) :
    String.utf8EncodeChar (Char.ofNat n) =
      [UInt8.ofNat (n / 262144 + 0xF0), UInt8.ofNat (n / 4096 % 64 + 0x80),
        UInt8.ofNat (n / 64 % 64 + 0x80), UInt8.ofNat (n % 64 + 0x80)] := by
  have valid : n.isValidChar := .inr (by omega)
  simp only [String.utf8EncodeChar, toNat_of_isValid valid]
  rw [if_neg (by omega), if_neg (by omega), if_neg (by omega),
    Nat.mod_eq_of_lt (by omega : n / 262144 < 0x08)]

private theorem between_iff (low high b : UInt8) :
    (decide (low ≤ b) && decide (b ≤ high)) = true ↔
      low.toNat ≤ b.toNat ∧ b.toNat ≤ high.toNat := by
  rw [Bool.and_eq_true, decide_eq_true_eq, decide_eq_true_eq, UInt8.le_iff_toNat_le,
    UInt8.le_iff_toNat_le]

theorem isTail_iff (b : UInt8) : isTail b = true ↔ 0x80 ≤ b.toNat ∧ b.toNat ≤ 0xBF :=
  between_iff 0x80 0xBF b

theorem isSecond_iff (a b : UInt8) : isSecond a b = true ↔
    (0x80 ≤ b.toNat ∧ b.toNat ≤ 0xBF) ∧ (a.toNat = 0xE0 → 0xA0 ≤ b.toNat) ∧
      (a.toNat = 0xED → b.toNat ≤ 0x9F) ∧ (a.toNat = 0xF0 → 0x90 ≤ b.toNat) ∧
      (a.toNat = 0xF4 → b.toNat ≤ 0x8F) := by
  simp only [isSecond, isTail, ← UInt8.toNat_inj, UInt8.reduceToNat]
  (repeat' split) <;> rw [between_iff] <;> simp only [UInt8.reduceToNat] <;> omega

private theorem ofNat_eq {a : UInt8} {n : Nat} (h : n = a.toNat) : UInt8.ofNat n = a := by
  rw [h, UInt8.ofNat_toNat]

theorem headTwo_eq_char {a : UInt8} {rest : List UInt8} {c : Char} {width : Nat}
    (low : 0xC2 ≤ a.toNat) (high : a.toNat ≤ 0xDF) (h : headTwo a rest = .char c width) :
    ∃ tail, a :: rest = String.utf8EncodeChar c ++ tail := by
  cases rest with
  | nil => cases h
  | cons b r =>
      simp only [headTwo] at h
      split at h
      · next second =>
        rw [isTail_iff] at second
        generalize hn : (a.toNat - 0xC0) * 64 + (b.toNat - 0x80) = n at h
        cases h
        refine ⟨r, ?_⟩
        rw [utf8EncodeChar_two (by omega) (by omega), ofNat_eq (by omega : n / 64 + 0xC0 = a.toNat),
          ofNat_eq (by omega : n % 64 + 0x80 = b.toNat)]
        rfl
      · cases h

theorem headThree_eq_char {a : UInt8} {rest : List UInt8} {c : Char} {width : Nat}
    (low : 0xE0 ≤ a.toNat) (high : a.toNat ≤ 0xEF) (h : headThree a rest = .char c width) :
    ∃ tail, a :: rest = String.utf8EncodeChar c ++ tail := by
  match rest with
  | [] => cases h
  | [b] =>
      simp only [headThree] at h
      split at h <;> cases h
  | b :: d :: r =>
      simp only [headThree] at h
      split at h
      · next second =>
        split at h
        · next third =>
          rw [isSecond_iff] at second
          rw [isTail_iff] at third
          generalize hn : (a.toNat - 0xE0) * 4096 + (b.toNat - 0x80) * 64 +
            (d.toNat - 0x80) = n at h
          cases h
          have valid : n.isValidChar := by
            simp only [Nat.isValidChar]
            omega
          refine ⟨r, ?_⟩
          rw [utf8EncodeChar_three valid (by omega) (by omega),
            ofNat_eq (by omega : n / 4096 + 0xE0 = a.toNat),
            ofNat_eq (by omega : n / 64 % 64 + 0x80 = b.toNat),
            ofNat_eq (by omega : n % 64 + 0x80 = d.toNat)]
          rfl
        · cases h
      · cases h

theorem headFour_eq_char {a : UInt8} {rest : List UInt8} {c : Char} {width : Nat}
    (low : 0xF0 ≤ a.toNat) (high : a.toNat ≤ 0xF4) (h : headFour a rest = .char c width) :
    ∃ tail, a :: rest = String.utf8EncodeChar c ++ tail := by
  match rest with
  | [] => cases h
  | [b] =>
      simp only [headFour] at h
      split at h <;> cases h
  | [b, d] =>
      simp only [headFour] at h
      split at h
      · split at h <;> cases h
      · cases h
  | b :: d :: e :: r =>
      simp only [headFour] at h
      split at h
      · next second =>
        split at h
        · next third =>
          split at h
          · next fourth =>
            rw [isSecond_iff] at second
            rw [isTail_iff] at third fourth
            generalize hn : (a.toNat - 0xF0) * 262144 + (b.toNat - 0x80) * 4096 +
              (d.toNat - 0x80) * 64 + (e.toNat - 0x80) = n at h
            cases h
            refine ⟨r, ?_⟩
            rw [utf8EncodeChar_four (by omega) (by omega),
              ofNat_eq (by omega : n / 262144 + 0xF0 = a.toNat),
              ofNat_eq (by omega : n / 4096 % 64 + 0x80 = b.toNat),
              ofNat_eq (by omega : n / 64 % 64 + 0x80 = d.toNat),
              ofNat_eq (by omega : n % 64 + 0x80 = e.toNat)]
            rfl
          · cases h
        · cases h
      · cases h

theorem head_eq (a : UInt8) (rest : List UInt8) :
    head a rest =
      if a.toNat < 0x80 then .char (Char.ofNat a.toNat) 1
      else if 0xC2 ≤ a.toNat ∧ a.toNat ≤ 0xDF then headTwo a rest
      else if 0xE0 ≤ a.toNat ∧ a.toNat ≤ 0xEF then headThree a rest
      else if 0xF0 ≤ a.toNat ∧ a.toNat ≤ 0xF4 then headFour a rest
      else .invalid 1 := by
  simp only [head, between_iff, UInt8.lt_iff_toNat_lt, UInt8.reduceToNat]

theorem head_eq_char {a : UInt8} {rest : List UInt8} {c : Char} {width : Nat}
    (h : head a rest = .char c width) :
    ∃ tail, a :: rest = String.utf8EncodeChar c ++ tail := by
  rw [head_eq] at h
  split at h
  · next low =>
    cases h
    refine ⟨rest, ?_⟩
    rw [utf8EncodeChar_one low, UInt8.ofNat_toNat]
    rfl
  · split at h
    · next two => exact headTwo_eq_char two.1 two.2 h
    · split at h
      · next three => exact headThree_eq_char three.1 three.2 h
      · split at h
        · next four => exact headFour_eq_char four.1 four.2 h
        · cases h

private theorem toNat_octet {n : Nat} (h : n < 256) : (UInt8.ofNat n).toNat = n :=
  UInt8.toNat_ofNat_of_lt' h

theorem head_of_utf8EncodeChar {c : Char} {a : UInt8} {r : List UInt8}
    (h : String.utf8EncodeChar c = a :: r) (tail : List UInt8) :
    head a (r ++ tail) = .char c (r.length + 1) := by
  obtain ⟨n, valid, rfl⟩ : ∃ n : Nat, n.isValidChar ∧ c = Char.ofNat n :=
    ⟨c.toNat, c.valid, (Char.ofNat_toNat c).symm⟩
  have bound : n < 0x110000 := by
    simp only [Nat.isValidChar] at valid
    omega
  rw [head_eq]
  rcases Nat.lt_or_ge n 0x80 with one | one
  · rw [utf8EncodeChar_one one] at h
    cases h
    rw [toNat_octet (by omega), if_pos one]
    rfl
  rcases Nat.lt_or_ge n 0x800 with two | two
  · rw [utf8EncodeChar_two one two] at h
    cases h
    rw [toNat_octet (by omega), if_neg (by omega), if_pos (by omega)]
    simp only [headTwo, List.cons_append, List.nil_append, isTail_iff]
    rw [toNat_octet (by omega), toNat_octet (by omega), if_pos (by omega)]
    exact congrArg (fun m => Head.char (Char.ofNat m) 2) (by omega)
  rcases Nat.lt_or_ge n 0x10000 with three | three
  · rw [utf8EncodeChar_three valid two three] at h
    cases h
    rw [toNat_octet (by omega), if_neg (by omega), if_neg (by omega), if_pos (by omega)]
    simp only [Nat.isValidChar] at valid
    simp only [headThree, List.cons_append, List.nil_append, isSecond_iff, isTail_iff]
    rw [toNat_octet (by omega), toNat_octet (by omega), toNat_octet (by omega),
      if_pos (by omega), if_pos (by omega)]
    exact congrArg (fun m => Head.char (Char.ofNat m) 3) (by omega)
  · rw [utf8EncodeChar_four three bound] at h
    cases h
    rw [toNat_octet (by omega), if_neg (by omega), if_neg (by omega), if_neg (by omega),
      if_pos (by omega)]
    simp only [headFour, List.cons_append, List.nil_append, isSecond_iff, isTail_iff]
    rw [toNat_octet (by omega), toNat_octet (by omega), toNat_octet (by omega),
      toNat_octet (by omega), if_pos (by omega), if_pos (by omega), if_pos (by omega)]
    exact congrArg (fun m => Head.char (Char.ofNat m) 4) (by omega)

theorem decodeFrom_skip (index : Nat) (read : List Char) (bytes r : List UInt8) :
    decodeFrom index bytes.length read (bytes ++ r) =
      decodeFrom (index + bytes.length) 0 read r := by
  induction bytes generalizing index with
  | nil => rfl
  | cons b rest ih =>
      rw [List.cons_append, List.length_cons, decodeFrom, ih]
      congr 1
      omega

theorem decodeFrom_char (index : Nat) (read : List Char) (c : Char) (bytes : List UInt8) :
    decodeFrom index 0 read (String.utf8EncodeChar c ++ bytes) =
      decodeFrom (index + c.utf8Size) 0 (c :: read) bytes := by
  have length := String.length_utf8EncodeChar c
  cases h : String.utf8EncodeChar c with
  | nil =>
      rw [h] at length
      exact absurd length (Nat.ne_of_lt c.utf8Size_pos)
  | cons a r =>
      rw [h] at length
      simp only [List.cons_append, decodeFrom, head_of_utf8EncodeChar h bytes, Nat.add_sub_cancel]
      rw [decodeFrom_skip]
      congr 1
      rw [← length, List.length_cons]
      omega

theorem decodeFrom_flatMap (index : Nat) (read chars : List Char) :
    decodeFrom index 0 read (chars.flatMap String.utf8EncodeChar) =
      .ok (read.reverse ++ chars) := by
  induction chars generalizing index read with
  | nil => simp [decodeFrom]
  | cons c rest ih =>
      rw [List.flatMap_cons, decodeFrom_char, ih]
      simp

theorem eq_of_decodeFrom (bytes : List UInt8) (index : Nat) (read chars : List Char)
    (h : decodeFrom index 0 read bytes = .ok chars) :
    ∃ more, chars = read.reverse ++ more ∧ bytes = more.flatMap String.utf8EncodeChar := by
  induction n : bytes.length using Nat.strongRecOn generalizing bytes index read with
  | ind n ih =>
      cases bytes with
      | nil =>
          cases h
          exact ⟨[], by simp⟩
      | cons a r =>
          cases found : head a r with
          | char c width =>
              obtain ⟨tail, split⟩ := head_eq_char found
              have shorter : tail.length < (a :: r).length := by
                rw [split, List.length_append, String.length_utf8EncodeChar]
                have := c.utf8Size_pos
                omega
              rw [split, decodeFrom_char] at h
              obtain ⟨more, hc, ht⟩ := ih tail.length (by omega) tail _ _ h rfl
              refine ⟨c :: more, ?_, ?_⟩
              · rw [hc]
                simp
              · rw [split, ht, List.flatMap_cons]
          | invalid width => simp [decodeFrom, found] at h
          | incomplete => simp [decodeFrom, found] at h

theorem decode_eq_ok_iff (bytes : List UInt8) (s : String) :
    decode bytes = .ok s ↔ bytes = encode s := by
  constructor
  · intro h
    cases found : decodeFrom 0 0 [] bytes with
    | error e => simp [decode, found, Except.map] at h
    | ok chars =>
        simp only [decode, found, Except.map, Except.ok.injEq] at h
        obtain ⟨more, rfl, rfl⟩ := eq_of_decodeFrom bytes 0 [] chars found
        rw [← h, encode, String.toList_ofList]
  · intro same
    subst same
    rw [decode, encode, decodeFrom_flatMap]
    exact congrArg Except.ok String.ofList_toList

theorem length_encode (s : String) : (encode s).length = size s := by
  rw [encode, size, ← String.size_toByteArray, ← String.utf8Encode_toList, List.utf8Encode,
    List.size_toByteArray]

end CacheCoherence.Text.Utf8
