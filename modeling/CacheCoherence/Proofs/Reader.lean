import CacheCoherence.Proofs.Utf8
import CacheCoherence.Proofs.Word

/-!
What a reader accepts. A reader is exact for a way of writing when it gives back
an item, with the rest of the octets, precisely where they begin with the octets
of that item. Exact readers one after the other are exact for what is written
one after the other, so the law is proved field by field.
-/

namespace CacheCoherence.Frame.Reader

variable {α β : Type}

/-- The reader gives back the items that satisfy `p`, each from exactly the octets it is written
as, and leaves what follows them. -/
def Exact (r : Reader α) (write : α → List UInt8) (p : α → Prop) : Prop :=
  ∀ bytes x rest, r.attempt bytes = (.ok x, rest) ↔ bytes = write x ++ rest ∧ p x

theorem attempt_pure (x : α) (bytes : List UInt8) :
    (pure x : Reader α).attempt bytes = (.ok x, bytes) := rfl

theorem attempt_malformed (reason : String) (bytes : List UInt8) :
    (malformed reason : Reader α).attempt bytes = (.error (.refused (.malformed reason)), bytes) :=
  rfl

theorem attempt_bind (r : Reader α) (f : α → Reader β) (bytes : List UInt8) :
    (r >>= f).attempt bytes =
      match r.attempt bytes with
      | (.ok x, rest) => (f x).attempt rest
      | (.error e, rest) => (.error e, rest) := by
  change StateT.run (ExceptT.bindCont f (r.attempt bytes).1) (r.attempt bytes).2 = _
  cases r.attempt bytes with
  | mk answer rest => cases answer <;> rfl

theorem attempt_bind_eq_ok (r : Reader α) (f : α → Reader β) (bytes rest : List UInt8) (y : β) :
    (r >>= f).attempt bytes = (.ok y, rest) ↔
      ∃ x middle, r.attempt bytes = (.ok x, middle) ∧ (f x).attempt middle = (.ok y, rest) := by
  rw [attempt_bind]
  cases r.attempt bytes with
  | mk answer middle => cases answer <;> simp

theorem on_eq_ok_iff (r : Reader α) (bytes rest : List UInt8) (x : α) :
    r.on bytes = (.ok x, rest) ↔ r.attempt bytes = (.ok x, rest) := by
  rw [on]
  cases r.attempt bytes with
  | mk answer left => cases answer <;> simp [Except.mapError]

theorem attempt_octets (context : String) (n : Nat) (bytes : List UInt8) :
    (octets context n).attempt bytes =
      if bytes.length < n then (.error (.short context (n - bytes.length)), [])
      else (.ok (bytes.take n), bytes.drop n) := by
  change (if isShorter bytes n then _ else _) = _
  rw [isShorter_eq]
  simp only [decide_eq_true_eq]

theorem exact_octets (context : String) (n : Nat) :
    (octets context n).Exact id fun bytes => bytes.length = n := by
  intro bytes x rest
  rw [attempt_octets]
  by_cases short : bytes.length < n
  · simp only [short, if_true, Prod.mk.injEq, reduceCtorEq, false_and, false_iff, id]
    intro h
    obtain ⟨rfl, rfl⟩ := h
    rw [List.length_append] at short
    omega
  · simp only [short, if_false, Prod.mk.injEq, Except.ok.injEq, id]
    constructor
    · intro h
      obtain ⟨rfl, rfl⟩ := h
      refine ⟨(List.take_append_drop n bytes).symm, ?_⟩
      rw [List.length_take]
      omega
    · intro h
      obtain ⟨rfl, rfl⟩ := h
      exact ⟨List.take_left, List.drop_left⟩

theorem Exact.bind {r : Reader α} {f : α → Reader β} {write : α → List UInt8} {p : α → Prop}
    {w : α → β → List UInt8} {q : α → β → Prop} (key : β → α) (first : r.Exact write p)
    (second : ∀ x, p x → (f x).Exact (w x) (q x)) (hk : ∀ x y, p x → q x y → key y = x) :
    (r >>= f).Exact (fun y => write (key y) ++ w (key y) y) fun y => p (key y) ∧ q (key y) y := by
  intro bytes y rest
  rw [attempt_bind_eq_ok]
  constructor
  · intro h
    obtain ⟨x, middle, hr, hf⟩ := h
    obtain ⟨rfl, hp⟩ := (first ..).mp hr
    obtain ⟨rfl, hq⟩ := (second x hp ..).mp hf
    obtain rfl := hk x y hp hq
    exact ⟨(List.append_assoc ..).symm, hp, hq⟩
  · intro h
    obtain ⟨rfl, hp, hq⟩ := h
    refine ⟨key y, w (key y) y ++ rest, ?_, ?_⟩
    · exact (first ..).mpr ⟨List.append_assoc .., hp⟩
    · exact (second _ hp ..).mpr ⟨rfl, hq⟩

theorem Exact.congr {r : Reader α} {write w : α → List UInt8} {p q : α → Prop}
    (h : r.Exact write p) (same : ∀ x, q x → write x = w x) (hp : ∀ x, p x ↔ q x) :
    r.Exact w q := by
  intro bytes x rest
  rw [h bytes x rest, hp]
  constructor
  · intro given
    obtain ⟨rfl, hq⟩ := given
    exact ⟨by rw [same x hq], hq⟩
  · intro given
    obtain ⟨rfl, hq⟩ := given
    exact ⟨by rw [same x hq], hq⟩

theorem exact_pure (x : α) : (pure x : Reader α).Exact (fun _ => []) fun y => x = y := by
  intro bytes y rest
  rw [attempt_pure, Prod.mk.injEq, Except.ok.injEq, and_comm]
  rfl

theorem exact_malformed (reason : String) :
    (malformed reason : Reader α).Exact (fun _ => []) fun _ => False := by
  intro bytes x rest
  rw [attempt_malformed]
  simp

theorem Exact.unless {r : Reader α} {write : α → List UInt8} {p : α → Prop} (h : r.Exact write p)
    {c : Prop} [Decidable c] (reason : String) :
    (if c then malformed reason >>= fun _ : Unit => r else r).Exact write fun x => ¬c ∧ p x := by
  intro bytes x rest
  by_cases hc : c
  · rw [if_pos hc, attempt_bind, attempt_malformed]
    simp [hc]
  · rw [if_neg hc, h bytes x rest]
    simp [hc]

/-- Taking a read item further, where what comes of it tells which item it was. -/
theorem Exact.map {r : Reader α} {f : α → β} {write : α → List UInt8} {p : α → Prop} (key : β → α)
    (h : r.Exact write p) (hk : ∀ x, p x → key (f x) = x) :
    (do return f (← r)).Exact (fun y => write (key y)) fun y => p (key y) ∧ f (key y) = y := by
  refine (h.bind key (fun x _ => exact_pure (f x)) ?_).congr ?_ fun _ => Iff.rfl
  · intro x y hp eq
    rw [← eq]
    exact hk x hp
  · intro y _
    exact List.append_nil _

/-- Making something of what is read, which tells by itself whether a reader of this kind has made
it. -/
theorem Exact.image {r : Reader α} {c : α → β} {write : β → List UInt8} {p k : β → Prop}
    (h : r.Exact (fun x => write (c x)) fun x => p (c x)) (hk : ∀ y, k y ↔ ∃ x, c x = y) :
    (do return c (← r)).Exact write fun y => k y ∧ p y := by
  intro bytes y rest
  rw [attempt_bind_eq_ok]
  simp only [h bytes _ _, attempt_pure, Prod.mk.injEq, Except.ok.injEq, hk]
  constructor
  · intro given
    obtain ⟨x, middle, ⟨hb, hp⟩, rfl, rfl⟩ := given
    exact ⟨hb, ⟨x, rfl⟩, hp⟩
  · intro given
    obtain ⟨hb, ⟨x, rfl⟩, hp⟩ := given
    exact ⟨x, rest, ⟨hb, hp⟩, rfl, rfl⟩

theorem exact_long (context : String) : (long context).Exact writeLong fun _ => True := by
  refine ((exact_octets context 8).map writeLong fun bytes h => ?_).congr (fun _ _ => rfl)
    fun v => ?_
  · exact ofInt_signed_long h
  · simp only [iff_true]
    exact ⟨length_ofNat 8 _, long_of_writeLong v⟩

theorem exact_length (context : String) : (length context).Exact (ofInt 4) (InRange 4) := by
  refine ((exact_octets context 4).map (ofInt 4) fun bytes h => ?_).congr (fun _ _ => rfl)
    fun i => ?_
  · have read := ofInt_signed bytes
    rwa [h] at read
  · constructor
    · intro given
      obtain ⟨h, eq⟩ := given
      have range := inRange_signed (ofInt 4 i) (by omega)
      rwa [h, eq] at range
    · intro h
      exact ⟨length_ofInt 4 i, signed_ofInt (by decide) h⟩

/-- Whether a length is within a limit, and within what a frame can carry at all. -/
def Fits (limit n : Nat) : Prop :=
  n ≤ limit ∧ n ≤ Settings.maxLength

private theorem bound_four : bound 4 = 2 * (Settings.maxLength + 1) :=
  rfl

private theorem inRange_natCast (n : Nat) : InRange 4 n ↔ n ≤ Settings.maxLength := by
  rw [InRange, bound_four]
  omega

private theorem writeLength_eq {n : Nat} (h : n ≤ Settings.maxLength) :
    ofInt 4 n = writeLength n := by
  refine ofInt_natCast 4 n ?_
  rw [bound_four]
  omega

theorem exact_count (limits : Limits) (context : String) :
    (count limits context).Exact writeLength (Fits limits.batch) := by
  refine ((exact_length context).bind Nat.cast
    (fun i _ => ((exact_pure i.toNat).unless _).unless _) ?_).congr ?_ ?_
  · intro i n _ given
    obtain ⟨nonneg, -, rfl⟩ := given
    omega
  · intro n fits
    rw [writeLength_eq fits.2, List.append_nil]
  · intro n
    rw [inRange_natCast, Fits]
    omega

/-- The length that a frame gives a blob. -/
def bodyLength : Option (List UInt8) → Int
  | none => -1
  | some bytes => bytes.length

theorem exact_body (context : String) (limit : Nat) :
    (body context limit).Exact writeBlob fun o => ∀ bytes ∈ o, Fits limit bytes.length := by
  refine ((exact_length context).bind (w := fun _ o => o.getD [])
    (q := fun i o => i = bodyLength o ∧ ∀ bytes ∈ o, bytes.length ≤ limit) bodyLength
    (fun i _ => ?_) ?_).congr ?_ ?_
  · split
    · next none =>
      refine (exact_pure Option.none).congr ?_ fun o => ?_
      · intro o given
        obtain ⟨absent, -⟩ := given
        cases o with
        | none => rfl
        | some bytes =>
            simp only [bodyLength] at absent
            omega
      · cases o with
        | none => simp [bodyLength, none]
        | some bytes =>
            simp only [bodyLength, reduceCtorEq, false_iff, not_and]
            omega
    · next some =>
      refine ((((exact_octets context i.toNat).map (f := Option.some) (fun o => o.getD [])
        fun bytes _ => rfl).unless _).unless _).congr (fun _ _ => rfl) fun o => ?_
      cases o with
      | none =>
        simp only [bodyLength, some, reduceCtorEq, and_false, false_and]
      | some bytes =>
        simp [bodyLength]
        omega
  · intro i o _ given
    exact given.1.symm
  · intro o h
    cases o with
    | none => decide
    | some bytes =>
        have fits := h bytes rfl
        simp only [bodyLength, Option.getD_some, writeBlob]
        rw [writeLength_eq fits.2]
  · intro o
    cases o with
    | none =>
        simp only [bodyLength, Option.mem_def, reduceCtorEq, false_implies, implies_true, and_true,
          iff_true]
        exact ⟨by decide, by decide⟩
    | some bytes =>
        simp only [bodyLength, inRange_natCast, Fits, true_and, Option.mem_def, Option.some.injEq,
          forall_eq']
        omega

theorem attempt_manyAfter {item : Reader α} {write : α → List UInt8} {p : α → Prop}
    (h : item.Exact write p) (n : Nat) (read : List α) (bytes rest : List UInt8) (ys : List α) :
    (manyAfter item n read).attempt bytes = (.ok ys, rest) ↔
      ∃ xs, ys = read.reverse ++ xs ∧ bytes = xs.flatMap write ++ rest ∧ xs.length = n ∧
        ∀ x ∈ xs, p x := by
  induction n generalizing read bytes with
  | zero =>
      rw [manyAfter, attempt_pure, Prod.mk.injEq, Except.ok.injEq]
      constructor
      · intro given
        obtain ⟨rfl, rfl⟩ := given
        exact ⟨[], by simp⟩
      · intro given
        obtain ⟨xs, rfl, rfl, hn, -⟩ := given
        rw [List.length_eq_zero_iff.mp hn]
        simp
  | succ n ih =>
      rw [manyAfter, attempt_bind_eq_ok]
      constructor
      · intro given
        obtain ⟨x, middle, hx, later⟩ := given
        obtain ⟨rfl, px⟩ := (h ..).mp hx
        obtain ⟨xs, rfl, rfl, hn, hp⟩ := (ih ..).mp later
        refine ⟨x :: xs, ?_, ?_, ?_, ?_⟩
        · simp
        · simp
        · rw [List.length_cons, hn]
        · exact List.forall_mem_cons.mpr ⟨px, hp⟩
      · intro given
        obtain ⟨xs, rfl, rfl, hn, hp⟩ := given
        cases xs with
        | nil => cases hn
        | cons x xs =>
            obtain ⟨hx, later⟩ := List.forall_mem_cons.mp hp
            refine ⟨x, xs.flatMap write ++ rest, (h ..).mpr ⟨?_, hx⟩,
              (ih ..).mpr ⟨xs, ?_, rfl, Nat.succ_inj.mp hn, later⟩⟩
            · rw [List.flatMap_cons, List.append_assoc]
            · simp

theorem Exact.many {item : Reader α} {write : α → List UInt8} {p : α → Prop}
    (h : item.Exact write p) (n : Nat) :
    (many item n).Exact (List.flatMap write) fun xs => xs.length = n ∧ ∀ x ∈ xs, p x := by
  intro bytes ys rest
  rw [Reader.many, attempt_manyAfter h]
  constructor
  · intro given
    obtain ⟨xs, rfl, hb, hn, hp⟩ := given
    exact ⟨hb, hn, hp⟩
  · intro given
    obtain ⟨hb, hn, hp⟩ := given
    exact ⟨ys, rfl, hb, hn, hp⟩

theorem Exact.array {item : Reader α} {write : α → List UInt8} {p : α → Prop}
    (h : item.Exact write p) (limits : Limits) (context : String) :
    (count limits context >>= fun n => Reader.many item n).Exact (writeArray write) fun xs =>
      Fits limits.batch xs.length ∧ ∀ x ∈ xs, p x := by
  refine ((exact_count limits context).bind List.length (fun n _ => h.many n) ?_).congr
    (fun _ _ => rfl) fun xs => ?_
  · intro n xs _ given
    exact given.1
  · simp

theorem exact_longs (limits : Limits) (context : String) :
    (longs limits context).Exact writeLongs fun vs => Fits limits.batch vs.length :=
  ((exact_long context).array limits context).congr (fun _ _ => rfl) fun vs => by simp

theorem exact_blobs (limits : Limits) (context : String) :
    (blobs limits context).Exact writeBlobs fun vs =>
      Fits limits.batch vs.length ∧ ∀ v ∈ vs, ∀ bytes ∈ v, Fits limits.value bytes.length :=
  (exact_body context limits.value).array limits context

theorem exact_text (context : String) (limit : Nat) :
    (text context limit).Exact writeString fun v => ∀ s ∈ v, Fits limit (Text.Utf8.size s) := by
  refine ((exact_body context limit).bind (w := fun _ _ => [])
    (q := fun o v => v.map Text.Utf8.encode = o) (Option.map Text.Utf8.encode)
    (fun o _ => ?_) ?_).congr ?_ ?_
  · cases o with
    | none =>
        refine (exact_pure Option.none).congr (fun _ _ => rfl) fun v => ?_
        rw [Option.map_eq_none_iff, eq_comm]
    | some bytes =>
        have texts : ∀ v : Option String, v.map Text.Utf8.encode = some bytes ↔
            ∃ s, v = some s ∧ Text.Utf8.decode bytes = .ok s := by
          intro v
          rw [Option.map_eq_some_iff]
          simp only [Text.Utf8.decode_eq_ok_iff, @eq_comm _ bytes, @eq_comm _ v]
        cases found : Text.Utf8.decode bytes with
        | ok s =>
            simp only [found]
            refine (exact_pure (some s)).congr (fun _ _ => rfl) fun v => ?_
            rw [texts, found]
            simp [eq_comm]
        | error fault =>
            simp only [found]
            refine (exact_malformed _).congr (fun _ _ => rfl) fun v => ?_
            rw [texts, found]
            simp
  · intro o v _ eq
    exact eq
  · intro v _
    exact List.append_nil _
  · intro v
    cases v <;> simp [Text.Utf8.length_encode]

theorem exact_string (limits : Limits) (context : String) :
    (string limits context).Exact writeString fun v =>
      ∀ s ∈ v, Fits limits.name (Text.Utf8.size s) :=
  exact_text context limits.name

theorem exact_strings (limits : Limits) (context : String) :
    (strings limits context).Exact writeStrings fun vs =>
      Fits limits.batch vs.length ∧ ∀ v ∈ vs, ∀ s ∈ v, Fits limits.name (Text.Utf8.size s) :=
  (exact_string limits context).array limits context

end CacheCoherence.Frame.Reader
