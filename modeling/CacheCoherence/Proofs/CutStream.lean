import CacheCoherence.Proofs.FrameSequence

/-!
A stream that was cut. The frames that lie wholly before the cut are found, in
order, and nothing else is: the beginning of a frame is no frame and no fault, so
behind them the stream just ends, between two frames or within one.
-/

namespace CacheCoherence.Frame.Reader

variable {α β : Type} {r : Reader (Option α)} {write : β → List UInt8} {view : β → α}
  {p : β → Prop}

theorem Reads.arrival_frame (h : r.Reads write view p) {x : β} (hp : p x) (rest : List UInt8) :
    r.arrival (write x ++ rest) = .frame (view x) rest := by
  rw [Reader.arrival, h.frame x rest hp]

/-- No beginning of a frame is a frame, or a fault. -/
theorem Reads.arrival_begun (h : r.Reads write view p) {x : β} (hp : p x) {before : List UInt8}
    (some : before ≠ []) {behind : List UInt8} (short : behind ≠ [])
    (octets : write x = before ++ behind) :
    ∃ context missing, r.arrival before = .begun context missing := by
  have underway := h.arrival (show ∀ y ∈ [x], p y by simpa using hp) (by simpa using octets)
  generalize r.arrival before = arrived at underway
  cases underway with
  | nothing none => exact absurd none some
  | begun context missing => exact ⟨context, missing, rfl⟩
  | frame y others rest first left =>
      cases first
      exact absurd (List.append_eq_nil_iff.mp left.symm).2 short

theorem Reads.write_ne_nil (h : r.Reads write view p) {x : β} (hp : p x) : write x ≠ [] := by
  intro none
  have whole := h.frame x [] hp
  rw [none, List.nil_append, h.empty] at whole
  cases whole

/-- What is `read` of the octets `before` a cut through what `items` are written as: the items
whose frames are whole there, and then an end, which is a clean one where the cut is between two
frames. -/
structure CutAt (write : β → List UInt8) (view : β → α) (items : List β) (before : List UInt8)
    (whole : Nat) (read : List α × Except ChannelError Unit) : Prop where
  inside : whole ≤ items.length
  found : read.1 = (items.take whole).map view
  reached : ∀ n ≤ items.length, (items.take n).flatMap write <+: before ↔ n ≤ whole
  ending : (read.2 = .ok () ∧ ∃ n, before = (items.take n).flatMap write) ∨
    ((∃ context, read.2 = .error (.endOfStream context)) ∧
      ∀ n, before ≠ (items.take n).flatMap write)

/-- Nothing is read where the first frame is not whole. -/
theorem CutAt.torn {x : β} {others : List β} {before : List UInt8} (short : ¬write x <+: before)
    {ending : Except ChannelError Unit}
    (ends : (ending = .ok () ∧ before = []) ∨
      ((∃ context, ending = .error (.endOfStream context)) ∧ before ≠ [])) :
    CutAt write view (x :: others) before 0 ([], ending) where
  inside := Nat.zero_le _
  found := rfl
  reached n _ := by
    cases n with
    | zero => simp
    | succ n =>
        rw [List.take_succ_cons, List.flatMap_cons]
        exact ⟨fun found => absurd ((List.prefix_append ..).trans found) short, nofun⟩
  ending := by
    refine ends.imp (fun clean => ⟨clean.1, 0, clean.2⟩) fun torn => ⟨torn.1, fun n same => ?_⟩
    cases n with
    | zero => exact torn.2 same
    | succ n =>
        rw [List.take_succ_cons, List.flatMap_cons] at same
        exact short ⟨_, same.symm⟩

/-- A whole frame is read, and then what is read behind it. -/
theorem CutAt.cons {x : β} {others : List β} (some : write x ≠ []) {rest : List UInt8} {whole : Nat}
    {read : List α × Except ChannelError Unit} (h : CutAt write view others rest whole read) :
    CutAt write view (x :: others) (write x ++ rest) (whole + 1) (view x :: read.1, read.2) where
  inside := Nat.succ_le_succ h.inside
  found := by rw [h.found, List.take_succ_cons, List.map_cons]
  reached n inside := by
    cases n with
    | zero => simp
    | succ n =>
        rw [List.take_succ_cons, List.flatMap_cons, List.prefix_append_right_inj,
          h.reached n (Nat.le_of_succ_le_succ inside), Nat.succ_le_succ_iff]
  ending := by
    refine h.ending.imp ?_ ?_
    · rintro ⟨clean, n, same⟩
      exact ⟨clean, n + 1, by rw [List.take_succ_cons, List.flatMap_cons, ← same]⟩
    · rintro ⟨torn, between⟩
      refine ⟨torn, fun n same => ?_⟩
      cases n with
      | zero => exact some (List.append_eq_nil_iff.mp same).1
      | succ n =>
          rw [List.take_succ_cons, List.flatMap_cons, List.append_cancel_left_eq] at same
          exact between n same

theorem Reads.readAll_cut (h : r.Reads write view p) (divides : r.Divides) {items : List β}
    (hp : ∀ x ∈ items, p x) {before behind : List UInt8}
    (octets : items.flatMap write = before ++ behind) :
    ∃ whole, CutAt write view items before whole (readAll r before) := by
  induction items generalizing before with
  | nil =>
      obtain ⟨rfl, rfl⟩ := List.append_eq_nil_iff.mp octets.symm
      rw [divides.readAll_eq, on, h.empty]
      exact ⟨0, Nat.le_refl 0, rfl, fun n inside => by simpa using inside, .inl ⟨rfl, 0, rfl⟩⟩
  | cons x others ih =>
      have px := hp x List.mem_cons_self
      rw [List.flatMap_cons] at octets
      by_cases first : write x <+: before
      · obtain ⟨rest, rfl⟩ := first
        rw [List.append_assoc, List.append_cancel_left_eq] at octets
        obtain ⟨whole, cut⟩ := ih (fun y among => hp y (List.mem_cons_of_mem x among)) octets
        have read := divides.readAll_frame (h.arrival_frame px rest) []
        rw [List.append_nil, List.append_nil] at read
        exact ⟨whole + 1, read ▸ cut.cons (h.write_ne_nil px)⟩
      · have either :=
          List.prefix_or_prefix_of_prefix ⟨_, octets⟩ (List.prefix_append before behind)
        have within : before <+: write x := either.resolve_left first
        obtain ⟨missing, frame⟩ := within
        have short : missing ≠ [] := by
          rintro rfl
          rw [List.append_nil] at frame
          exact first (frame ▸ List.prefix_rfl)
        by_cases none : before = []
        · subst none
          rw [divides.readAll_eq, on, h.empty]
          exact ⟨0, .torn first (.inl ⟨rfl, rfl⟩)⟩
        · obtain ⟨context, octets, begun⟩ := h.arrival_begun px none short frame.symm
          rw [divides.readAll_begun begun]
          exact ⟨0, .torn first (.inr ⟨⟨context, rfl⟩, none⟩)⟩

/-- A stream that was not cut is read to its end. -/
theorem Reads.readAll_flatMap (h : r.Reads write view p) (divides : r.Divides) {items : List β}
    (hp : ∀ x ∈ items, p x) : readAll r (items.flatMap write) = (items.map view, .ok ()) := by
  obtain ⟨whole, cut⟩ := h.readAll_cut divides hp (List.append_nil (items.flatMap write)).symm
  have all : whole = items.length :=
    Nat.le_antisymm cut.inside ((cut.reached items.length (Nat.le_refl _)).mp (by simp))
  have clean := cut.ending.resolve_right fun torn => torn.2 items.length (by simp)
  exact Prod.ext (by rw [cut.found, all, List.take_length]) clean.1

end CacheCoherence.Frame.Reader

namespace CacheCoherence.Request

open CacheCoherence.Frame

/-- Of the requests in a stream that was cut anywhere, just those are read whose frames lie wholly
before the cut. The stream then ends, cleanly where the cut is between two frames. -/
theorem readAll_of_cut {limits : Limits} (framed : limits.Framed) {requests : List Request}
    (allowed : ∀ r ∈ requests, r.check limits = .ok ()) {before behind : List UInt8}
    (cut : requests.flatMap frame = before ++ behind) :
    ∃ whole ≤ requests.length,
      (readAll (read limits) before).1 = requests.take whole ∧
      (∀ n ≤ requests.length, (requests.take n).flatMap frame <+: before ↔ n ≤ whole) ∧
      (((readAll (read limits) before).2 = .ok () ∧
          ∃ n, before = (requests.take n).flatMap frame) ∨
        ((∃ context, (readAll (read limits) before).2 = .error (.endOfStream context)) ∧
          ∀ n, before ≠ (requests.take n).flatMap frame)) := by
  obtain ⟨whole, read⟩ := (reads limits).readAll_cut (divides limits)
    (fun r among => (check_eq_ok_iff framed r).mp (allowed r among)) cut
  exact ⟨whole, read.inside, read.found.trans (List.map_id _), read.reached, read.ending⟩

/-- The eviction of a name and a batch, cut in the middle of the batch's first value. -/
theorem readAll_of_cut_value :
    Limits.Framed ⟨3, 2, 2⟩ ∧
    (∀ r ∈ [evictBinding (.name "é"), mixed], r.check ⟨3, 2, 2⟩ = .ok ()) ∧
    ∃ context, readAll (read ⟨3, 2, 2⟩)
      (([evictBinding (.name "é"), mixed].flatMap frame).take 45) =
        ([evictBinding (.name "é")], .error (.endOfStream context)) := by
  have framed : Limits.Framed ⟨3, 2, 2⟩ := ⟨by decide, by decide, by decide⟩
  have allowed : ∀ r ∈ [evictBinding (.name "é"), mixed], r.check ⟨3, 2, 2⟩ = .ok () := by decide
  obtain ⟨whole, inside, found, reached, ending⟩ :=
    readAll_of_cut framed allowed (List.take_append_drop 45 _).symm
  have one : whole = 1 := by
    have first := (reached 1 (by decide)).mp (by decide)
    have second := mt (reached 2 (by decide)).mpr (by decide)
    omega
  subst one
  obtain ⟨_, n, clean⟩ | ⟨⟨context, torn⟩, _⟩ := ending
  · match n with
    | 0 | 1 => exact absurd clean (by decide)
    | n + 2 =>
        simp only [List.take_succ_cons, List.take_nil] at clean
        exact absurd clean (by decide)
  · exact ⟨framed, allowed, context, Prod.ext found torn⟩

end CacheCoherence.Request
