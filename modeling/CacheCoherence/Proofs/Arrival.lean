import CacheCoherence.Proofs.RequestFormat

/-!
Frames that arrive piece by piece. A reader either runs out of octets or gives
an answer that no further octets change. So the octets received so far, when
they begin what some frames are written as, are nothing, or the beginning of the
first frame, or that frame and the beginning of the others; never are they refused.
-/

namespace CacheCoherence.Frame.Reader

variable {α β : Type}

def RanOut (answer : Except ReadFailure α) : Prop :=
  ∃ context missing, answer = .error (.short context missing)

/-- Unless the reader runs out of octets, more of them are only left behind the others. -/
def SteadyOn (r : Reader α) (bytes : List UInt8) : Prop :=
  RanOut (r.attempt bytes).1 ∨
    ∀ more, r.attempt (bytes ++ more) = ((r.attempt bytes).1, (r.attempt bytes).2 ++ more)

def Steady (r : Reader α) : Prop :=
  ∀ bytes, r.SteadyOn bytes

theorem steady_pure (x : α) : (pure x : Reader α).Steady :=
  fun _ => .inr fun _ => rfl

theorem steady_throw (e : ChannelError) : (throw (.refused e) : Reader α).Steady :=
  fun _ => .inr fun _ => rfl

theorem steady_octets (context : String) (n : Nat) : (octets context n).Steady := by
  intro bytes
  by_cases short : bytes.length < n
  · refine .inl ⟨context, n - bytes.length, ?_⟩
    rw [attempt_octets, if_pos short]
  · refine .inr fun more => ?_
    rw [attempt_octets, attempt_octets, if_neg short, List.length_append, if_neg (by omega),
      List.take_append_of_le_length (by omega), List.drop_append_of_le_length (by omega)]

theorem SteadyOn.bind {r : Reader α} {f : α → Reader β} {bytes : List UInt8} (h : r.SteadyOn bytes)
    (hf : ∀ x, (f x).Steady) : (r >>= f).SteadyOn bytes := by
  cases read : r.attempt bytes with
  | mk answer middle =>
      rw [SteadyOn, read] at h
      rw [SteadyOn, attempt_bind, read]
      cases answer with
      | error e =>
          refine h.imp ?_ ?_
          · rintro ⟨context, missing, eq⟩
            cases eq
            exact ⟨context, missing, rfl⟩
          · intro same more
            rw [attempt_bind, same]
      | ok x =>
          have same : ∀ more, r.attempt (bytes ++ more) = (.ok x, middle ++ more) := by
            refine h.resolve_left ?_
            rintro ⟨context, missing, eq⟩
            cases eq
          refine (hf x middle).imp id fun later more => ?_
          rw [attempt_bind, same]
          exact later more

theorem Steady.bind {r : Reader α} {f : α → Reader β} (h : r.Steady) (hf : ∀ x, (f x).Steady) :
    (r >>= f).Steady :=
  fun bytes => (h bytes).bind hf

theorem Steady.map {r : Reader α} (f : α → β) (h : r.Steady) : (do return f (← r)).Steady :=
  h.bind fun x => steady_pure (f x)

theorem Steady.unless {r : Reader α} (h : r.Steady) {c : Prop} [Decidable c] (reason : String) :
    (if c then malformed reason >>= fun _ : Unit => r else r).Steady := by
  split
  · exact (steady_throw _).bind fun _ => h
  · exact h

theorem steady_length (context : String) : (length context).Steady :=
  (steady_octets context 4).map _

theorem steady_long (context : String) : (long context).Steady :=
  (steady_octets context 8).map _

theorem steady_count (limits : Limits) (context : String) : (count limits context).Steady :=
  (steady_length context).bind fun i => ((steady_pure i.toNat).unless _).unless _

theorem steady_body (context : String) (limit : Nat) : (body context limit).Steady := by
  refine (steady_length context).bind fun i => ?_
  split
  · exact steady_pure none
  · exact (((steady_octets context i.toNat).map some).unless _).unless _

theorem steady_text (context : String) (limit : Nat) : (text context limit).Steady := by
  refine (steady_body context limit).bind fun read => ?_
  cases read with
  | none => exact steady_pure none
  | some bytes =>
      dsimp only
      cases Text.Utf8.decode bytes with
      | ok s => exact steady_pure (some s)
      | error fault => exact steady_throw _

theorem Steady.manyAfter {item : Reader α} (h : item.Steady) (n : Nat) (read : List α) :
    (manyAfter item n read).Steady := by
  induction n generalizing read with
  | zero => exact steady_pure read.reverse
  | succ n ih => exact h.bind fun x => ih (x :: read)

theorem Steady.array {item : Reader α} (h : item.Steady) (limits : Limits) (context : String) :
    (count limits context >>= fun n => many item n).Steady :=
  (steady_count limits context).bind fun n => h.manyAfter n []

/-- The reader makes `view x` of the frame of an item that satisfies `p`, and any octet begins a
frame for it. -/
structure Reads (r : Reader (Option α)) (write : β → List UInt8) (view : β → α) (p : β → Prop) :
    Prop where
  empty : r.attempt [] = (.ok none, [])
  frame : ∀ x rest, p x → r.attempt (write x ++ rest) = (.ok (some (view x)), rest)
  steady : ∀ tag bytes, r.SteadyOn (tag :: bytes)

/-- What octets amount to for a reader when they are the beginning of what some items are written
as, and `later` is the rest of it. -/
inductive Underway (write : β → List UInt8) (view : β → α) (items : List β)
    (received later : List UInt8) : Arrival α → Prop where
  | nothing (none : received = []) : Underway write view items received later .nothing
  | begun (context : String) (missing : Nat) :
      Underway write view items received later (.begun context missing)
  | frame (x : β) (others : List β) (rest : List UInt8) (first : items = x :: others)
      (octets : others.flatMap write = rest ++ later) :
      Underway write view items received later (.frame (view x) rest)

theorem Reads.arrival {r : Reader (Option α)} {write : β → List UInt8} {view : β → α}
    {p : β → Prop} (h : r.Reads write view p) {items : List β} (hp : ∀ x ∈ items, p x)
    {received later : List UInt8} (octets : items.flatMap write = received ++ later) :
    Underway write view items received later (r.arrival received) := by
  cases received with
  | nil =>
      rw [Reader.arrival, h.empty]
      exact .nothing rfl
  | cons tag bytes =>
      cases items with
      | nil => cases octets
      | cons x others =>
          have whole := h.frame x (others.flatMap write) (hp x List.mem_cons_self)
          rw [List.flatMap_cons] at octets
          rw [octets] at whole
          have steady := h.steady tag bytes
          cases read : r.attempt (tag :: bytes) with
          | mk answer rest =>
              rw [SteadyOn, read] at steady
              rw [Reader.arrival, read]
              cases steady with
              | inl short =>
                  obtain ⟨context, missing, eq⟩ := short
                  rw [show answer = _ from eq]
                  exact .begun context missing
              | inr same =>
                  rw [same later, Prod.mk.injEq] at whole
                  rw [show answer = _ from whole.1]
                  exact .frame x others rest rfl whole.2.symm

end CacheCoherence.Frame.Reader

namespace CacheCoherence.Request

open CacheCoherence.Frame.Reader

theorem steady_malformed {α : Type} (x : Except InputError α) : (malformed x).Steady := by
  cases x with
  | ok x => exact steady_pure x
  | error e => exact steady_throw _

theorem steady_readObject : readObject.Steady :=
  (steady_long "oid").bind fun _ => steady_malformed _

theorem steady_readBinding (limits : Limits) : (readBinding limits).Steady := by
  refine (steady_text "name" limits.name).bind fun name => ?_
  cases name with
  | none => exact steady_pure _
  | some name => exact steady_pure _

theorem steady_readBatch (limits : Limits) : (readBatch limits).Steady := by
  refine ((steady_long "oids").array limits "oids").bind fun oids => ?_
  refine ((steady_body "oid_values" limits.value).array limits "oid_values").bind fun values => ?_
  refine ((steady_text "names" limits.name).array limits "names").bind fun names => ?_
  exact ((steady_long "name_values").array limits "name_values").bind fun _ => steady_malformed _

theorem steady_readPayload (limits : Limits) (k : RequestKind) : (readPayload limits k).Steady := by
  cases k with
  | commit => exact (steady_readBatch limits).map _
  | evictObject | downgradeObject => exact steady_readObject.map _
  | evictBinding | downgradeBinding => exact (steady_readBinding limits).map _

theorem reads (limits : Limits) : (read limits).Reads frame id (Within limits) where
  empty := rfl
  frame r rest within := (attempt_read_eq_some_iff limits _ rest r).mpr ⟨rfl, within⟩
  steady tag bytes := by
    rw [SteadyOn]
    simp only [List.cons_append, attempt_read]
    cases RequestKind.ofTag? tag with
    | none => exact .inr fun _ => rfl
    | some k => exact (steady_readPayload limits k).map some bytes

theorem arrival_eq_frame_iff (limits : Limits) (bytes rest : List UInt8) (r : Request) :
    (read limits).arrival bytes = .frame r rest ↔ bytes = r.frame ++ rest ∧ r.Within limits := by
  rw [← attempt_read_eq_some_iff, Frame.Reader.arrival]
  split <;> next found => simp [found]

end CacheCoherence.Request
