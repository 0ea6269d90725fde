import CacheCoherence.Stream.Endpoint

/-!
What passes through one end of a stream. A call takes octets off the front of
the incoming pipe and puts octets behind those in the outgoing pipe; none gets
lost or out of order, and closing a pipe takes nothing out of it. Without faults
a call comes to nothing only where there is no room, nothing to read or no
allowance.
-/

namespace CacheCoherence

def Pipe.octets (p : Pipe) : List UInt8 :=
  p.buffer.toList

theorem Pipe.length_octets (p : Pipe) : p.octets.length = p.buffer.size :=
  p.buffer.length_toList

namespace Endpoint

/-- From one state of an end to another, `taken` has been read and `given` has been written. -/
structure Moved (e e' : Endpoint) (taken given : List UInt8) : Prop where
  incoming : e.incoming.octets = taken ++ e'.incoming.octets
  outgoing : e'.outgoing.octets = e.outgoing.octets ++ given

/-- The octets read from one state of an end to another, when nothing else has happened to it. -/
def taken (e e' : Endpoint) : List UInt8 :=
  e.incoming.octets.take (e.incoming.octets.length - e'.incoming.octets.length)

/-- The octets written from one state of an end to another, when nothing else has happened to it. -/
def given (e e' : Endpoint) : List UInt8 :=
  e'.outgoing.octets.drop e.outgoing.octets.length

theorem Moved.taken_eq {e e' : Endpoint} {bytes given : List UInt8} (h : e.Moved e' bytes given) :
    e.taken e' = bytes := by
  rw [taken, h.incoming, List.length_append, Nat.add_sub_cancel, List.take_left]

theorem Moved.given_eq {e e' : Endpoint} {taken bytes : List UInt8} (h : e.Moved e' taken bytes) :
    e.given e' = bytes := by
  rw [given, h.outgoing, List.drop_left]

theorem moved_refl (e : Endpoint) : e.Moved e [] [] :=
  ⟨rfl, (List.append_nil _).symm⟩

theorem moved_spend (e : Endpoint) : e.Moved e.spend [] [] :=
  ⟨rfl, (List.append_nil _).symm⟩

theorem Moved.trans {e e' e'' : Endpoint} {taken taken' given given' : List UInt8}
    (h : e.Moved e' taken given) (h' : e'.Moved e'' taken' given') :
    e.Moved e'' (taken ++ taken') (given ++ given') where
  incoming := by rw [h.incoming, h'.incoming, List.append_assoc]
  outgoing := by rw [h'.outgoing, h.outgoing, List.append_assoc]

theorem Moved.finish {e e' : Endpoint} {taken given : List UInt8} (h : e.Moved e' taken given) :
    e.Moved e'.finish.1 taken given := by
  rw [Endpoint.finish]
  split
  · exact h
  · exact ⟨h.incoming, h.outgoing⟩

theorem Moved.drop {e e' : Endpoint} {taken given : List UInt8} (h : e.Moved e' taken given) :
    e.Moved e'.drop taken given :=
  ⟨h.incoming, h.outgoing⟩

/-- Two states of an end that differ in what is on its way and in the allowance only. -/
structure Alike (e e' : Endpoint) : Prop where
  faults : e'.faults = e.faults
  incomingClosed : e'.incoming.closed = e.incoming.closed
  outgoingClosed : e'.outgoing.closed = e.outgoing.closed
  incomingCapacity : e'.incoming.capacity = e.incoming.capacity
  outgoingCapacity : e'.outgoing.capacity = e.outgoing.capacity

theorem alike_refl (e : Endpoint) : e.Alike e :=
  ⟨rfl, rfl, rfl, rfl, rfl⟩

/-- Writing fails like this: by a fault of the stream, or because the other side is gone. -/
def Unwritable (e : Endpoint) (f : StreamFault) : Prop :=
  e.faults.write = some f ∨ e.faults.flush = some f ∨ e.outgoing.closed = true ∧ f = .brokenPipe

/-- The other side has closed its side, and all that it has sent has been read. -/
def Exhausted (e : Endpoint) : Prop :=
  e.incoming.octets = [] ∧ e.incoming.closed = true

/-- Why a call writes nothing, or what it has given away: something, if it was handed anything. -/
theorem write_cases (e : Endpoint) (bytes : List UInt8) :
    match e.write bytes with
    | .failed f => e.faults.write = some f ∨ e.outgoing.closed = true ∧ f = .brokenPipe
    | .blocked => e.allowance = 0 ∨
        e.faults.write = none ∧ e.outgoing.closed = false ∧ e.outgoing.room = 0
    | .wrote e' rest => ∃ given, bytes = given ++ rest ∧ (given = [] → rest = []) ∧
        e.Moved e' [] given ∧ e.Alike e' := by
  rw [write]
  by_cases none : bytes.isEmpty = true
  · rw [if_pos none]
    exact ⟨[], List.isEmpty_iff.mp none, fun _ => rfl, e.moved_refl, e.alike_refl⟩
  · rw [if_neg none]
    cases quiet : e.faults.write with
    | some f => exact .inl rfl
    | none =>
        dsimp only
        by_cases spent : e.allowance = 0
        · rw [if_pos spent]
          exact .inl spent
        · rw [if_neg spent]
          by_cases closed : e.outgoing.closed = true
          · rw [if_pos closed]
            exact .inr ⟨closed, rfl⟩
          · rw [if_neg closed]
            by_cases full : e.outgoing.room = 0
            · rw [if_pos full]
              exact .inr ⟨rfl, Bool.eq_false_iff.mpr closed, full⟩
            · rw [if_neg full]
              refine ⟨bytes.take e.outgoing.room, (List.take_append_drop ..).symm, fun given => ?_,
                ⟨rfl, Buffer.toList_append ..⟩, rfl, rfl, rfl, rfl, rfl⟩
              have empty := (List.take_eq_nil_iff.mp given).resolve_left full
              exact absurd (List.isEmpty_iff.mpr empty) none

/-- Why a call reads nothing, or what it has read: something, if it asked for any. -/
theorem read_cases (e : Endpoint) (limit : Nat) :
    match e.read limit with
    | .failed f => e.faults.read = some f
    | .waiting => e.allowance = 0 ∨ e.incoming.octets = [] ∧ e.incoming.closed = false
    | .ended => e.Exhausted
    | .got e' bytes => (bytes = [] → limit = 0) ∧ bytes.length ≤ limit ∧ e.Moved e' bytes [] ∧
        e.Alike e' := by
  rw [read]
  cases quiet : e.faults.read with
  | some f => rfl
  | none =>
      dsimp only
      by_cases spent : e.allowance = 0
      · rw [if_pos spent]
        exact .inl spent
      · rw [if_neg spent]
        by_cases empty : e.incoming.buffer.isEmpty = true
        · rw [if_pos empty]
          have none : e.incoming.octets = [] := (Buffer.isEmpty_iff _).mp empty
          by_cases closed : e.incoming.closed = true
          · rw [if_pos closed]
            exact ⟨none, closed⟩
          · rw [if_neg closed]
            exact .inr ⟨none, Bool.eq_false_iff.mpr closed⟩
        · rw [if_neg empty]
          refine ⟨fun none => ?_, List.length_take_le .., ⟨?_, (List.append_nil _).symm⟩,
            rfl, rfl, rfl, rfl, rfl⟩
          · rw [Buffer.isEmpty_iff] at empty
            exact (List.take_eq_nil_iff.mp none).resolve_right empty
          · simp only [Pipe.octets, Buffer.toList_drop, List.take_append_drop]

section Calls

variable {e e' : Endpoint} {bytes rest : List UInt8} {limit missing : Nat}

theorem exists_given_of_write (h : e.write bytes = .wrote e' rest) :
    ∃ given, bytes = given ++ rest ∧ (given = [] → rest = []) ∧ e.Moved e' [] given ∧
      e.Alike e' := by
  have cases := e.write_cases bytes
  rwa [h] at cases

theorem moved_write (h : e.write bytes = .wrote e' rest) :
    ∃ given, bytes = given ++ rest ∧ e.Moved e' [] given := by
  obtain ⟨given, octets, -, moved, -⟩ := exists_given_of_write h
  exact ⟨given, octets, moved⟩

theorem blocked_of_write (h : e.write bytes = .blocked) :
    e.allowance = 0 ∨
      e.faults.write = none ∧ e.outgoing.closed = false ∧ e.outgoing.room = 0 := by
  have cases := e.write_cases bytes
  rwa [h] at cases

theorem write_ne_failed (quiet : e.faults = {}) (unclosed : e.outgoing.closed = false)
    (bytes : List UInt8) (f : StreamFault) : e.write bytes ≠ .failed f := by
  intro failed
  have cases := e.write_cases bytes
  rw [failed, quiet, unclosed] at cases
  obtain fault | ⟨closed, -⟩ := cases
  · cases fault
  · cases closed

theorem unwritable_of_write {f : StreamFault} (h : e.write bytes = .failed f) : e.Unwritable f := by
  have cases := e.write_cases bytes
  rw [h] at cases
  exact cases.imp_right .inr

/-- What has been written is lost if it cannot be passed on. -/
theorem unwritable_of_flush {f : StreamFault} (h : e.write bytes = .wrote e' rest)
    (fault : e'.faults.flush = some f) : e.Unwritable f := by
  obtain ⟨-, -, -, -, alike⟩ := exists_given_of_write h
  exact .inr (.inl (alike.faults ▸ fault))

theorem got_of_read (h : e.read limit = .got e' bytes) :
    (bytes = [] → limit = 0) ∧ bytes.length ≤ limit ∧ e.Moved e' bytes [] ∧ e.Alike e' := by
  have cases := e.read_cases limit
  rwa [h] at cases

theorem moved_read (h : e.read limit = .got e' bytes) : e.Moved e' bytes [] :=
  (got_of_read h).2.2.1

theorem length_le_of_read (h : e.read limit = .got e' bytes) : bytes.length ≤ limit :=
  (got_of_read h).2.1

theorem alike_read (h : e.read limit = .got e' bytes) : e.Alike e' :=
  (got_of_read h).2.2.2

theorem ne_nil_of_readAhead (h : e.readAhead missing = .got e' bytes) : bytes ≠ [] := by
  intro none
  have asked : 0 < max portion missing := Nat.lt_of_lt_of_le (by decide) (Nat.le_max_left ..)
  exact Nat.ne_of_gt asked ((got_of_read h).1 none)

theorem waiting_of_read (h : e.read limit = .waiting) :
    e.allowance = 0 ∨ e.incoming.octets = [] ∧ e.incoming.closed = false := by
  have cases := e.read_cases limit
  rwa [h] at cases

theorem exhausted_of_read (h : e.read limit = .ended) : e.Exhausted := by
  have cases := e.read_cases limit
  rwa [h] at cases

theorem fault_of_read {f : StreamFault} (h : e.read limit = .failed f) :
    e.faults.read = some f := by
  have cases := e.read_cases limit
  rwa [h] at cases

theorem read_ne_failed (quiet : e.faults = {}) (limit : Nat) (f : StreamFault) :
    e.read limit ≠ .failed f := by
  intro failed
  have cases := e.read_cases limit
  rw [failed, quiet] at cases
  cases cases

end Calls

/-- It is the turn of others, or nothing has come from the other side, or it does not read. -/
def Waits (e : Endpoint) : Prop :=
  e.allowance = 0 ∨ (e.incoming.octets = [] ∧ e.incoming.closed = false) ∨
    (e.outgoing.room = 0 ∧ e.outgoing.closed = false)

theorem waits_of_read {e : Endpoint} {limit : Nat} (h : e.read limit = .waiting) : e.Waits :=
  (waiting_of_read h).imp_right .inl

theorem waits_of_write {e : Endpoint} {bytes : List UInt8} (h : e.write bytes = .blocked) :
    e.Waits := by
  obtain spent | ⟨-, unclosed, full⟩ := blocked_of_write h
  · exact .inl spent
  · exact .inr (.inr ⟨full, unclosed⟩)

end Endpoint

end CacheCoherence
