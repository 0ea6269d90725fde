import CacheCoherence.Proofs.QueueFailure
import CacheCoherence.Proofs.QueueStream

/-!
How far a failed queue gets. A sending task between two frames meets the failure
and completes what waits. In the middle of a frame it meets the failure only when
the frame is through, so what waits behind it depends on the other side: on one
that reads, or that hangs up.
-/

namespace CacheCoherence

namespace Endpoint

/-- A write of so many octets comes to an end without the other side, be it with a fault. -/
def Takes (e : Endpoint) (n : Nat) : Prop :=
  e.faults.write ≠ none ∨ e.outgoing.closed = true ∨ n ≤ e.outgoing.room

theorem takes_zero (e : Endpoint) : e.Takes 0 :=
  .inr (.inr (Nat.zero_le _))

theorem Takes.mono {e : Endpoint} {m n : Nat} (h : e.Takes n) (le : m ≤ n) : e.Takes m :=
  h.imp_right (·.imp_right (Nat.le_trans le))

theorem Takes.write {e : Endpoint} {bytes : List UInt8} {n : Nat}
    (h : e.Takes (bytes.length + n)) (allowed : e.allowance ≠ 0) :
    (∃ f, e.write bytes = .failed f) ∨
      ∃ e', e.write bytes = .wrote e' [] ∧ e'.Takes n ∧ e.allowance ≤ e'.allowance + 1 := by
  rw [Endpoint.write]
  by_cases empty : bytes.isEmpty = true
  · rw [if_pos empty]
    rw [List.isEmpty_iff.mp empty, List.length_nil, Nat.zero_add] at h
    exact .inr ⟨e, rfl, h, Nat.le_succ _⟩
  · rw [if_neg empty]
    cases fault : e.faults.write with
    | some f => exact .inl ⟨f, rfl⟩
    | none =>
        dsimp only
        rw [if_neg allowed]
        by_cases closed : e.outgoing.closed = true
        · rw [if_pos closed]
          exact .inl ⟨_, rfl⟩
        · have room : bytes.length + n ≤ e.outgoing.room :=
            (h.resolve_left (not_not_intro fault)).resolve_left closed
          have some : 0 < bytes.length :=
            List.length_pos_iff.mpr fun nil => empty (List.isEmpty_iff.mpr nil)
          rw [if_neg closed, if_neg (by omega)]
          refine .inr ⟨{ e.spend with outgoing := (e.outgoing.accept bytes).1 }, ?_,
            .inr (.inr ?_), ?_⟩
          · rw [Pipe.accept, List.drop_eq_nil_of_le (by omega)]
          · rw [Pipe.room] at room
            simp only [Pipe.accept, Pipe.room, Buffer.append, List.length_take]
            omega
          · change e.allowance ≤ e.allowance - 1 + 1
            omega

end Endpoint

/-- Steps until a sending task takes no more requests of a queue that has failed, if nothing holds
it up. -/
def Sending.distance : Sending → Nat
  | .closing _ | .stopped => 0
  | .idle => 1
  | .writing [] _ => 2
  | .writing (_ :: _) _ => 3

theorem Sending.distance_le (s : Sending) : s.distance ≤ 3 := by
  cases s with
  | writing rest _ => cases rest <;> exact Nat.le_of_ble_eq_true rfl
  | idle | closing _ | stopped => exact Nat.le_of_ble_eq_true rfl

namespace UpdateQueue

/-- The sending task is in the middle of a frame, and the other side neither reads nor hangs up. -/
def Stalled (q : UpdateQueue) (stream : Endpoint) : Prop :=
  (∃ rest buffered, q.sending = .writing rest buffered) ∧ stream.faults.write = none ∧
    stream.outgoing.closed = false ∧ stream.outgoing.room = 0

variable {q : UpdateQueue} {stream : Endpoint}

/-- Where the sending task of a failed queue has no step, it is through with what waits, unless it
is held up in the middle of a frame. -/
theorem stalled_of_send_eq_none (failed : q.failure ≠ none) (allowed : stream.allowance ≠ 0)
    (stuck : q.send stream = none) : q.isTaking = false ∨ q.Stalled stream := by
  rw [send] at stuck
  split at stuck
  · next idle =>
    rw [take] at stuck
    cases found : q.failure with
    | none => exact absurd found failed
    | some e => simp [found] at stuck
  · next rest buffered writing =>
    refine .inr ⟨⟨rest, buffered, writing⟩, ?_⟩
    rw [transmit] at stuck
    split at stuck
    · split at stuck
      · cases stuck
      · next blocked => exact (Endpoint.blocked_of_write blocked).resolve_left allowed
      · split at stuck <;> cases stuck
      · cases stuck
    · split at stuck
      · cases stuck
      · split at stuck
        · cases stuck
        · next blocked => exact (Endpoint.blocked_of_write blocked).resolve_left allowed
        · cases stuck
  · next closing =>
    left
    rw [isTaking, closing]
  · next stopped =>
    left
    rw [isTaking, stopped]

theorem SendStep.left {q' : UpdateQueue} (step : SendStep q q') (left : q.isTaking = false) :
    q'.isTaking = false := by
  have closing : ∀ (q : UpdateQueue) buffered, (q.failure = none → q.waiting = []) →
      (q.leave buffered).isTaking = false := by
    intro q buffered ended
    rw [isTaking, (continues_leave buffered ended).sending]
  cases step with
  | launch s waiting sending idle live first taking =>
      rw [isTaking, idle] at left
      cases left
  | leave e failed =>
      exact closing q [] fun live => absurd (failed.symm.trans live) (Option.some_ne_none e)
  | drain released live rest => exact closing _ [] fun _ => rest
  | fail f buffered => exact closing _ buffered fun live => by simp [failure_fail] at live
  | write sending taking => exact taking.trans left
  | stop fault left => cases fault <;> rfl

/-- Nothing holds up the sending task of a queue that has failed. -/
structure Unhindered (q : UpdateQueue) (stream : Endpoint) : Prop where
  failed : q.failure ≠ none
  allowed : q.sending.distance ≤ stream.allowance
  takes : stream.Takes q.sending.pending.length

theorem unhindered_leave (failed : q.failure ≠ none) (buffered : List UInt8)
    (takes : stream.Takes buffered.length) :
    (q.leave buffered).Unhindered stream ∧ (q.leave buffered).sending.distance = 0 := by
  have left := (continues_leave buffered fun live => absurd live failed).sending
  have distance : (q.leave buffered).sending.distance = 0 := congrArg Sending.distance left
  obtain ⟨e, found⟩ := Option.ne_none_iff_exists'.mp failed
  have still := (keeps_failure e).leave (l := []) buffered found fun live => absurd live failed
  refine ⟨⟨still ▸ nofun, distance ▸ Nat.zero_le _, ?_⟩, distance⟩
  rw [left]
  exact takes

theorem unhindered_failSending (f : StreamFault) (buffered : List UInt8)
    (takes : stream.Takes buffered.length) :
    (q.failSending f buffered).Unhindered stream ∧
      (q.failSending f buffered).sending.distance = 0 := by
  refine unhindered_leave ?_ buffered takes
  rw [failure_fail]
  nofun

/-- Nothing is to be written but what is in the buffer. -/
theorem Unhindered.flush {buffered : List UInt8} (h : q.Unhindered stream)
    (writing : q.sending = .writing [] buffered) :
    ∃ q' stream', q.transmit stream [] buffered = some (q', stream') ∧ q'.Unhindered stream' ∧
      q'.sending.distance < 2 := by
  obtain ⟨failed, allowed, takes⟩ := h
  rw [writing, Sending.distance] at allowed
  rw [writing, Sending.pending, List.nil_append] at takes
  rw [transmit, List.isEmpty_nil, if_pos rfl]
  rcases Endpoint.Takes.write (n := 0) takes (by omega) with ⟨f, fault⟩ | ⟨after, wrote, -, spent⟩
  · obtain ⟨unhindered, distance⟩ := unhindered_failSending (q := q) f buffered takes
    rw [fault]
    exact ⟨_, _, rfl, unhindered, distance ▸ Nat.two_pos⟩
  · rw [wrote]
    dsimp only
    cases after.faults.flush with
    | some f =>
        obtain ⟨unhindered, distance⟩ := unhindered_failSending (q := q) f [] after.takes_zero
        exact ⟨_, _, rfl, unhindered, distance ▸ Nat.two_pos⟩
    | none =>
        refine ⟨_, _, rfl, ⟨failed, ?_, after.takes_zero⟩, Nat.one_lt_two⟩
        change 1 ≤ after.allowance
        omega

/-- What is left of a frame is gathered, or written at once. -/
theorem Unhindered.write {rest buffered : List UInt8} (h : q.Unhindered stream)
    (writing : q.sending = .writing rest buffered) (more : rest ≠ []) :
    ∃ q' stream', q.transmit stream rest buffered = some (q', stream') ∧ q'.Unhindered stream' ∧
      q'.sending.distance < 3 := by
  obtain ⟨failed, allowed, takes⟩ := h
  have three : q.sending.distance = 3 := by
    rw [writing]
    cases rest with
    | nil => exact absurd rfl more
    | cons _ _ => rfl
  rw [three] at allowed
  rw [writing, Sending.pending, List.length_append] at takes
  rw [transmit, if_neg (by simpa using more)]
  split
  · refine ⟨_, _, rfl, ⟨failed, ?_, takes.mono (Nat.le_add_right ..)⟩, Nat.lt_succ_self 2⟩
    change 2 ≤ stream.allowance
    omega
  · rcases takes.write (by omega) with ⟨f, fault⟩ | ⟨after, wrote, through, spent⟩
    · obtain ⟨unhindered, distance⟩ := unhindered_failSending (q := q) f [] stream.takes_zero
      rw [fault]
      exact ⟨_, _, rfl, unhindered, distance ▸ Nat.zero_lt_succ 2⟩
    · rw [wrote]
      refine ⟨_, _, rfl, ⟨failed, ?_, through⟩, Nat.lt_succ_self 2⟩
      change 2 ≤ after.allowance
      omega

theorem Unhindered.nearer (h : q.Unhindered stream) (taking : q.isTaking = true) :
    ∃ q' stream', q.send stream = some (q', stream') ∧ q'.Unhindered stream' ∧
      q'.sending.distance < q.sending.distance := by
  rw [send]
  split
  · next idle =>
    obtain ⟨e, found⟩ := Option.ne_none_iff_exists'.mp h.failed
    obtain ⟨unhindered, distance⟩ := unhindered_leave h.failed [] stream.spend.takes_zero
    refine ⟨q.leave [], stream.spend, ?_, unhindered, ?_⟩
    · simp [take, found]
    · rw [distance, idle]
      exact Nat.one_pos
  · next rest buffered writing =>
    cases rest with
    | nil =>
        rw [writing]
        exact h.flush writing
    | cons octet rest =>
        rw [writing]
        exact h.write writing (List.cons_ne_nil octet rest)
  · next closing =>
    rw [isTaking, closing] at taking
    cases taking
  · next stopped =>
    rw [isTaking, stopped] at taking
    cases taking

theorem distance_pos (taking : q.isTaking = true) : 0 < q.sending.distance := by
  rw [isTaking] at taking
  split at taking
  · next idle => rw [idle]; exact Nat.one_pos
  · next rest _ writing => rw [writing]; cases rest <;> exact Nat.zero_lt_succ _
  · cases taking
  · cases taking

/-- A failed queue has nothing in flight, so what is not completed waits. -/
theorem Conserved.completed_or_waiting (h : Conserved [] q) (settled : q.Settled)
    (failed : q.failure ≠ none) :
    ∀ c ∈ q.calls, q.IsIn c .completed ∨ q.IsIn c .waiting := by
  intro c hc
  obtain ⟨place, here, -⟩ := h.existsUnique_isIn hc
  cases place with
  | completed => exact .inl here
  | waiting => exact .inr here
  | inFlight =>
      obtain ⟨e, found⟩ := Option.ne_none_iff_exists'.mp failed
      rw [IsIn, settled.flying e found] at here
      cases here

theorem Conserved.completed_of_left (h : Conserved [] q) (settled : q.Settled)
    (failed : q.failure ≠ none) (left : q.isTaking = false) :
    ∀ c ∈ q.calls, q.IsIn c .completed := by
  intro c hc
  refine (h.completed_or_waiting settled failed c hc).resolve_right fun waits => ?_
  rw [IsIn, settled.waiting left] at waits
  cases waits

end UpdateQueue

namespace Exchange

open UpdateQueue

theorem left_step_send {x : Exchange} (left : x.queue.isTaking = false) :
    (x.step .send).queue.isTaking = false :=
  advance_keeps (P := fun _ q => q.isTaking = false) left fun _ _ found =>
    (sendStep_of_send found).left left

theorem left_after_sends {x : Exchange} (n : Nat)
    (h : x.queue.isTaking = false ∨
      x.queue.Unhindered x.stream ∧ x.queue.sending.distance ≤ n) :
    (x.after (List.replicate n .send)).queue.isTaking = false := by
  induction n generalizing x with
  | zero =>
      refine h.elim id fun near => eq_false_of_ne_true fun taking => ?_
      exact Nat.not_lt.mpr near.2 (distance_pos taking)
  | succ n ih =>
      refine ih (x := x.step .send) ?_
      rcases h with left | ⟨unhindered, near⟩
      · exact .inl (left_step_send left)
      · cases taking : x.queue.isTaking with
        | false => exact .inl (left_step_send taking)
        | true =>
            obtain ⟨q, stream, sent, unhindered', nearer⟩ := unhindered.nearer taking
            right
            rw [step, advance, sent]
            exact ⟨unhindered', Nat.le_of_lt_succ (Nat.lt_of_lt_of_le nearer near)⟩

/-- Where the sending task of a failed queue cannot go on, every request that was handed in has been
completed, unless the task is held up in the middle of a frame by another side that neither reads
nor hangs up; then some may still wait. As soon as the other side takes the rest of that frame or
hangs up, three steps of the task complete them all. -/
theorem completed_or_stalled (node : NodeId) (limits : Limits) (stream : Endpoint)
    (run : List Action) :
    let x := (start node limits stream).after run
    x.queue.failure ≠ none →
    (x.stream.allowance ≠ 0 → x.queue.send x.stream = none →
      (∀ c ∈ x.queue.calls, x.queue.IsIn c .completed) ∨
        x.queue.Stalled x.stream ∧
          ∀ c ∈ x.queue.calls, x.queue.IsIn c .completed ∨ x.queue.IsIn c .waiting) ∧
    ∀ later : Endpoint, 3 ≤ later.allowance → later.Takes x.queue.sending.pending.length →
      let q := (x.after [.peer later, .send, .send, .send]).queue
      x.queue.calls ⊆ q.calls ∧ ∀ c ∈ q.calls, q.IsIn c .completed := by
  intro x failed
  have conserved : Conserved [] x.queue := conserved_after node limits stream run
  have settled : x.queue.Settled := settled_after (settled_new node limits) run
  refine ⟨fun allowed stuck => ?_, fun later allowed takes => ?_⟩
  · rcases stalled_of_send_eq_none failed allowed stuck with left | stalled
    · exact .inl (conserved.completed_of_left settled failed left)
    · exact .inr ⟨stalled, conserved.completed_or_waiting settled failed⟩
  · intro q
    obtain ⟨e, found⟩ := Option.ne_none_iff_exists'.mp failed
    have whole : (start node limits stream).after (run ++ [.peer later, .send, .send, .send]) =
        x.after [.peer later, .send, .send, .send] := List.foldl_append
    have kept : x.queue.Lasts e q := lasts_after found _
    have conserved' : Conserved [] q := by
      rw [show q = _ from congrArg Exchange.queue whole.symm]
      exact conserved_after node limits stream _
    have settled' : q.Settled := settled_after settled _
    have left : q.isTaking = false := by
      refine left_after_sends (x := ⟨x.queue, later⟩) 3 (.inr ⟨⟨failed, ?_, takes⟩, ?_⟩)
      · exact Nat.le_trans x.queue.sending.distance_le allowed
      · exact x.queue.sending.distance_le
    have failed' : q.failure ≠ none := by
      rw [kept.failure]
      nofun
    exact ⟨kept.calls, conserved'.completed_of_left settled' failed' left⟩

/-- The frame of a first request is longer than what can be on its way, and a second request waits
behind it, when the queue is shut down. -/
def stalling : List Action :=
  [.enqueue (.evictObject 1) (.callback "first" false),
    .enqueue (.evictObject 2) (.callback "second" false), .send, .send, .shutdown, .receive]

def stalled : Exchange :=
  (start 7 ⟨4, 4, 3⟩ ⟨⟨64, .ofList [], false⟩, ⟨4, .ofList [], false⟩, {}, 8⟩).after stalling

/-- The queue has failed and neither task has a step, but a request is not completed. -/
theorem stalled_not_completed :
    stalled.queue.failure = some shutDownByNode ∧ stalled.stream.allowance ≠ 0 ∧
      stalled.queue.send stalled.stream = none ∧ stalled.queue.receive stalled.stream = none ∧
      ∃ c ∈ stalled.queue.calls, ¬stalled.queue.IsIn c .completed := by
  have facts : stalled.queue.failure = some shutDownByNode ∧ stalled.stream.allowance ≠ 0 ∧
      (stalled.queue.send stalled.stream).isNone = true ∧
      (stalled.queue.receive stalled.stream).isNone = true ∧
      stalled.queue.calls.map Enqueued.sequence = [1, 2] ∧
      stalled.queue.completed.map Delivery.sequence = [1] := by decide +kernel
  obtain ⟨failed, allowed, send, receive, calls, completed⟩ := facts
  have second : 2 ∈ stalled.queue.calls.map Enqueued.sequence := calls ▸ by decide
  obtain ⟨c, hc, number⟩ := List.mem_map.mp second
  refine ⟨failed, allowed, Option.isNone_iff_eq_none.mp send, Option.isNone_iff_eq_none.mp receive,
    c, hc, ?_⟩
  rintro ⟨o, told⟩
  have known : c.sequence ∈ [1] := completed ▸ List.mem_map_of_mem (f := Delivery.sequence) told
  rw [number] at known
  exact absurd known (by decide)

theorem completed_or_stalled_of_stalled :
    let q := (stalled.after [.peer stalled.stream.drop, .send, .send, .send]).queue
    stalled.queue.failure ≠ none ∧ stalled.queue.calls ⊆ q.calls ∧
      ∀ c ∈ q.calls, q.IsIn c .completed := by
  have failed : stalled.queue.failure ≠ none := by decide +kernel
  have through := (completed_or_stalled 7 ⟨4, 4, 3⟩ _ stalling failed).2 stalled.stream.drop
    (by decide +kernel) (.inr (.inl rfl))
  exact ⟨failed, through⟩

end Exchange

end CacheCoherence
