import CacheCoherence.Proofs.ThreadFailure
import CacheCoherence.Proofs.ThreadLedger

/-!
The order of the requests of a queue among its threads. The frames written are
those of accepted requests in order. Each response is for the request of its
position among those sent, whatever the other threads do between the octets and
the word to the completion. A failure is told by two threads, each in the order
of the requests.
-/

namespace CacheCoherence

namespace Threads

section Surplus

variable {w w' : Threads}

/-- What the other threads do makes no difference to where the receiving task stands. -/
theorem receiver_step (h : w.Faithful) {e : Event} (other : e ≠ .go .receiver) :
    (w.step e).receiver = w.receiver ∧ (w.step e).work .receiver = w.work .receiver ∧
      (w.step e).settled = w.settled := by
  cases e with
  | call c =>
      refine ⟨rfl, ?_, rfl⟩
      have away : Thread.receiver ≠ .caller w.callers := fun same => by cases same
      rw [step, work_assign, if_neg away]
  | peer stream => exact ⟨rfl, rfl, rfl⟩
  | go t =>
      have away : Thread.receiver ≠ t := fun same => other (same ▸ rfl)
      rw [step, go.eq_def]
      split
      · next a rest due => exact ⟨rfl, if_neg away, settled_act h.explained due⟩
      · cases t with
        | caller n => exact ⟨rfl, rfl, rfl⟩
        | receiver => exact absurd rfl away
        | sender =>
            have s := senderStep_of_send h.explained.tidy
            exact ⟨s.apart.1, s.aside.work .receiver away, s.settled⟩

theorem receiver_after (h : w.Faithful) {others : List Event} (away : .go .receiver ∉ others) :
    (w.after others).receiver = w.receiver ∧
      (w.after others).work .receiver = w.work .receiver ∧
      (w.after others).settled = w.settled := by
  induction others generalizing w with
  | nil => exact ⟨rfl, rfl, rfl⟩
  | cons e rest ih =>
      obtain ⟨receiver, work, settled⟩ := receiver_step h fun same =>
        away (same ▸ List.mem_cons_self)
      obtain ⟨receiver', work', settled'⟩ := ih (h.step e) fun member =>
        away (List.mem_cons_of_mem e member)
      exact ⟨receiver'.trans receiver, work'.trans work, settled'.trans settled⟩

theorem receiver_of_unmatched {r : Response} (h : w.unmatched = [r]) :
    w.receiver = .matching r := by
  rw [unmatched] at h
  split at h
  · next matching => rw [matching, List.singleton_inj.mp h]
  · cases h

/-- The receiving task makes no more responses of octets. -/
def HasQuit (w : Threads) : Prop :=
  w.receiver = .halting ∨ w.receiver = .ready ∧ w.queue.receiving = .stopped

theorem HasQuit.step (quit : w.HasQuit) (h : w.Faithful) (s : w.Step w') :
    w'.HasQuit ∧ w'.settled = w.settled := by
  cases s with
  | wait | call _ | peer _ => exact ⟨quit, rfl⟩
  | act t a rest due =>
      refine ⟨?_, settled_act h.explained due⟩
      rw [HasQuit, show (w.act t a rest).queue.receiving = _ from (w.queue.tasks_perform a).2.2]
      exact quit
  | send free s =>
      refine ⟨?_, s.settled⟩
      rw [HasQuit, s.apart.1, s.apart.2.2.1]
      exact quit
  | receive free s =>
      have settled := s.settled_eq h.explained
      obtain halting | ⟨ready, stopped⟩ := quit
      · cases s with
        | wait => exact ⟨.inl halting, rfl⟩
        | halt _ => exact ⟨.inr ⟨rfl, rfl⟩, settled rfl⟩
        | turn _ _ before _ =>
            rw [halting] at before
            obtain same | same := before <;> cases same
        | cut _ ended _ =>
            rw [halting] at ended
            obtain same | same := ended <;> cases same
        | read _ _ _ _ now _ _ | pop _ _ _ now _ | surplus _ now _ | answer _ _ now
        | bare now _ => cases halting.symm.trans now
      · cases s with
        | wait => exact ⟨.inr ⟨ready, stopped⟩, rfl⟩
        | turn _ running _ _ => exact absurd stopped running
        | cut _ ended _ =>
            rw [ready] at ended
            obtain same | same := ended <;> cases same
        | read _ _ _ _ now _ _ | pop _ _ _ now _ | surplus _ now _ | answer _ _ now
        | bare now _ | halt now => cases ready.symm.trans now

theorem HasQuit.after (quit : w.HasQuit) (h : w.Faithful) (run : List Event) :
    (w.after run).settled = w.settled := by
  have all : (w.after run).Faithful ∧ (w.after run).HasQuit ∧
      (w.after run).settled = w.settled := by
    refine after_induction (P := fun w₁ => w₁.Faithful ∧ w₁.HasQuit ∧ w₁.settled = w.settled)
      ⟨h, quit, rfl⟩ (fun ⟨h, quit, settled⟩ e => ?_) run
    obtain ⟨still, same⟩ := quit.step h (step_step h.explained.tidy e)
    exact ⟨h.step e, still, same.trans settled⟩
  exact all.2.2

/-- A receiving task that breaks off fails the queue, unless another thread has done so before, and
answers nothing more. -/
theorem failure_of_breakOff {e : ChannelError} (h : (w.breakOff e).Faithful) {others : List Event}
    (away : .go .receiver ∉ others) (later : List Event) :
    let w₁ := (w.breakOff e).after others
    let w₂ := w₁.step (.go .receiver)
    w₂.queue.failure = some (w₁.queue.failure.getD e) ∧
      (w₂.after later).settled = (w.breakOff e).settled := by
  intro w₁ w₂
  have faithful : w₁.Faithful := after_induction h (fun h e => h.step e) others
  obtain ⟨receiver, work, settled⟩ := receiver_after h away
  have due : w₁.work .receiver = [.fail e] := by
    rw [work, breakOff, work_assign, if_pos rfl]
  have told : w₂ = w₁.act .receiver (.fail e) [] := by
    change w₁.go .receiver = _
    rw [go, due]
  have quit : w₂.HasQuit := by
    rw [told]
    exact .inl receiver
  refine ⟨?_, ?_⟩
  · rw [told]
    exact UpdateQueue.failure_perform_fail w₁.queue e
  · refine (quit.after (faithful.step _) later).trans ?_
    rw [told]
    exact (settled_act faithful.explained due).trans settled

/-- A response that finds nothing in flight fails the queue, unless something else does before, and
is told to no completion. -/
theorem Faithful.surplus (h : w.Faithful) {r : Response} (matching : w.receiver = .matching r)
    (empty : w.queue.inFlight = []) {others : List Event} (away : .go .receiver ∉ others)
    (later : List Event) :
    let w₁ := (w.step (.go .receiver)).after others
    let w₂ := w₁.step (.go .receiver)
    w₂.queue.failure = some (w₁.queue.failure.getD .unexpectedResponse) ∧
      (w₂.after later).settled = w.settled := by
  have busy : w.receiver ≠ .ready ∧ w.receiver ≠ .halting := by
    rw [matching]
    exact ⟨nofun, nofun⟩
  have broken : w.step (.go .receiver) = w.breakOff .unexpectedResponse := by
    rw [Threads.step, go, h.matched.free busy.1 busy.2]
    dsimp only
    rw [receive]
    split
    · next stopped => exact absurd stopped (h.matched.running busy.1)
    · rw [matching]
      dsimp only
      rw [empty]
  have settled : (w.breakOff .unexpectedResponse).settled = w.settled := by
    rw [Threads.settled, Threads.settled, inHand, inHand, matching]
    rfl
  have stepped := h.step (.go .receiver)
  rw [broken] at stepped ⊢
  rw [← settled]
  exact failure_of_breakOff stepped away later

end Surplus

/-- A live queue has completed accepted requests with answers only. -/
theorem Ledger.finished_of_live {w : Threads} (h : w.Ledger) (live : w.queue.failure = none) :
    w.queue.finished = w.queue.answers.map Delivery.ticket := by
  rw [UpdateQueue.finished, List.filter_map, UpdateQueue.answers]
  refine congrArg _ (List.filter_congr fun d hd => ?_)
  cases answer : Outcome.isAnswer d.outcome with
  | false =>
      refine decide_eq_false fun accepted => ?_
      have told : d.ticket ∈ w.queue.told := by
        refine List.mem_filter.mpr ⟨List.mem_map_of_mem (List.mem_filter.mpr ⟨hd, ?_⟩),
          decide_eq_true accepted⟩
        rw [answer]
        rfl
      rw [h.live live] at told
      cases told
  | true =>
      refine decide_eq_true ?_
      obtain ⟨t, -, sent⟩ := h.sent
      have answered : d ∈ w.settled :=
        List.mem_append_left _ (List.mem_filter.mpr ⟨hd, answer⟩)
      refine h.sent_subset ?_
      rw [sent]
      exact List.mem_append_left _ (List.mem_map_of_mem answered)

/-- The octets written are the frames of accepted requests in order, with none left out, as far as
they got. The responses among the octets taken are for the requests sent, each for the one of its
position and as soon as the receiving task looks for a request; what is told to a completion is just
the outcome. One that finds nothing in flight is told to none and fails the queue, unless another
thread does so first. While the queue lives, accepted requests are completed in the order in which
they were accepted; of a failure those in flight are told in order, and so are those not sent, which
come behind them. Each step of the run is one access of one thread. -/
theorem requests_in_order (node : NodeId) (limits : Limits) (stream : Endpoint)
    (run : List Event) :
    let w := (start node limits stream).after run
    let q := w.queue
    let frames := q.sent.flatMap fun s => s.request.frame
    let sent := q.sent.map Submission.ticket
    (q.sent <+: q.accepted ∧ w.written <+: frames ∧
      (q.isTaking = true → w.written ++ q.sending.pending = frames)) ∧
    (w.settled.map (fun d => (d.ticket, d.outcome)) <+:
        sent.zip ((Response.readAll w.taken).map Response.toOutcome) ∧
      ∀ received, q.receiving = .running received → w.IsReading →
        w.settled.length + (w.unmatched.length + (Response.readAll received).length) =
          (Response.readAll w.taken).length) ∧
    (∀ r, w.receiver = .matching r → q.inFlight = [] → ∀ others later : List Event,
      .go .receiver ∉ others →
      let w₁ := (w.step (.go .receiver)).after others
      let w₂ := w₁.step (.go .receiver)
      w₂.queue.failure = some (w₁.queue.failure.getD .unexpectedResponse) ∧
        (w₂.after later).settled = w.settled) ∧
    w.settled.map Delivery.ticket ++ q.toldSent <+: sent ∧
    sent ++ q.toldUnsent <+: q.accepted.map Submission.ticket ∧
    (q.failure = none → q.finished = q.answers.map Delivery.ticket) := by
  intro w q frames sent
  obtain ⟨h, ledger⟩ : w.Faithful ∧ w.Ledger := ledger_after node limits stream run
  obtain ⟨t, -, line⟩ := ledger.sent
  have answered : w.settled.map Delivery.ticket <+: sent := ⟨_, line.symm⟩
  refine ⟨⟨ledger.sent_begins, h.posted.prefix_frames, fun taking => ?_⟩, ⟨?_, ?_⟩, ?_, ?_, ?_,
    ledger.finished_of_live⟩
  · obtain ⟨unsent, octets, whole⟩ := h.posted.octets
    rw [whole taking, List.append_nil] at octets
    exact octets.symm
  · rw [← List.zip_map']
    exact zip_prefix_zip answered h.matched.outcomes (by rw [List.length_map, List.length_map])
  · intro received running reading
    obtain ⟨done, outcomes, all⟩ := h.matched.consumed received running reading
    have count : done.length = w.settled.length := by
      simpa only [List.length_map] using congrArg List.length outcomes
    have whole := all []
    rw [List.append_nil, List.append_nil] at whole
    rw [whole, List.length_append, List.length_append, count]
  · intro r matching empty others later away
    exact h.surplus matching empty away later
  · exact ⟨_, (List.append_assoc _ _ _).trans line.symm⟩
  · obtain ⟨passed, accepted, unsent⟩ := ledger.accepted
    have whole : q.accepted.map Submission.ticket = sent ++ (passed.map Submission.ticket ++
        (w.between ++ w.queue.waiting).map Submission.ticket) := by
      rw [show q.accepted = _ from accepted, List.map_append, List.map_append]
    refine ⟨(w.work .sender).filterMap Act.unsent? ++
      (w.between ++ w.queue.waiting).map Submission.ticket, ?_⟩
    rw [whole, unsent]
    simp only [List.append_assoc]
    rfl

/-- Two requests are sent and answered, and the octet of a third answer has come. -/
def overanswered : List Event :=
  [.call (.ask (.enqueue (.evictObject 1)) (.callback "first" false)),
    .call (.ask (.enqueue (.evictObject 2)) (.callback "second" false))] ++
  List.replicate 5 (.go (.caller 0)) ++ List.replicate 5 (.go (.caller 1)) ++
  List.replicate 8 (.go .sender) ++
  [.peer ⟨⟨64, .ofList [0, 0, 0], false⟩, ⟨64, .ofList [], false⟩, {}, 8⟩] ++
  List.replicate 10 (.go .receiver)

theorem requests_in_order_overanswered :
    let w := (start 7 ⟨4, 4, 3⟩ quiet).after overanswered
    let q := w.queue
    let w₂ := (w.step (.go .receiver)).step (.go .receiver)
    w.written ++ q.sending.pending = q.sent.flatMap (fun s => s.request.frame) ∧
      w.settled.length + (w.unmatched.length + (Response.readAll []).length) =
        (Response.readAll w.taken).length ∧
      (w₂.queue.failure = some .unexpectedResponse ∧
        (w₂.after [.call .shutdown, .go .sender]).settled = w.settled) ∧
      q.finished = q.answers.map Delivery.ticket ∧
      q.finished = [(1, .callback "first" false), (2, .callback "second" false)] := by
  have taking : ((start 7 ⟨4, 4, 3⟩ quiet).after overanswered).queue.isTaking = true := by
    decide +kernel
  have running : ((start 7 ⟨4, 4, 3⟩ quiet).after overanswered).queue.receiving =
      .running [] := by decide +kernel
  have matching : ((start 7 ⟨4, 4, 3⟩ quiet).after overanswered).receiver = .matching .ok :=
    receiver_of_unmatched (by decide +kernel)
  have empty : ((start 7 ⟨4, 4, 3⟩ quiet).after overanswered).queue.inFlight = [] := by
    decide +kernel
  have live : ((start 7 ⟨4, 4, 3⟩ quiet).after overanswered).queue.failure = none := by
    decide +kernel
  obtain ⟨⟨-, -, written⟩, ⟨-, consumed⟩, surplus, -, -, finished⟩ :=
    requests_in_order 7 ⟨4, 4, 3⟩ quiet overanswered
  have reading : ((start 7 ⟨4, 4, 3⟩ quiet).after overanswered).IsReading := by
    rw [IsReading, matching]
    trivial
  obtain ⟨failed, settled⟩ := surplus _ matching empty [] [.call .shutdown, .go .sender]
    List.not_mem_nil
  exact ⟨written taking, consumed [] running reading, ⟨by decide +kernel, settled⟩, finished live,
    by decide +kernel⟩

/-- Two requests are sent and two responses come. The callback of the first one panics. -/
def answeredTwice : List Event :=
  [.call (.ask (.enqueue (.evictObject 1)) (.callback "first" true)),
    .call (.ask (.enqueue (.evictObject 2)) (.callback "second" false))] ++
  List.replicate 5 (.go (.caller 0)) ++ List.replicate 5 (.go (.caller 1)) ++
  List.replicate 8 (.go .sender) ++
  [.peer ⟨⟨64, .ofList [0, 0], false⟩, ⟨64, .ofList [], false⟩, {}, 8⟩] ++
  List.replicate 9 (.go .receiver)

/-- The queue is shut down when one request is in flight and one waits. The sending task goes on
before the drain does. -/
def crossing : List Event :=
  [.call (.ask (.enqueue (.evictObject 1)) (.callback "first" false)),
    .call (.ask (.enqueue (.evictObject 2)) (.callback "second" false)), .call .shutdown] ++
  List.replicate 5 (.go (.caller 0)) ++ List.replicate 5 (.go (.caller 1)) ++
  List.replicate 4 (.go .sender) ++ List.replicate 3 (.go (.caller 2)) ++
  List.replicate 5 (.go .sender) ++ List.replicate 3 (.go (.caller 2))

/-- After a failure a response need not be for its request, and requests that were not sent may be
completed before those in flight. -/
theorem completed_out_of_order :
    (Response.readAll ((start 7 ⟨4, 4, 3⟩ quiet).after answeredTwice).taken = [.ok, .ok] ∧
      ((start 7 ⟨4, 4, 3⟩ quiet).after answeredTwice).queue.sent.map Submission.sequence = [1, 2] ∧
      ((start 7 ⟨4, 4, 3⟩ quiet).after answeredTwice).queue.completed.map
        (fun d => (d.sequence, d.outcome)) =
          [(1, .ok ()), (2, .error (.channel (.completionPanicked 1)))]) ∧
    ((start 7 ⟨4, 4, 3⟩ quiet).after crossing).queue.accepted.map Submission.sequence = [1, 2] ∧
      ((start 7 ⟨4, 4, 3⟩ quiet).after crossing).queue.finished.map Prod.fst = [2, 1] := by
  decide +kernel

end Threads

end CacheCoherence
