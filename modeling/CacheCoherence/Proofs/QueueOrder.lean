import CacheCoherence.Proofs.QueueConservation
import CacheCoherence.Proofs.RequestFormat

/-!
The order of the requests of a queue. They are sent in the order in which they
were accepted, and answered in the order in which they were sent. Completions
add to what is accepted and can make the queue fail; they touch neither what has
been sent, nor what has been answered, nor the two tasks.
-/

namespace CacheCoherence

theorem prefix_concat_of_drop {α : Type} {l m later : List α} {x : α} (h : l <+: m)
    (next : m.drop l.length = x :: later) : l ++ [x] <+: m := by
  obtain ⟨rest, rfl⟩ := h
  rw [List.drop_left] at next
  exact ⟨later, by rw [next, List.append_assoc, List.singleton_append]⟩

/-- Whether the other side of a stream does not keep to the format of the frames, or to one answer
for each request. -/
def ChannelError.isBreach : ChannelError → Bool
  | .unexpectedResponse | .unknownTag _ | .unknownStatus _ | .malformed _ => true
  | .endOfStream _ | .transport _ | .completionPanicked _ | .shutDown _ => false

theorem StreamFault.isBreach_toError (f : StreamFault) (context : String) :
    (f.toError context).isBreach = false := by
  cases f <;> rfl

/-- Whether an outcome comes from the server; what a queue tells by itself is none of these. -/
def Outcome.isAnswer : Outcome → Bool
  | .ok () | .error (.consistency _) | .error (.input (.rejected _)) => true
  | .error _ => false

theorem Response.isAnswer_toOutcome (r : Response) : Outcome.isAnswer r.toOutcome = true := by
  cases r <;> rfl

/-- The request as it went into the queue, if it was accepted. -/
def Enqueued.submission? (c : Enqueued) : Option Submission :=
  match c.answer with
  | .ok _ => some ⟨c.sequence, c.request, c.completion⟩
  | .error _ => none

namespace UpdateQueue

/-- The requests that have been accepted, in order. -/
def accepted (q : UpdateQueue) : List Submission :=
  q.calls.filterMap Enqueued.submission?

/-- The completions that were invoked with an answer of the server, in order. -/
def answers (q : UpdateQueue) : List Delivery :=
  q.completed.filter fun d => Outcome.isAnswer d.outcome

section Calls

variable (q : UpdateQueue) (r : Request) (c : Completion)

theorem refusal?_eq_none {q : UpdateQueue} {r : Request} (h : q.refusal? r = none) :
    r.check q.limits = .ok () ∧ q.failure = none ∧ q.isTaking = true := by
  rw [refusal?] at h
  split at h
  · cases h
  · next checked =>
    split at h
    · cases h
    · next live =>
      split at h
      · next taking => exact ⟨checked, live, taking⟩
      · cases h

theorem isAnswer_of_refusal? {q : UpdateQueue} {r : Request} {e : Error}
    (h : q.refusal? r = some e) : Outcome.isAnswer (.error e) = false := by
  rw [refusal?] at h
  split at h
  · next failed =>
    cases h
    obtain ⟨field, length, limit, rfl⟩ := Request.isLimit_of_check failed
    rfl
  · split at h
    · cases h
      rfl
    · split at h
      · cases h
      · cases h
        rfl

theorem accepted_accept : (q.accept r c).accepted = q.accepted ++ [⟨q.issued + 1, r, c⟩] :=
  List.filterMap_append ..

theorem accepted_refuse (e : Error) : (q.refuse r c e).accepted = q.accepted := by
  change List.filterMap _ (q.calls ++ [_]) = _
  rw [List.filterMap_append]
  exact List.append_nil _

theorem answers_invoke (n : Nat) (o : Outcome) :
    (q.invoke n c o).answers = q.answers ++ if Outcome.isAnswer o then [⟨n, c, o⟩] else [] := by
  change List.filter _ (q.completed ++ [_]) = _
  rw [List.filter_append, List.filter_singleton, Bool.cond_eq_ite]
  rfl

end Calls

theorem sequence_of_submission? {c : Enqueued} {s : Submission} (h : c.submission? = some s) :
    s.sequence = c.sequence := by
  rw [Enqueued.submission?] at h
  split at h <;> cases h
  rfl

/-- Accepted requests have different numbers if all requests have. -/
theorem nodup_accepted {q : UpdateQueue} (distinct : (q.calls.map Enqueued.sequence).Nodup) :
    (q.accepted.map Submission.sequence).Nodup := by
  rw [List.Nodup, List.pairwise_map] at distinct ⊢
  rw [accepted, List.pairwise_filterMap]
  refine distinct.imp fun ne s hs s' hs' => ?_
  rw [sequence_of_submission? hs, sequence_of_submission? hs']
  exact ne

theorem Conserved.nodup_accepted {q : UpdateQueue} (h : Conserved [] q) :
    (q.accepted.map Submission.sequence).Nodup :=
  UpdateQueue.nodup_accepted (h.numbered ▸ List.nodup_range')

/-- What completions leave of a queue `q₀`: the accepted requests have become more, the new ones
wait behind the others, and the queue may have failed. -/
structure Continues (q₀ q : UpdateQueue) : Prop where
  limits : q.limits = q₀.limits
  sent : q.sent = q₀.sent
  answers : q.answers = q₀.answers
  sending : q.sending = q₀.sending
  receiving : q.receiving = q₀.receiving
  accepted : ∃ new, q.accepted = q₀.accepted ++ new ∧ q.waiting = q₀.waiting ++ new ∧
    ∀ s ∈ new, s.request.check q₀.limits = .ok ()
  live : q.failure = none → q₀.failure = none ∧ q.inFlight = q₀.inFlight

theorem continues_refl (q : UpdateQueue) : q.Continues q where
  limits := rfl
  sent := rfl
  answers := rfl
  sending := rfl
  receiving := rfl
  accepted := ⟨[], (List.append_nil _).symm, (List.append_nil _).symm, fun _ h => by cases h⟩
  live h := ⟨h, rfl⟩

theorem Continues.invoke {q₀ q : UpdateQueue} (h : q₀.Continues q) (n : Nat) (c : Completion)
    {o : Outcome} (own : Outcome.isAnswer o = false) : q₀.Continues (q.invoke n c o) where
  limits := h.limits
  sent := h.sent
  answers := by
    rw [answers_invoke, own, h.answers]
    exact List.append_nil _
  sending := h.sending
  receiving := h.receiving
  accepted := h.accepted
  live := h.live

/-- Requests that have been taken out of a queue are completed after it has failed, so with an
error of the queue's own. -/
theorem keeps_continues (q₀ : UpdateQueue) :
    Keeps fun l q => q₀.Continues q ∧ (q.failure = none → l = []) where
  accept {l q} r c h found := by
    obtain ⟨checked, -, -⟩ := refusal?_eq_none found
    obtain ⟨new, accepted, waiting, known⟩ := h.1.accepted
    refine ⟨⟨h.1.limits, h.1.sent, h.1.answers, h.1.sending, h.1.receiving, ?_, h.1.live⟩, h.2⟩
    refine ⟨new ++ [⟨q.issued + 1, r, c⟩], ?_, ?_, ?_⟩
    · rw [accepted_accept, accepted, List.append_assoc]
    · change q.waiting ++ [_] = _
      rw [waiting, List.append_assoc]
    · intro s hs
      rw [List.mem_append, List.mem_singleton] at hs
      cases hs with
      | inl old => exact known s old
      | inr same =>
          subst same
          rw [← h.1.limits]
          exact checked
  refuse {l q} r c e h found := by
    have issued : q₀.Continues (q.issue r c (.error e)) := by
      refine ⟨h.1.limits, h.1.sent, h.1.answers, h.1.sending, h.1.receiving, ?_, h.1.live⟩
      obtain ⟨new, accepted, waiting, known⟩ := h.1.accepted
      refine ⟨new, ?_, waiting, known⟩
      rw [← accepted]
      exact accepted_refuse q r c e
    exact ⟨issued.invoke _ c (isAnswer_of_refusal? found), h.2⟩
  complete {l q} f o h failed := by
    cases found : q.failure with
    | none => cases h.2 found
    | some e =>
        rw [failed e found]
        refine ⟨h.1.invoke _ _ rfl, fun live => ?_⟩
        rw [show q.failure = none from live] at found
        cases found
  close e h _ := by
    refine ⟨⟨h.1.limits, h.1.sent, h.1.answers, h.1.sending, h.1.receiving, h.1.accepted, ?_⟩, ?_⟩
    · intro live
      cases live
    · intro live
      cases live
  report _ h := ⟨⟨h.1.limits, h.1.sent, h.1.answers, h.1.sending, h.1.receiving, h.1.accepted,
    h.1.live⟩, h.2⟩
  record _ h := ⟨⟨h.1.limits, h.1.sent, h.1.answers, h.1.sending, h.1.receiving, h.1.accepted,
    h.1.live⟩, h.2⟩
  release h := ⟨⟨h.1.limits, h.1.sent, h.1.answers, h.1.sending, h.1.receiving, h.1.accepted,
    h.1.live⟩, h.2⟩

theorem continues_fail (q : UpdateQueue) (e : ChannelError) : q.Continues (q.fail e) :=
  ((keeps_continues q).fail [] q e ⟨q.continues_refl, fun _ => rfl⟩).1

theorem continues_react (q : UpdateQueue) (n : Nat) (c : Completion) :
    q.Continues (react fail n c q) :=
  ((keeps_continues q).react (keeps_continues q).fail c [] q n
    ⟨q.continues_refl, fun _ => rfl⟩).1

/-- A sending task that stops takes what waits out of the queue. -/
theorem continues_leave {q : UpdateQueue} (buffered : List UInt8)
    (ended : q.failure = none → q.waiting = []) :
    Continues { q with waiting := [], sending := .closing buffered } (q.leave buffered) := by
  let emptied : UpdateQueue := { q with waiting := [], sending := .closing buffered }
  have opened : q.failure = none → q.waiting.map Submission.toInFlight ++ [] = [] := by
    intro live
    rw [ended live]
    rfl
  exact ((keeps_continues emptied).leave buffered ⟨emptied.continues_refl, opened⟩ ended).1

/-- What is sent is a beginning of what was accepted, and what is answered a beginning of what was
sent; the rest of each waits, or is in flight. -/
structure Ordered (q : UpdateQueue) : Prop where
  checked : ∀ s ∈ q.accepted, s.request.check q.limits = .ok ()
  sent : q.sent <+: q.accepted
  waiting : q.isTaking = true → q.accepted = q.sent ++ q.waiting
  answered : q.answers.map Delivery.ticket <+: q.sent.map Submission.ticket
  flying : q.failure = none →
    q.inFlight = (q.sent.drop q.answers.length).map Submission.toInFlight

theorem ordered_new (node : NodeId) (limits : Limits) : Ordered { node, limits } where
  checked s h := by cases h
  sent := List.nil_prefix
  waiting _ := rfl
  answered := List.nil_prefix
  flying _ := rfl

theorem Continues.ordered {q₀ q : UpdateQueue} (h : q₀.Continues q) (o : q₀.Ordered) :
    q.Ordered := by
  obtain ⟨new, accepted, waiting, known⟩ := h.accepted
  refine ⟨?_, ?_, ?_, ?_, ?_⟩
  · intro s hs
    rw [h.limits]
    rw [accepted, List.mem_append] at hs
    exact hs.elim (o.checked s) (known s)
  · rw [h.sent, accepted]
    exact o.sent.trans (List.prefix_append ..)
  · intro taking
    rw [isTaking, h.sending] at taking
    rw [accepted, waiting, h.sent, o.waiting taking, List.append_assoc]
  · rw [h.answers, h.sent]
    exact o.answered
  · intro live
    obtain ⟨before, flying⟩ := h.live live
    rw [flying, h.sent, h.answers]
    exact o.flying before

theorem Ordered.receiving {q : UpdateQueue} (h : q.Ordered) (receiving : Receiving) :
    Ordered { q with receiving } :=
  ⟨h.checked, h.sent, h.waiting, h.answered, h.flying⟩

theorem Ordered.log {q : UpdateQueue} (h : q.Ordered) (log : List Logging.Event) :
    Ordered { q with log } :=
  ⟨h.checked, h.sent, h.waiting, h.answered, h.flying⟩

theorem Ordered.answers_le {q : UpdateQueue} (h : q.Ordered) :
    q.answers.length ≤ q.sent.length := by
  simpa only [List.length_map] using h.answered.length_le

/-- Whether a queue has not failed by a breach. -/
def Unbroken (q : UpdateQueue) : Prop :=
  ∀ e, q.failure = some e → e.isBreach = false

theorem Unbroken.fail {q : UpdateQueue} (h : q.Unbroken) {e : ChannelError}
    (unbroken : e.isBreach = false) : (q.fail e).Unbroken := by
  intro e' failed
  rw [failure_fail] at failed
  cases before : q.failure with
  | none =>
      rw [before] at failed
      cases failed
      exact unbroken
  | some first =>
      rw [before] at failed
      cases failed
      exact h first before

theorem Unbroken.react {q : UpdateQueue} (h : q.Unbroken) (n : Nat) (c : Completion) :
    (UpdateQueue.react UpdateQueue.fail n c q).Unbroken :=
  react_induction (fun _ _ h _ => h) (fun _ _ _ h _ => h) (fun _ h => h) (fun h => h)
    (fun h => h.fail rfl) (fun _ h => h.fail rfl) c q n h

theorem Unbroken.leave {q : UpdateQueue} (h : q.Unbroken) (buffered : List UInt8)
    (ended : q.failure = none → q.waiting = []) : (q.leave buffered).Unbroken := by
  cases found : q.failure with
  | some e =>
      intro e' failed
      rw [(keeps_failure e).leave (l := []) buffered found ended] at failed
      exact h e' (found.trans failed)
  | none =>
      rw [UpdateQueue.leave, ended found]
      exact h

/-- A response completes the oldest request in flight, which is the first of those that have been
sent and not been answered. -/
theorem Ordered.answer {q : UpdateQueue} (h : q.Ordered) (live : q.failure = none)
    {s : Submission} {later : List Submission} (oldest : q.sent.drop q.answers.length = s :: later)
    {r : Response} (answered : Outcome.isAnswer r.toOutcome = true) (rest : List UInt8) :
    let q' := q.answer r rest
    q'.Ordered ∧ q'.Unbroken ∧ q'.limits = q.limits ∧ q'.sent = q.sent ∧ q'.sending = q.sending ∧
      q'.receiving = .running rest ∧
      q'.answers = q.answers ++ [⟨s.sequence, s.completion, r.toOutcome⟩] := by
  have flying : q.inFlight = s.toInFlight :: later.map Submission.toInFlight := by
    rw [h.flying live, oldest, List.map_cons]
  let q₁ : UpdateQueue := ({ q with
    inFlight := later.map Submission.toInFlight
    receiving := .running rest }.report [q.answeredLog s.toInFlight]).invoke s.sequence s.completion
      r.toOutcome
  have answers : q₁.answers = q.answers ++ [⟨s.sequence, s.completion, r.toOutcome⟩] := by
    rw [answers_invoke, answered]
    rfl
  have ordered : q₁.Ordered := by
    refine ⟨h.checked, h.sent, h.waiting, ?_, fun _ => ?_⟩
    · have next : (q.sent.map Submission.ticket).drop (q.answers.map Delivery.ticket).length =
          s.ticket :: later.map Submission.ticket := by
        rw [List.length_map, ← List.map_drop, oldest, List.map_cons]
      rw [answers, List.map_append]
      exact prefix_concat_of_drop h.answered next
    · change later.map _ = (q.sent.drop q₁.answers.length).map _
      rw [answers, List.length_append, ← List.drop_drop, oldest]
      rfl
  have unbroken : q₁.Unbroken := by
    intro e failed
    rw [show q.failure = some e from failed] at live
    cases live
  have reacted : q.answer r rest =
      UpdateQueue.react UpdateQueue.fail s.sequence s.completion q₁ := by
    rw [UpdateQueue.answer, flying]
    rfl
  have later := q₁.continues_react s.sequence s.completion
  intro q'
  change q' = _ at reacted
  rw [reacted]
  exact ⟨later.ordered ordered, unbroken.react _ _, later.limits, later.sent, later.sending,
    later.receiving, later.answers.trans answers⟩

/-- Octets that the receiving task held before a response do not matter for it. -/
theorem answer_receiving {q : UpdateQueue} (flying : q.inFlight ≠ []) (receiving : Receiving)
    (r : Response) (rest : List UInt8) :
    answer { q with receiving } r rest = q.answer r rest := by
  cases found : q.inFlight with
  | nil => exact absurd found flying
  | cons f inFlight =>
      rw [UpdateQueue.answer, UpdateQueue.answer, found]
      rfl

theorem react_asking (q : UpdateQueue) (a : Ask) (c : Completion) :
    UpdateQueue.react UpdateQueue.fail 0 (.asking a c .ignore) q =
      if q.held then (q.ask a c).1 else q := by
  rw [UpdateQueue.react, ask, enqueue]
  split
  · dsimp only
    cases (q.forgo a).refusal? a.request <;> rfl
  · rfl

theorem exists_submit_eq (q : UpdateQueue) (r : Request) (caller : Nat) :
    ∃ log, q.submit r caller = { (q.ask (.enqueue r) (.notify caller)).1 with log } := by
  change ∃ log, q.submit r caller = { (q.enqueue r (.notify caller)).1 with log }
  rw [submit]
  cases q.enqueue r (.notify caller) with
  | mk q' answer =>
      cases answer with
      | ok n => exact ⟨q'.log, rfl⟩
      | error e => exact ⟨_, rfl⟩

end UpdateQueue

namespace Exchange

/-- The callback that would do what a caller does, if the action is a caller's. -/
def Action.callback? : Action → Option Completion
  | .enqueue r c => some (.asking (.enqueue r) c .ignore)
  | .submit r caller => some (.asking (.enqueue r) (.notify caller) .ignore)
  | .evict k c => some (.asking (.evict k) c .ignore)
  | .downgrade k c => some (.asking (.downgrade k) c .ignore)
  | .shutdown => some (.closing .ignore)
  | .release => some (.releasing .ignore)
  | .send | .receive | .peer _ => none

/-- A caller changes a queue as a callback does that the queue runs, but for what is logged. -/
theorem exists_step_eq {a : Action} {c : Completion} (h : a.callback? = some c) (x : Exchange) :
    ∃ log, x.step a = ⟨{ UpdateQueue.react UpdateQueue.fail 0 c x.queue with log }, x.stream⟩ := by
  have asked : ∀ a c, x.call (fun q => (q.ask a c).1) =
      ⟨UpdateQueue.react UpdateQueue.fail 0 (.asking a c .ignore) x.queue, x.stream⟩ := by
    intro a c
    rw [UpdateQueue.react_asking, call]
    split <;> rfl
  cases a with
  | enqueue r c =>
      cases h
      exact ⟨_, asked (.enqueue r) c⟩
  | evict k c =>
      cases h
      exact ⟨_, asked (.evict k) c⟩
  | downgrade k c =>
      cases h
      exact ⟨_, asked (.downgrade k) c⟩
  | submit r caller =>
      cases h
      rw [UpdateQueue.react_asking, step, call]
      split
      · obtain ⟨log, eq⟩ := x.queue.exists_submit_eq r caller
        exact ⟨log, by rw [eq]⟩
      · exact ⟨x.queue.log, rfl⟩
  | shutdown =>
      cases h
      rw [step, call, UpdateQueue.react]
      split
      · exact ⟨_, rfl⟩
      · exact ⟨x.queue.log, rfl⟩
  | release =>
      cases h
      rw [step, call, UpdateQueue.react]
      split
      · exact ⟨_, rfl⟩
      · next free =>
        have same : x.queue.release = x.queue := by
          rw [UpdateQueue.release, ← eq_false_of_ne_true free]
        exact ⟨x.queue.log, congrArg (Exchange.mk · x.stream) same.symm⟩
  | send | receive | peer _ => cases h

end Exchange

end CacheCoherence
