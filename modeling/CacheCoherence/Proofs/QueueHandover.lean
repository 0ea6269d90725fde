import CacheCoherence.Proofs.QueueOrder

/-!
The sending task takes a request and notes it as in flight. Seen as two steps,
anything may come between them: calls, responses, a failure. It makes no
difference, since nobody but the task looks at the requests that wait. What
comes of it comes as well of a run in which the request waits until it is noted.
-/

namespace CacheCoherence

namespace UpdateQueue

/-- The queue with requests put in front of those that wait, and its sending task at another
point. -/
def putBack (q : UpdateQueue) (front : List Submission) (sending : Sending) : UpdateQueue :=
  { q with waiting := front ++ q.waiting, sending }

/-- Nobody sees whether the sending task is at this point: it is, or the queue has failed. -/
def Unseen (sending : Sending) (q : UpdateQueue) : Prop :=
  q.failure = none → q.sending = sending

theorem keeps_unseen (sending : Sending) : Keeps fun _ => Unseen sending where
  accept _ _ h _ := h
  refuse _ _ _ h _ := h
  complete _ _ h _ := h
  close _ _ _ := nofun
  report _ h := h
  record _ h := h
  release h := h

section PutBack

variable {q : UpdateQueue} {sending : Sending} (front : List Submission)

theorem refusal?_putBack (h : q.Unseen sending) (r : Request) :
    (q.putBack front sending).refusal? r = q.refusal? r := by
  rw [refusal?, refusal?]
  cases found : q.failure with
  | some e =>
      rw [show (q.putBack front sending).failure = some e from found]
      rfl
  | none =>
      rw [show (q.putBack front sending).failure = none from found, isTaking, isTaking, h found]
      rfl

theorem forgo_putBack (a : Ask) :
    (q.putBack front sending).forgo a = (q.forgo a).putBack front sending := by
  cases a <;> rfl

theorem accept_putBack (r : Request) (c : Completion) :
    (q.putBack front sending).accept r c = (q.accept r c).putBack front sending := by
  simp only [accept, putBack, issue, report, enqueuedLog, nodeField, List.append_assoc]

theorem react_putBack {fail : UpdateQueue → ChannelError → UpdateQueue}
    (fails : ∀ {q} e, q.Unseen sending →
      fail (q.putBack front sending) e = (fail q e).putBack front sending)
    (kept : ∀ {q} e, q.Unseen sending → (fail q e).Unseen sending) (c : Completion) (n : Nat)
    (h : q.Unseen sending) :
    react fail n c (q.putBack front sending) = (react fail n c q).putBack front sending := by
  induction c generalizing q n with
  | ignore | notify _ => rfl
  | callback name panics =>
      rw [react, react]
      split
      · exact fails _ h
      · rfl
  | asking a c later ihc ih =>
      have given : (q.forgo a).Unseen sending := (keeps_unseen sending).forgo (l := []) a h
      rw [react, react]
      by_cases held : q.held = true
      · rw [if_pos held, if_pos (show (q.putBack front sending).held = true from held)]
        dsimp only
        rw [forgo_putBack, refusal?_putBack _ given]
        cases found : (q.forgo a).refusal? a.request with
        | none =>
            dsimp only
            rw [accept_putBack]
            exact ih n ((keeps_unseen sending).accept (l := []) _ c given found)
        | some e =>
            have refused := (keeps_unseen sending).refuse (l := []) _ c e given found
            have told := (keeps_unseen sending).react (fun _ _ e => kept e) c [] _
              ((q.forgo a).issued + 1) refused
            exact (congrArg (react fail n later) (ihc _ refused)).trans (ih n told)
      · rw [if_neg held, if_neg (show ¬(q.putBack front sending).held = true from held)]
        exact ih n h
  | closing later ih =>
      rw [react, react]
      by_cases held : q.held = true
      · rw [if_pos held, if_pos (show (q.putBack front sending).held = true from held), fails _ h]
        exact ih n (kept _ h)
      · rw [if_neg held, if_neg (show ¬(q.putBack front sending).held = true from held)]
        exact ih n h
  | releasing later ih =>
      rw [react, react]
      exact ih n ((keeps_unseen sending).release (l := []) h)
  | recording holdings later ih =>
      rw [react, react]
      by_cases held : q.held = true
      · rw [if_pos held, if_pos (show (q.putBack front sending).held = true from held)]
        exact ih n ((keeps_unseen sending).record (l := []) holdings h)
      · rw [if_neg held, if_neg (show ¬(q.putBack front sending).held = true from held)]
        exact ih n h

theorem abandon_putBack (e : ChannelError) (f : InFlight) (h : q.Unseen sending) :
    abandon e (q.putBack front sending) f = (abandon e q f).putBack front sending := by
  let told := q.invoke f.sequence f.completion (.error (.channel e))
  have reacted : react (fun q _ => q) f.sequence f.completion (told.putBack front sending) =
      (react (fun q _ => q) f.sequence f.completion told).putBack front sending :=
    react_putBack front (fun _ _ => rfl) (fun _ h => h) f.completion f.sequence h
  rw [abandon, abandon]
  split
  · exact congrArg (fun q => report q [q.panicLog f]) reacted
  · exact reacted

theorem abandonAll_putBack (e : ChannelError) (pending : List InFlight) (h : q.Unseen sending)
    (failed : q.failure = some e) :
    pending.foldl (abandon e) (q.putBack front sending) =
      (pending.foldl (abandon e) q).putBack front sending := by
  induction pending generalizing q with
  | nil => rfl
  | cons f rest ih =>
      rw [List.foldl_cons, List.foldl_cons, abandon_putBack front e f h]
      have still := (keeps_failure e).abandon (l := []) f failed failed
      refine ih (fun live => ?_) still
      exact absurd (live.symm.trans still) nofun

/-- A queue that fails does not look at its sending task, wherever that is. -/
theorem fail_putBack (e : ChannelError) :
    (q.putBack front sending).fail e = (q.fail e).putBack front sending := by
  rw [fail, fail]
  cases found : q.failure with
  | some first =>
      rw [show (q.putBack front sending).failure = some first from found]
  | none =>
      rw [show (q.putBack front sending).failure = none from found]
      have closed : (q.close e).Unseen sending := fun live => absurd live (Option.some_ne_none e)
      exact abandonAll_putBack front e q.inFlight closed rfl

theorem unseen_fail (e : ChannelError) (h : q.Unseen sending) : (q.fail e).Unseen sending :=
  (keeps_unseen sending).fail [] q e h

theorem deliver_putBack (n : Nat) (c : Completion) (o : Outcome) (h : q.Unseen sending) :
    (q.putBack front sending).deliver n c o = (q.deliver n c o).putBack front sending :=
  react_putBack (q := q.invoke n c o) front (fun e _ => fail_putBack front e) unseen_fail c n h

theorem enqueue_putBack (r : Request) (c : Completion) (h : q.Unseen sending) :
    (q.putBack front sending).enqueue r c =
      ((q.enqueue r c).1.putBack front sending, (q.enqueue r c).2) := by
  rw [enqueue, enqueue, refusal?_putBack front h]
  cases found : q.refusal? r with
  | none => exact congrArg (·, _) (accept_putBack front r c)
  | some e =>
      have refused := (keeps_unseen sending).refuse (l := []) r c e h found
      have reacted := react_putBack front (fun e _ => fail_putBack front e) unseen_fail c
        (q.issued + 1) refused
      exact congrArg (·, _) reacted

theorem ask_putBack (a : Ask) (c : Completion) (h : q.Unseen sending) :
    (q.putBack front sending).ask a c =
      ((q.ask a c).1.putBack front sending, (q.ask a c).2) := by
  rw [ask, ask, forgo_putBack]
  exact enqueue_putBack front _ c ((keeps_unseen sending).forgo (l := []) a h)

theorem submit_putBack (r : Request) (caller : Nat) (h : q.Unseen sending) :
    (q.putBack front sending).submit r caller = (q.submit r caller).putBack front sending := by
  rw [submit, submit, enqueue_putBack front r _ h]
  cases q.enqueue r (.notify caller) with
  | mk q' answer => cases answer <;> rfl

theorem failReceiving_putBack (e : ChannelError) :
    (q.putBack front sending).failReceiving e = (q.failReceiving e).putBack front sending := by
  rw [failReceiving, failReceiving, fail_putBack front e]
  rfl

theorem answer_putBack (r : Response) (rest : List UInt8) (h : q.Unseen sending) :
    (q.putBack front sending).answer r rest = (q.answer r rest).putBack front sending := by
  rw [answer, answer]
  cases found : q.inFlight with
  | nil =>
      rw [show (q.putBack front sending).inFlight = [] from found]
      exact failReceiving_putBack front _
  | cons f inFlight =>
      rw [show (q.putBack front sending).inFlight = f :: inFlight from found]
      let q₁ : UpdateQueue :=
        { q with inFlight, receiving := .running rest }.report [q.answeredLog f]
      exact deliver_putBack (q := q₁) front f.sequence f.completion r.toOutcome h

theorem collect_putBack {received : List UInt8} {context : String} {missing : Nat}
    {atEnd : ChannelError} (stream : Endpoint) (h : q.Unseen sending) :
    (q.putBack front sending).collect stream received context missing atEnd =
      (q.collect stream received context missing atEnd).map fun r =>
        (r.1.putBack front sending, r.2) := by
  rw [collect, collect]
  cases stream.readAhead missing with
  | failed f => exact congrArg (fun p => some (p, stream)) (failReceiving_putBack front _)
  | waiting => rfl
  | ended => exact congrArg (fun p => some (p, stream)) (failReceiving_putBack front _)
  | got after bytes =>
      dsimp only
      cases Response.read.arrival (received ++ bytes) with
      | frame r rest => exact congrArg (fun p => some (p, after)) (answer_putBack front r rest h)
      | nothing | begun _ _ => rfl
      | refused e => exact congrArg (fun p => some (p, after)) (failReceiving_putBack front e)

theorem receive_putBack (stream : Endpoint) (h : q.Unseen sending) :
    (q.putBack front sending).receive stream =
      (q.receive stream).map fun r => (r.1.putBack front sending, r.2) := by
  rw [receive, receive, show (q.putBack front sending).receiving = q.receiving from rfl,
    show (q.putBack front sending).failure = q.failure from rfl]
  split
  · rfl
  · rfl
  · split
    · rfl
    · split
      · exact congrArg (fun p => some (p, stream)) (answer_putBack front _ _ h)
      · exact collect_putBack front stream h
      · exact collect_putBack front stream h
      · exact congrArg (fun p => some (p, stream)) (failReceiving_putBack front _)

end PutBack

/-- The sending task notes a request that it has taken and begins its frame, or meets a failure. -/
def note (q : UpdateQueue) (s : Submission) : UpdateQueue :=
  match q.launch s with
  | (q, true) =>
    let frame := s.request.frame
    { q with sending :=
      if isShorter frame bufferSize then .writing [] frame else .writing frame [] }
  | (q, false) => q.leave []

/-- Taking a request that is noted at once is a step of the sending task. -/
theorem take_eq_note {q : UpdateQueue} {s : Submission} {waiting : List Submission}
    (live : q.failure = none) (first : q.waiting = s :: waiting) :
    q.take = some (note { q with waiting } s) := by
  rw [take, live, first]
  dsimp only
  rw [note]
  cases launch { q with waiting } s with
  | mk q' launched => cases launched <;> rfl

theorem keeps_emptied (e : ChannelError) (sending : Sending) :
    Keeps fun _ q => q.failure = some e ∧ q.waiting = [] ∧ q.sending = sending where
  accept _ _ h accepted := absurd (h.1.symm.trans (refusal?_eq_none accepted).2.1) nofun
  refuse _ _ _ h _ := h
  complete _ _ h _ := h
  close _ h live := absurd (h.1.symm.trans live) nofun
  report _ h := h
  record _ h := h
  release h := h

/-- A request that is met by a failure before it is noted is told of it before those behind it. -/
theorem note_of_failed {q : UpdateQueue} {e : ChannelError} (failed : q.failure = some e)
    (idle : q.sending = .idle) (s : Submission) : q.note s = (q.putBack [s] .idle).leave [] := by
  let emptied : UpdateQueue := { q with waiting := [], sending := .closing [] }
  let told := emptied.deliver s.sequence s.completion (.error (.channel e))
  have unseen : emptied.Unseen .idle := fun live => absurd (live.symm.trans failed) nofun
  obtain ⟨failed', waiting, sending⟩ : told.failure = some e ∧ told.waiting = [] ∧
      told.sending = .closing [] := by
    refine (keeps_emptied e (.closing [])).deliver (l := []) s.toInFlight _ ⟨failed, rfl, rfl⟩ ?_
    intro e' found
    cases failed.symm.trans found
    rfl
  have launched : q.launch s = (told.putBack q.waiting .idle, false) := by
    have put : q = emptied.putBack q.waiting .idle := by
      rw [putBack, List.append_nil, ← idle]
    have delivered := deliver_putBack q.waiting s.sequence s.completion
      (.error (.channel e)) unseen
    rw [← put] at delivered
    rw [launch, failed]
    exact congrArg (·, false) delivered
  have back :
      { told.putBack q.waiting .idle with waiting := [], sending := .closing [] } = told := by
    rw [putBack, ← waiting, ← sending]
  rw [note, launched]
  dsimp only
  rw [leave_of_failed (q := told.putBack q.waiting .idle) failed',
    leave_of_failed (q := q.putBack [s] .idle) failed, back,
    show (told.putBack q.waiting .idle).waiting = q.waiting ++ told.waiting from rfl, waiting,
    List.append_nil]
  rfl

theorem take_putBack {q : UpdateQueue} (idle : q.sending = .idle) (s : Submission) :
    (q.putBack [s] .idle).take = some (q.note s) := by
  cases found : q.failure with
  | none =>
      have back : { q.putBack [s] .idle with waiting := q.waiting } = q := by
        rw [putBack, ← idle]
      have taken : (q.putBack [s] .idle).take = some (note { q.putBack [s] .idle with
          waiting := q.waiting } s) := take_eq_note found rfl
      exact taken.trans (congrArg (fun q => some (note q s)) back)
  | some e =>
      rw [take, show (q.putBack [s] .idle).failure = some e from found, note_of_failed found idle]

theorem send_putBack {q : UpdateQueue} (idle : q.sending = .idle) (s : Submission)
    (stream : Endpoint) :
    (q.putBack [s] .idle).send stream =
      if q.failure.isNone && stream.allowance = 0 then none else some (q.note s, stream.spend) := by
  rw [send, show (q.putBack [s] .idle).sending = .idle from rfl, take_putBack idle]
  rfl

end UpdateQueue

namespace Exchange

open UpdateQueue

/-- The exchange as it would be if a request that has been taken were still waiting. -/
def putBack (x : Exchange) (s : Submission) : Exchange :=
  { x with queue := x.queue.putBack [s] .idle }

variable {x : Exchange}

theorem call_putBack {f : UpdateQueue → UpdateQueue} {s : Submission}
    (same : f (x.queue.putBack [s] .idle) = (f x.queue).putBack [s] .idle) :
    (x.putBack s).call f = (x.call f).putBack s := by
  rw [call, call, show (x.putBack s).queue.held = x.queue.held from rfl]
  split
  · exact congrArg (Exchange.mk · x.stream) same
  · rfl

/-- The callers, the receiving task and the other side do not see that a request is taken. -/
theorem step_putBack {a : Action} (unseen : x.queue.Unseen .idle) (other : a ≠ .send)
    (s : Submission) : (x.putBack s).step a = (x.step a).putBack s := by
  cases a with
  | send => exact absurd rfl other
  | enqueue r c =>
      have asked := enqueue_putBack [s] r c unseen
      exact call_putBack (f := fun q => (q.enqueue r c).1) (congrArg Prod.fst asked)
  | submit r caller =>
      exact call_putBack (f := fun q => q.submit r caller) (submit_putBack [s] r caller unseen)
  | evict k c =>
      have asked := ask_putBack [s] (.evict k) c unseen
      exact call_putBack (f := fun q => (q.evict k c).1) (congrArg Prod.fst asked)
  | downgrade k c =>
      have asked := ask_putBack [s] (.downgrade k) c unseen
      exact call_putBack (f := fun q => (q.downgrade k c).1) (congrArg Prod.fst asked)
  | shutdown => exact call_putBack (f := UpdateQueue.shutdown) (fail_putBack [s] _)
  | release => exact call_putBack (f := UpdateQueue.release) rfl
  | receive =>
      have received := receive_putBack [s] x.stream unseen
      rw [step, advance, putBack, received, step, advance]
      cases x.queue.receive x.stream <;> rfl
  | peer stream => rfl

theorem sending_step {a : Action} (other : a ≠ .send) :
    (x.step a).queue.sending = x.queue.sending := by
  have called : ∀ c, a.callback? = some c → (x.step a).queue.sending = x.queue.sending := by
    intro c callback
    obtain ⟨log, eq⟩ := exists_step_eq callback x
    rw [eq]
    exact (x.queue.continues_react 0 c).sending
  cases a with
  | send => exact absurd rfl other
  | enqueue _ _ | submit _ _ | evict _ _ | downgrade _ _ | shutdown | release =>
      exact called _ rfl
  | peer stream => rfl
  | receive =>
      refine advance_keeps (P := fun _ q => q.sending = x.queue.sending) rfl ?_
      intro q stream found
      cases receiveStep_of_receive found with
      | wait receiving => rfl
      | fail e outer => exact (x.queue.continues_fail e).sending
      | answer f inFlight r rest live oldest =>
          exact (continues_react _ f.sequence f.completion).sending

end Exchange

/-- An exchange seen also between the taking of a request and the noting of it. -/
structure Handover where
  exchange : Exchange
  /-- A request that the sending task has taken and not noted yet. -/
  taken : Option Submission := none

namespace Handover

open UpdateQueue

inductive Action where
  /-- The sending task takes the first request that waits. -/
  | take
  /-- Any other step; the one of the sending task notes a request that it has taken. -/
  | other (a : Exchange.Action)

def start (node : NodeId) (limits : Limits) (stream : Endpoint) : Handover :=
  { exchange := .start node limits stream }

def take (h : Handover) : Handover :=
  let q := h.exchange.queue
  match h.taken, q.sending, q.failure, q.waiting with
  | none, .idle, none, s :: waiting =>
    { exchange := { h.exchange with queue := { q with waiting } }, taken := some s }
  | _, _, _, _ => h

def step (h : Handover) : Action → Handover
  | .take => h.take
  | .other .send =>
    match h.taken with
    | none => { h with exchange := h.exchange.step .send }
    | some s =>
      let x := h.exchange
      if x.queue.failure.isNone && x.stream.allowance = 0 then h
      else { exchange := ⟨x.queue.note s, x.stream.spend⟩ }
  | .other a => { h with exchange := h.exchange.step a }

def after (h : Handover) (run : List Action) : Handover :=
  run.foldl step h

/-- The exchange as if nothing had been taken that is not noted. -/
def view (h : Handover) : Exchange :=
  match h.taken with
  | none => h.exchange
  | some s => h.exchange.putBack s

/-- A task that has taken a request does nothing else until it has noted it. -/
def Poised (h : Handover) : Prop :=
  h.taken ≠ none → h.exchange.queue.sending = .idle

section Step

variable {h : Handover}

theorem view_of_none (none : h.taken = none) : h.view = h.exchange := by
  rw [view, none]

theorem view_of_some {s : Submission} (taken : h.taken = some s) :
    h.view = h.exchange.putBack s := by
  rw [view, taken]

theorem view_take : h.take.view = h.view := by
  rw [take]
  split
  · next s waiting none idle live first =>
    rw [view_of_none none, view_of_some (s := s) rfl]
    refine congrArg (Exchange.mk · h.exchange.stream) ?_
    rw [UpdateQueue.putBack, ← idle]
    dsimp only
    rw [List.singleton_append, ← first]
  · rfl

theorem poised_take (poised : h.Poised) : h.take.Poised := by
  rw [take]
  split
  · next idle _ _ => exact fun _ => idle
  · exact poised

/-- Noting a request that has been taken is the step of the sending task that would take it. -/
theorem view_note (poised : h.Poised) : (h.step (.other .send)).view = h.view.step .send := by
  cases taken : h.taken with
  | none =>
      rw [view_of_none taken]
      simp only [step, taken, view]
  | some s =>
      have idle := poised (by rw [taken]; nofun)
      rw [view_of_some taken, step, taken]
      dsimp only
      rw [Exchange.step, Exchange.advance, Exchange.putBack, send_putBack idle]
      by_cases spent :
          (h.exchange.queue.failure.isNone && h.exchange.stream.allowance = 0 : Bool) = true
      · rw [if_pos spent, if_pos spent]
        exact view_of_some taken
      · rw [if_neg spent, if_neg spent]
        rfl

theorem step_other {a : Exchange.Action} (other : a ≠ .send) :
    h.step (.other a) = { h with exchange := h.exchange.step a } := by
  cases a with
  | send => exact absurd rfl other
  | enqueue _ _ | submit _ _ | evict _ _ | downgrade _ _ | shutdown | release | receive
    | peer _ => rfl

/-- A step of another party does the same whether a request is taken or still waits. -/
theorem view_other {a : Exchange.Action} (poised : h.Poised) (other : a ≠ .send) :
    (h.step (.other a)).view = h.view.step a := by
  rw [step_other other, view, view]
  cases taken : h.taken with
  | none => rfl
  | some s =>
      have unseen : h.exchange.queue.Unseen .idle := fun _ => poised (by rw [taken]; nofun)
      exact (Exchange.step_putBack unseen other s).symm

theorem poised_step (poised : h.Poised) (a : Action) : (h.step a).Poised := by
  cases a with
  | take => exact poised_take poised
  | other a =>
      by_cases sends : a = .send
      · subst sends
        rw [step]
        cases taken : h.taken with
        | none => exact fun some => absurd rfl some
        | some s =>
            dsimp only
            split
            · exact poised
            · exact fun some => absurd rfl some
      · rw [step_other sends]
        intro some
        exact (Exchange.sending_step sends).trans (poised some)

theorem view_step (poised : h.Poised) (a : Action) :
    (h.step a).view = match a with
      | .take => h.view
      | .other a => h.view.step a := by
  cases a with
  | take => exact view_take
  | other a =>
      by_cases sends : a = .send
      · subst sends
        exact view_note poised
      · exact view_other poised sends

end Step

/-- The step of a run in which a request is taken and noted at once. -/
def Action.other? : Action → Option Exchange.Action
  | .take => none
  | .other a => some a

/-- Taking a request and noting it later comes to the same as taking it when it is noted. -/
theorem view_after {h : Handover} (poised : h.Poised) (run : List Action) :
    (h.after run).view = h.view.after (run.filterMap Action.other?) := by
  induction run generalizing h with
  | nil => rfl
  | cons a rest ih =>
      have stepped := view_step poised a
      rw [after, List.foldl_cons, ← after, ih (poised_step poised a), stepped]
      cases a <;> rfl

theorem poised_after {h : Handover} (poised : h.Poised) (run : List Action) :
    (h.after run).Poised := by
  induction run generalizing h with
  | nil => exact poised
  | cons a rest ih => exact ih (poised_step poised a)

/-- What is taken and not noted shows among the requests that wait, and nowhere else. -/
theorem exists_view_eq {h : Handover} (poised : h.Poised) : ∃ front,
    h.view = ⟨h.exchange.queue.putBack front h.exchange.queue.sending, h.exchange.stream⟩ := by
  cases taken : h.taken with
  | none =>
      rw [view_of_none taken]
      exact ⟨[], rfl⟩
  | some s =>
      rw [view_of_some taken, poised (by rw [taken]; nofun)]
      exact ⟨[s], rfl⟩

theorem stream_view (h : Handover) : h.view.stream = h.exchange.stream := by
  rw [view]
  cases h.taken <;> rfl

theorem poised_start (node : NodeId) (limits : Limits) (stream : Endpoint) :
    (start node limits stream).Poised :=
  fun some => absurd rfl some

end Handover

end CacheCoherence
