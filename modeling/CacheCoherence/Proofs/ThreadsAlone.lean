import CacheCoherence.Proofs.QueueHandover
import CacheCoherence.Proofs.QueueTurns
import CacheCoherence.Proofs.ThreadSteps

/-!
A thread that the others leave alone. Access by access it comes to what the
queue does in one piece, and when it is through, every thread is where it can
begin again. So what a queue comes to step by step, it comes to among threads as
well.
-/

namespace CacheCoherence

namespace UpdateQueue

/-- What a queue and the signal to stop come to when some acts are done, with all that follows from
them. -/
inductive Does : UpdateQueue × Bool → List Act → UpdateQueue × Bool → Prop where
  | done (s : UpdateQueue × Bool) : Does s [] s
  | act {q : UpdateQueue} {signalled : Bool} {a : Act} {rest : List Act}
      {s : UpdateQueue × Bool}
      (later : Does ((q.perform a).1, signalled || a.isSignal) ((q.perform a).2 ++ rest) s) :
      Does (q, signalled) (a :: rest) s

theorem Does.append {s s' s'' : UpdateQueue × Bool} {acts more : List Act} (h : Does s acts s')
    (h' : Does s' more s'') : Does s (acts ++ more) s'' := by
  induction h with
  | done s => exact h'
  | act later ih =>
      refine .act ?_
      rw [List.append_eq, ← List.append_assoc]
      exact ih h'

/-- The acts lead from one queue to another, with the tasks told to stop once the queue has
failed. -/
def Leads (q : UpdateQueue) (acts : List Act) (q' : UpdateQueue) : Prop :=
  Does (q, q.failure.isSome) acts (q', q'.failure.isSome)

theorem leads_nil (q : UpdateQueue) : q.Leads [] q :=
  .done _

section Leads

variable {q q' next : UpdateQueue} {a : Act}

theorem Leads.append {acts more : List Act} (h : q.Leads acts next) (h' : next.Leads more q') :
    q.Leads (acts ++ more) q' :=
  Does.append h h'

/-- An act that neither is the signal to stop nor calls for it comes before what follows from it. -/
theorem Leads.act {acts : List Act} (performed : q.perform a = (next, acts))
    (same : next.failure = q.failure) (other : a.isSignal = false)
    (later : next.Leads acts q') : q.Leads [a] q' := by
  refine Does.act ?_
  rw [performed, other, Bool.or_false, List.append_nil, ← same]
  exact later

/-- An act from which nothing follows. -/
theorem Leads.only (performed : q.perform a = (next, [])) (same : next.failure = q.failure)
    (other : a.isSignal = false) : q.Leads [a] next :=
  .act performed same other (leads_nil next)

end Leads

/-- A way in which a queue fails while completions run that comes to the acts of failing. -/
structure Fails (P : UpdateQueue → Prop) (fail : UpdateQueue → ChannelError → UpdateQueue) :
    Prop where
  keeps : Keeps fun _ => P
  kept : ∀ {q} e, P q → P (fail q e)
  leads : ∀ {q} e, P q → q.Leads [.fail e] (fail q e)

section React

variable {P : UpdateQueue → Prop} {fail : UpdateQueue → ChannelError → UpdateQueue}
  {q q' : UpdateQueue}

/-- What a completion does comes to its calls, and to a failure if it panics. -/
theorem Fails.leads_acts (w : Fails P fail) {c : Completion} {n : Nat}
    (h : ∃ q', P q' ∧ q.Leads c.calls q' ∧
      react fail n c q = if c.panics then fail q' (.completionPanicked n) else q') :
    q.Leads (c.acts n) (react fail n c q) := by
  obtain ⟨q', kept, called, eq⟩ := h
  rw [eq, Completion.acts]
  refine called.append ?_
  split
  · exact w.leads _ kept
  · exact leads_nil q'

/-- The request that is numbered next is refused. -/
theorem leads_refuse {r : Request} {c : Completion} {e : Error}
    (told : (q.refuse r c e).Leads (c.acts (q.issued + 1)) q') :
    UpdateQueue.Leads { q with issued := q.issued + 1 } [.refuse ⟨q.issued + 1, r, c⟩ e] q' :=
  .act rfl rfl rfl told

/-- A request that is handed in goes into the channel, or is refused for the reason there is. -/
theorem leads_number (failing : UpdateQueue → ChannelError → UpdateQueue) {r : Request}
    {c : Completion}
    (told : ∀ e, q.refusal? r = some e →
      (q.refuse r c e).Leads (c.acts (q.issued + 1))
        (react failing (q.issued + 1) c (q.refuse r c e))) :
    q.Leads [.number r c] (match q.refusal? r with
      | none => q.accept r c
      | some e => react failing (q.issued + 1) c (q.refuse r c e)) := by
  let numbered : UpdateQueue := { q with issued := q.issued + 1 }
  let s : Submission := ⟨q.issued + 1, r, c⟩
  have refused : ∀ {e}, q.refusal? r = some e → numbered.Leads [.refuse s e]
      (match q.refusal? r with
      | none => q.accept r c
      | some e => react failing (q.issued + 1) c (q.refuse r c e)) := by
    intro e found
    rw [found]
    exact leads_refuse (told e found)
  cases check : r.check q.limits with
  | error e =>
      have counted : q.perform (.number r c) = (numbered, [.refuse s (.input e)]) := by
        rw [perform, check]
      exact .act counted rfl rfl (refused (by rw [refusal?, check]))
  | ok _ =>
      have counted : q.perform (.number r c) = (numbered, [.look s]) := by rw [perform, check]
      refine .act counted rfl rfl ?_
      cases failed : q.failure with
      | some e =>
          have looked : numbered.perform (.look s) = (numbered, [.refuse s (.channel e)]) := by
            rw [perform, show numbered.failure = some e from failed]
          exact .act looked rfl rfl (refused (by rw [refusal?, check, failed]))
      | none =>
          have looked : numbered.perform (.look s) = (numbered, [.hand s]) := by
            rw [perform, show numbered.failure = none from failed]
          refine .act looked rfl rfl ?_
          by_cases taking : q.isTaking = true
          · have accepted : q.refusal? r = none := by
              rw [refusal?, check, failed]
              exact if_pos taking
            rw [accepted]
            exact .act (if_pos taking) rfl rfl (.only rfl rfl rfl)
          · have excused : numbered.perform (.excuse s) = (numbered, [.refuse s
                (.channel (.shutDown "update queue writer stopped"))]) := by
              rw [perform, show numbered.failure = none from failed]
              rfl
            refine .act (if_neg taking) rfl rfl (.act excused rfl rfl (refused ?_))
            rw [refusal?, check, failed]
            exact if_neg taking

theorem failure_forgo (q : UpdateQueue) (a : Ask) : (q.forgo a).failure = q.failure := by
  cases a <;> rfl

/-- A call begins by giving up a key, and nothing comes of it once nobody has the queue. -/
theorem leads_begin {a : Ask} {c : Completion} (held : q.held = true)
    (later : (q.forgo a).Leads [.number a.request c] q') : q.Leads [.ask a c] q' :=
  .act (if_pos held) (q.failure_forgo a) rfl later

theorem leads_close (held : q.held = true) (failed : q.Leads [.fail shutDownByNode] q') :
    q.Leads [.shutdown] q' :=
  .act (congrArg (q, ·) (if_pos held)) rfl rfl failed

theorem leads_release (q : UpdateQueue) : q.Leads [.release] q.release :=
  .only rfl rfl rfl

/-- What completions do when they are invoked is what their calls lead to, one after the other. -/
theorem Fails.exists_leads_calls (w : Fails P fail) (c : Completion) (n : Nat) (h : P q) :
    ∃ q', P q' ∧ q.Leads c.calls q' ∧
      react fail n c q = if c.panics then fail q' (.completionPanicked n) else q' := by
  induction c generalizing q n with
  | ignore | notify _ | callback _ _ => exact ⟨q, h, leads_nil q, rfl⟩
  | asking a c later ihc ih =>
      rw [react]
      by_cases held : q.held = true
      · rw [if_pos held]
        have given : P (q.forgo a) := w.keeps.forgo (l := []) a h
        have asked := leads_begin held (leads_number fail (c := c) fun e found =>
          w.leads_acts (ihc _ (w.keeps.refuse (l := []) a.request c e given found)))
        have kept : P (match (q.forgo a).refusal? a.request with
            | none => (q.forgo a).accept a.request c
            | some e =>
                react fail ((q.forgo a).issued + 1) c ((q.forgo a).refuse a.request c e)) := by
          cases found : (q.forgo a).refusal? a.request with
          | none => exact w.keeps.accept (l := []) _ c given found
          | some e =>
              have refused := w.keeps.refuse (l := []) a.request c e given found
              exact w.keeps.react (fun _ _ => w.kept) c [] _ _ refused
        obtain ⟨q', kept, called, eq⟩ := ih n kept
        exact ⟨q', kept, asked.append called, eq⟩
      · rw [if_neg held]
        have refused : q.perform (.ask a c) = (q, []) := if_neg held
        obtain ⟨q', kept, called, eq⟩ := ih n h
        exact ⟨q', kept, (Leads.only refused rfl rfl).append called, eq⟩
  | closing later ih =>
      rw [react]
      by_cases held : q.held = true
      · rw [if_pos held]
        obtain ⟨q', kept, called, eq⟩ := ih n (w.kept shutDownByNode h)
        exact ⟨q', kept, (leads_close held (w.leads _ h)).append called, eq⟩
      · rw [if_neg held]
        have refused : q.perform .shutdown = (q, []) := congrArg (q, ·) (if_neg held)
        obtain ⟨q', kept, called, eq⟩ := ih n h
        exact ⟨q', kept, (Leads.only refused rfl rfl).append called, eq⟩
  | releasing later ih =>
      obtain ⟨q', kept, called, eq⟩ := ih n (w.keeps.release (l := []) h)
      exact ⟨q', kept, q.leads_release.append called, eq⟩
  | recording holdings later ih =>
      have begun : q.Leads [.record holdings]
          (if q.held then { q with holdings } else q) := by
        refine .only rfl ?_ rfl
        split <;> rfl
      have recorded : P (if q.held then { q with holdings } else q) := by
        split
        · exact w.keeps.record (l := []) holdings h
        · exact h
      obtain ⟨q', kept, called, eq⟩ := ih n recorded
      exact ⟨q', kept, begun.append called, eq⟩

theorem Fails.leads_react (w : Fails P fail) (c : Completion) (n : Nat) (h : P q) :
    q.Leads (c.acts n) (react fail n c q) :=
  w.leads_acts (w.exists_leads_calls c n h)

end React

section Fail

variable {q : UpdateQueue}

/-- A queue that has failed does not fail again. -/
theorem fails_of_failed (e : ChannelError) : Fails (·.failure = some e) fun q _ => q where
  keeps := keeps_failure e
  kept _ h := h
  leads {q} e' h := by
    have none : q.perform (.fail e') = (q, []) := by rw [perform, h]
    exact .only none rfl rfl

theorem keeps_node (n : NodeId) : Keeps fun _ q => q.node = n where
  accept _ _ h _ := h
  refuse _ _ _ h _ := h
  complete _ _ h _ := h
  close _ h _ := h
  report _ h := h
  record _ h := h
  release h := h

theorem leads_abandon {e : ChannelError} (failed : q.failure = some e) (f : InFlight) :
    q.Leads [.abandon e f] (abandon e q f) := by
  let told := q.invoke f.sequence f.completion (.error (.channel e))
  obtain ⟨q', kept, called, eq⟩ :=
    (fails_of_failed e).exists_leads_calls f.completion f.sequence (q := told) failed
  have same : react (fun q _ => q) f.sequence f.completion told = q' := by
    rw [eq]
    split <;> rfl
  have node : q'.node = q.node :=
    same ▸ (keeps_node q.node).react (fun _ _ _ h => h) f.completion [] told f.sequence rfl
  have log : q'.panicLog f = q.panicLog f := by rw [panicLog, panicLog, nodeField, nodeField, node]
  have abandoned : abandon e q f =
      if f.completion.panics then q'.report [q.panicLog f] else q' := by
    rw [abandon, ← log]
    exact congrArg (fun q => if f.completion.panics then report q [panicLog q f] else q) same
  rw [abandoned]
  refine .act rfl rfl rfl (called.append ?_)
  split
  · exact .only rfl rfl rfl
  · exact leads_nil q'

theorem leads_abandonAll {e : ChannelError} (failed : q.failure = some e)
    (pending : List InFlight) :
    q.Leads (pending.map (.abandon e)) (pending.foldl (abandon e) q) := by
  induction pending generalizing q with
  | nil => exact leads_nil q
  | cons f rest ih =>
      have still := (keeps_failure e).abandon (l := []) f failed failed
      exact (leads_abandon failed f).append (ih still)

theorem leads_fail (q : UpdateQueue) (e : ChannelError) : q.Leads [.fail e] (q.fail e) := by
  cases found : q.failure with
  | some first =>
      have same : q.fail e = q := by rw [fail, found]
      rw [same]
      exact (fails_of_failed first).leads e found
  | none =>
      have failed : q.fail e = q.inFlight.foldl (abandon e) (q.close e) := by rw [fail, found]
      have performed : q.perform (.fail e) = ({ q with failure := some e, inFlight := [] },
          [.signal, .clear, .report [q.failureLog e]] ++ q.inFlight.map (.abandon e)) := by
        rw [perform, found]
      have told : Does (q.close e, true) (q.inFlight.map (.abandon e)) (q.fail e, true) := by
        have rest := leads_abandonAll (q := q.close e) rfl q.inFlight
        rw [← failed, Leads, failure_fail] at rest
        exact rest
      refine Does.act ?_
      rw [performed, List.append_nil, failure_fail, found]
      exact .act (.act (.act told))

theorem fails_fail : Fails (fun _ => True) fail where
  keeps :=
    { accept := fun _ _ h _ => h
      refuse := fun _ _ _ h _ => h
      complete := fun _ _ h _ => h
      close := fun _ h _ => h
      report := fun _ h => h
      record := fun _ h => h
      release := fun h => h }
  kept _ h := h
  leads e _ := leads_fail _ e

/-- To invoke a completion and to do what it wants is to deliver an outcome. -/
theorem leads_deliver (q : UpdateQueue) (n : Nat) (c : Completion) (o : Outcome) :
    (q.invoke n c o).Leads (c.acts n) (q.deliver n c o) :=
  fails_fail.leads_react c n trivial

theorem leads_tell (q : UpdateQueue) (e : ChannelError) (n : Nat) (c : Completion) :
    q.Leads [.tell e n c] (q.deliver n c (.error (.channel e))) :=
  .act rfl rfl rfl (q.leads_deliver n c _)

theorem leads_ask (held : q.held = true) (a : Ask) (c : Completion) :
    q.Leads [.ask a c] (q.ask a c).1 := by
  have asked : q.Leads [.ask a c] _ := leads_begin held
    (leads_number fail fun e _ => fails_fail.leads_react c _ trivial)
  rw [ask, enqueue]
  cases found : (q.forgo a).refusal? a.request with
  | none | some e =>
      rw [found] at asked
      exact asked

theorem leads_shutdown (held : q.held = true) : q.Leads [.shutdown] q.shutdown :=
  leads_close held (q.leads_fail shutDownByNode)

/-- A stopped task tells those that still wait one after the other, and what they do meanwhile does
not depend on those behind them. -/
theorem deliver_putBack_of_failed {e : ChannelError} (failed : q.failure = some e)
    (front : List Submission) (sending : Sending) (s : Submission) (o : Outcome) :
    (q.putBack front sending).deliver s.sequence s.completion o =
      (q.deliver s.sequence s.completion o).putBack front sending :=
  deliver_putBack front _ _ o fun live => absurd (live.symm.trans failed) nofun

theorem leave_of_empty (empty : q.waiting = []) (buffered : List UInt8) :
    q.leave buffered = { q with sending := .closing buffered } := by
  rw [leave, empty]
  dsimp only [List.foldl_nil]

theorem take_of_empty (live : q.failure = none) (empty : q.waiting = []) :
    q.take = if q.held then none else some (leave { q with draining := true } []) := by
  rw [take, live, empty]

theorem note_of_live (live : q.failure = none) (s : Submission) :
    q.note s = { q with
      inFlight := q.inFlight ++ [s.toInFlight]
      sent := q.sent ++ [s]
      sending := .beginning s } := by
  rw [note, launch_of_live q live]
  rfl

/-- To go on with a frame is one call on the stream, and what a fault of the stream calls for. -/
theorem transmit_eq (q : UpdateQueue) (stream : Endpoint) (rest buffered : List UInt8) :
    q.transmit stream rest buffered =
      (Sending.further stream rest buffered).map fun r =>
        (match r.1.2 with
          | none => { q with sending := r.1.1 }
          | some f => q.failSending f r.1.1.buffer, r.2) := by
  rw [transmit, Sending.further]
  split
  · cases stream.write buffered with
    | failed f | blocked => rfl
    | wrote stream left =>
        cases left with
        | nil =>
            dsimp only
            cases stream.faults.flush <;> rfl
        | cons b left => rfl
  · split
    · rfl
    · cases stream.write rest <;> rfl

end Fail

theorem answer_of_idle {q : UpdateQueue} (live : q.failure = none) (idle : q.inFlight = [])
    (r : Response) (rest : List UInt8) :
    q.answer r rest = { q.close .unexpectedResponse with receiving := .stopped } := by
  rw [answer, idle]
  exact congrArg (fun q : UpdateQueue => { q with receiving := .stopped })
    (fail_of_idle live idle .unexpectedResponse)

theorem answer_running {q : UpdateQueue} (live : q.failure = none) (r : Response)
    (rest : List UInt8) :
    answer { q with receiving := .running rest } r rest = q.answer r rest := by
  by_cases idle : q.inFlight = []
  · have same := answer_of_idle (q := { q with receiving := .running rest }) live idle r rest
    exact same.trans (answer_of_idle live idle r rest).symm
  · obtain ⟨f, inFlight, oldest⟩ := List.exists_cons_of_ne_nil idle
    rw [answer, answer]
    dsimp only
    rw [oldest]
    rfl

/-- What the receiving task does with what it has made of the stream. -/
def digested (q : UpdateQueue) : Reading → UpdateQueue
  | .more received => { q with receiving := .running received }
  | .response r rest => q.answer r rest
  | .ended => q.failReceiving q.endError
  | .failed e => q.failReceiving e

theorem collect_eq (q : UpdateQueue) (stream : Endpoint) (received : List UInt8)
    (context : String) (missing : Nat) (atEnd : Reading) {e : ChannelError}
    (ends : q.digested atEnd = q.failReceiving e) :
    q.collect stream received context missing e =
      (Reading.collect stream received context missing atEnd).map fun r =>
        (q.digested r.1, r.2) := by
  rw [collect, Reading.collect]
  cases stream.readAhead missing with
  | failed f | waiting => rfl
  | ended => exact congrArg (fun q => some (q, stream)) ends.symm
  | got stream bytes =>
      dsimp only [Option.map]
      rw [Reading.make]
      cases Response.read.arrival (received ++ bytes) <;> rfl

/-- To look at the stream is one call on it, and what comes of it. -/
theorem receive_eq {q : UpdateQueue} {stream : Endpoint} {received : List UInt8}
    (running : q.receiving = .running received) (live : q.failure = none)
    (awake : stream.allowance ≠ 0) :
    q.receive stream = (Reading.next stream received).map fun r => (q.digested r.1, r.2) := by
  rw [receive, running, live]
  dsimp only
  rw [if_neg awake, Reading.next, Reading.make]
  cases Response.read.arrival received with
  | frame r rest | refused e => rfl
  | nothing => exact q.collect_eq stream received "frame" 1 .ended rfl
  | begun context missing =>
      exact q.collect_eq stream received context missing (.failed _) rfl

end UpdateQueue

namespace Threads

/-- Some run of its threads leads from one state to the other. -/
def Leads (w w' : Threads) : Prop :=
  ∃ run, w.after run = w'

section Leads

variable {w w₁ w' : Threads}

theorem leads_refl (w : Threads) : w.Leads w :=
  ⟨[], rfl⟩

theorem Leads.trans (h : w.Leads w₁) (h' : w₁.Leads w') : w.Leads w' := by
  obtain ⟨run, rfl⟩ := h
  obtain ⟨more, rfl⟩ := h'
  exact ⟨run ++ more, after_append w run more⟩

theorem leads_step (w : Threads) (e : Event) : w.Leads (w.step e) :=
  ⟨[e], rfl⟩

theorem leads_send (free : w.work .sender = []) : w.Leads w.send := by
  have sent : w.step (.go .sender) = w.send := by rw [step, go, free]
  rw [← sent]
  exact w.leads_step (.go .sender)

theorem leads_receive (free : w.work .receiver = []) : w.Leads w.receive := by
  have received : w.step (.go .receiver) = w.receive := by rw [step, go, free]
  rw [← received]
  exact w.leads_step (.go .receiver)

theorem assign_self {t : Thread} {acts : List Act} (same : w.work t = acts) :
    w.assign t acts = w := by
  have work : (fun u => if u = t then acts else w.work u) = w.work := by
    funext u
    split
    · next eq => rw [eq, same]
    · rfl
  rw [assign, work]

theorem assign_assign (w : Threads) (t : Thread) (acts more : List Act) :
    (w.assign t acts).assign t more = w.assign t more := by
  have work : (fun u => if u = t then more else (w.assign t acts).work u) =
      fun u => if u = t then more else w.work u := by
    funext u
    split
    · rfl
    · next other => exact if_neg other
  rw [assign, work]
  rfl

/-- A thread that goes on alone does its acts and all that follows from them. -/
theorem leads_of_does {t : Thread} {acts : List Act} {s : UpdateQueue × Bool}
    (does : UpdateQueue.Does (w.queue, w.signalled) acts s) (due : w.work t = acts) :
    w.Leads ({ w with queue := s.1, signalled := s.2 }.assign t []) := by
  generalize start : (w.queue, w.signalled) = s₀ at does
  induction does generalizing w with
  | done s =>
      cases start
      rw [assign_self due]
      exact leads_refl w
  | @act q signalled a rest s later ih =>
      cases start
      have done : w.step (.go t) = w.act t a rest := by rw [step, go.eq_def, due]
      have more := ih (w := w.act t a rest) (if_pos rfl) rfl
      refine (w.leads_step (.go t)).trans ?_
      rw [done]
      refine cast (congrArg _ ?_) more
      exact assign_assign { w with queue := s.1, signalled := s.2 } t _ []

/-- A thread that goes on alone does what it was given to do, and the others stay as they are. -/
theorem leads_acts {t : Thread} {acts : List Act} {q : UpdateQueue}
    (signalled : w.signalled = w.queue.failure.isSome) (leads : w.queue.Leads acts q)
    (idle : w.work t = []) :
    (w.assign t acts).Leads { w with queue := q, signalled := q.failure.isSome } := by
  rw [UpdateQueue.Leads, ← signalled] at leads
  have done := leads_of_does (w := w.assign t acts) leads (if_pos rfl)
  have back : Threads.assign { w.assign t acts with queue := q, signalled := q.failure.isSome } t []
      = { w with queue := q, signalled := q.failure.isSome } :=
    (assign_assign { w with queue := q, signalled := q.failure.isSome } t acts []).trans
      (assign_self idle)
  rwa [back] at done

end Leads

/-- Every thread is where it can begin again, and the tasks know of a failure. -/
structure AtRest (w : Threads) : Prop where
  work : ∀ t, w.work t = []
  sender : w.sender = .ready
  receiver : w.receiver = .ready
  signalled : w.signalled = w.queue.failure.isSome

section Sender

variable {w : Threads}

theorem leads_ready (idle : ∀ t, w.work t = []) {e : ChannelError}
    (refusing : w.sender = .refusing e) (empty : w.queue.waiting = []) :
    w.Leads { w with sender := .ready } := by
  have sent : w.send = { w with sender := .ready } := by
    rw [send, refusing]
    dsimp only
    rw [empty]
  rw [← sent]
  exact leads_send (idle .sender)

/-- The sending task tells what is left in the channel that it is not sent, and is through. -/
theorem leads_refusing (idle : ∀ t, w.work t = []) (signalled : w.signalled = true)
    {e : ChannelError} {q : UpdateQueue} {buffered : List UInt8} (failed : q.failure = some e)
    (empty : q.waiting = []) (closing : q.sending = .closing buffered)
    (unsent : List Submission) :
    Leads { w with queue := q.putBack unsent (.closing buffered), sender := .refusing e }
      { w with
        queue := unsent.foldl
          (fun q s => q.deliver s.sequence s.completion (.error (.channel e))) q
        sender := .ready } := by
  induction unsent generalizing q with
  | nil =>
      have same : q.putBack [] (.closing buffered) = q := by
        rw [UpdateQueue.putBack, List.nil_append, ← closing]
      rw [same]
      exact leads_ready (w := { w with queue := q, sender := .refusing e }) idle rfl empty
  | cons s rest ih =>
      let start : Threads :=
        { w with queue := q.putBack (s :: rest) (.closing buffered), sender := .refusing e }
      let popped : Threads :=
        { w with queue := q.putBack rest (.closing buffered), sender := .refusing e }
      let told := q.deliver s.sequence s.completion (.error (.channel e))
      have begun : start.Leads (popped.assign .sender [.tell e s.sequence s.completion]) :=
        leads_send (idle .sender)
      have delivered := (popped.queue).leads_tell e s.sequence s.completion
      rw [UpdateQueue.deliver_putBack_of_failed failed] at delivered
      obtain ⟨still, empty', closing'⟩ := (UpdateQueue.keeps_emptied e (.closing buffered)).deliver
        (l := []) s.toInFlight (.error (.channel e)) ⟨failed, empty, closing⟩
        fun e' found => by cases failed.symm.trans found; rfl
      have tells := leads_acts (w := popped) (t := .sender)
        (signalled.trans (congrArg Option.isSome failed).symm) delivered (idle .sender)
      have rang : (told.putBack rest (.closing buffered)).failure.isSome = w.signalled :=
        (congrArg Option.isSome still).trans signalled.symm
      rw [rang] at tells
      exact (begun.trans tells).trans (ih still empty' closing')

/-- A sending task that takes no more requests does what it does in one piece. -/
theorem leads_leave (idle : ∀ t, w.work t = [])
    (signalled : w.signalled = w.queue.failure.isSome) (leaving : w.sender = .leaving)
    (ended : w.queue.failure = none → w.queue.waiting = []) :
    w.Leads { w with queue := w.queue.leave w.queue.sending.buffer, sender := .ready } := by
  let buffered := w.queue.sending.buffer
  let q : UpdateQueue := { w.queue with sending := .closing buffered }
  let closed : Threads := { w with queue := q, sender := .closed }
  let refusing : Threads := { w with queue := q, sender := .refusing q.unsentError }
  have closes : w.send = closed := by rw [send, leaving]
  have explains : closed.Leads refusing := leads_send (w := closed) (idle .sender)
  have begun : w.Leads refusing := by
    rw [← closes] at explains
    exact (leads_send (idle .sender)).trans explains
  refine begun.trans ?_
  cases failed : w.queue.failure with
  | none =>
      have empty := ended failed
      rw [UpdateQueue.leave_of_empty empty]
      exact leads_ready (w := refusing) idle rfl empty
  | some e =>
      have rang : w.signalled = true := signalled.trans (congrArg Option.isSome failed)
      have reason : q.unsentError = e := by
        rw [UpdateQueue.unsentError, show q.failure = some e from failed]
        rfl
      have tells := leads_refusing (w := w) idle rang (e := e)
        (q := { w.queue with waiting := [], sending := .closing buffered }) failed rfl rfl
        w.queue.waiting
      rw [UpdateQueue.putBack, List.append_nil, ← UpdateQueue.leave_of_failed failed] at tells
      dsimp only [refusing]
      rw [reason]
      exact tells

theorem isCalled_of_idle (idle : ∀ t, w.work t = []) : w.isCalled = false := by
  refine List.any_eq_false.mpr fun t _ => ?_
  rw [idle t]
  nofun

end Sender

/-- The queue and its stream, without the threads. -/
def exchange (w : Threads) : Exchange :=
  ⟨w.queue, w.stream⟩

/-- The threads can come to rest with this queue and this stream. -/
def Reaches (w : Threads) (x : Exchange) : Prop :=
  ∃ w', w.Leads w' ∧ w'.AtRest ∧ w'.exchange = x

section Reaches

variable {w w' : Threads} {x : Exchange}
  {task : UpdateQueue → Endpoint → Option (UpdateQueue × Endpoint)}

theorem Leads.reaches (h : w.Leads w') (reach : w'.Reaches x) : w.Reaches x := by
  obtain ⟨w'', later, rest, eq⟩ := reach
  exact ⟨w'', h.trans later, rest, eq⟩

theorem AtRest.reaches (rest : w.AtRest) : w.Reaches w.exchange :=
  ⟨w, leads_refl w, rest, rfl⟩

theorem advance_of_some {r : UpdateQueue × Endpoint} (h : task x.queue x.stream = some r) :
    x.advance task = ⟨r.1, r.2⟩ := by
  rw [Exchange.advance, h]

theorem advance_of_none (h : task x.queue x.stream = none) : x.advance task = x := by
  rw [Exchange.advance, h]

end Reaches

section Send

variable {w : Threads}

theorem failure_leave {q : UpdateQueue} (buffered : List UInt8)
    (ended : q.failure = none → q.waiting = []) : (q.leave buffered).failure = q.failure := by
  cases failed : q.failure with
  | none =>
      rw [UpdateQueue.leave_of_empty (ended failed)]
      exact failed
  | some e =>
      exact (UpdateQueue.keeps_failure e).leave (l := []) buffered failed ended

/-- A sending task that takes no more requests comes to rest. -/
theorem reaches_leave (idle : ∀ t, w.work t = []) (ready : w.receiver = .ready)
    (signalled : w.signalled = w.queue.failure.isSome) (leaving : w.sender = .leaving)
    (ended : w.queue.failure = none → w.queue.waiting = []) :
    w.Reaches ⟨w.queue.leave w.queue.sending.buffer, w.stream⟩ := by
  refine ⟨_, leads_leave idle signalled leaving ended, ⟨idle, rfl, ready, ?_⟩, rfl⟩
  exact signalled.trans (congrArg Option.isSome (failure_leave _ ended)).symm

theorem note_of_live (live : w.queue.failure = none) (s : Submission) :
    w.note s = { w with queue := w.queue.note s, sender := .ready } := by
  rw [note, UpdateQueue.note_of_live live]
  split
  · next failed => cases live.symm.trans failed
  · rfl

/-- A sending task that has seen no signal looks for a request, and does what it does in one
piece. -/
theorem reaches_poll (rest : w.AtRest) (sending : w.queue.sending = .idle)
    (live : w.queue.failure = none) (awake : w.stream.allowance ≠ 0) :
    Reaches { w with sender := .polling } (w.exchange.advance UpdateQueue.send) := by
  let polling : Threads := { w with sender := .polling }
  have polls := leads_send (w := polling) (rest.work .sender)
  have once : polling.send = polling.poll := rfl
  rw [once, poll, if_neg awake] at polls
  have sends : w.queue.send w.stream = w.queue.take.map fun q => (q, w.stream.spend) := by
    rw [UpdateQueue.send, sending, live]
    exact if_neg fun spent => awake (of_decide_eq_true spent)
  cases found : w.queue.waiting with
  | nil =>
      rw [show polling.queue.waiting = [] from found] at polls
      dsimp only at polls
      rw [UpdateQueue.take_of_empty live found] at sends
      by_cases held : w.queue.held = true
      · have heard : (polling.queue.held || polling.isCalled) = true :=
          Bool.or_eq_true_iff.mpr (.inl held)
        have same : ({ polling with sender := .ready } : Threads) = w := by rw [← rest.sender]
        rw [if_pos heard, same] at polls
        rw [if_pos held] at sends
        rw [advance_of_none sends]
        exact polls.reaches rest.reaches
      · have alone : ¬(polling.queue.held || polling.isCalled) = true := by
          rw [isCalled_of_idle (w := polling) rest.work, Bool.or_false]
          exact held
        rw [if_neg alone] at polls
        rw [if_neg held] at sends
        let deserted : Threads :=
          { polling with stream := w.stream.spend, sender := .deserted }
        have drains := leads_send (w := deserted) (rest.work .sender)
        have buffer : w.queue.sending.buffer = [] := by rw [sending]; rfl
        have left := reaches_leave (w := deserted.send) rest.work rest.receiver rest.signalled rfl
          fun _ => found
        rw [advance_of_some sends, ← buffer]
        exact (polls.trans drains).reaches left
  | cons s waiting =>
      rw [show polling.queue.waiting = s :: waiting from found] at polls
      dsimp only at polls
      let q : UpdateQueue := { w.queue with waiting }
      let taken : Threads :=
        { polling with queue := q, stream := w.stream.spend, sender := .taken s }
      have notes := leads_send (w := taken) (rest.work .sender)
      have once : taken.send = taken.note s := rfl
      rw [once, note_of_live (w := taken) live] at notes
      rw [UpdateQueue.take_eq_note live found] at sends
      rw [advance_of_some sends]
      have same := congrArg UpdateQueue.failure (UpdateQueue.note_of_live (q := q) live s)
      have signalled := rest.signalled.trans (congrArg Option.isSome same).symm
      exact (polls.trans notes).reaches
        ⟨_, leads_refl _, ⟨rest.work, rfl, rest.receiver, signalled⟩, rfl⟩

theorem reaches_take (rest : w.AtRest) (sending : w.queue.sending = .idle) :
    w.Reaches (w.exchange.advance UpdateQueue.send) := by
  have begun := leads_send (rest.work .sender)
  rw [send, rest.sender] at begun
  dsimp only at begun
  rw [sending] at begun
  dsimp only at begun
  cases failed : w.queue.failure with
  | some e =>
      have rang : w.signalled = true := rest.signalled.trans (congrArg Option.isSome failed)
      rw [if_pos rang] at begun
      have left := reaches_leave (w := { w with stream := w.stream.spend, sender := .leaving })
        rest.work rest.receiver rest.signalled rfl fun live =>
          absurd (failed.symm.trans live) (Option.some_ne_none e)
      have sent : w.exchange.queue.send w.exchange.stream =
          some (w.queue.leave w.queue.sending.buffer, w.stream.spend) := by
        rw [exchange, UpdateQueue.send, sending, UpdateQueue.take, failed]
        rfl
      rw [advance_of_some sent]
      exact begun.reaches left
  | none =>
      have quiet : ¬w.signalled = true := by
        rw [rest.signalled, failed]
        exact Bool.false_ne_true
      rw [if_neg quiet] at begun
      by_cases spent : w.stream.allowance = 0
      · have sent : w.exchange.queue.send w.exchange.stream = none := by
          rw [exchange, UpdateQueue.send, sending, failed]
          exact if_pos (by rw [spent]; rfl)
        rw [advance_of_none sent]
        exact rest.reaches
      · exact begun.reaches (reaches_poll rest sending failed spent)

/-- A task that is in the middle of a frame goes on with it, or meets a fault of the stream. -/
theorem reaches_transmit (rest : w.AtRest) {next buffered : List UInt8}
    (sending : w.queue.sending = .writing next buffered) :
    w.Reaches (w.exchange.advance UpdateQueue.send) := by
  have sends : w.queue.send w.stream = w.queue.transmit w.stream next buffered := by
    rw [UpdateQueue.send, sending]
  have writes := leads_send (rest.work .sender)
  rw [send, rest.sender] at writes
  dsimp only at writes
  rw [sending] at writes
  dsimp only [write] at writes
  rw [UpdateQueue.transmit_eq] at sends
  cases found : Sending.further w.stream next buffered with
  | none =>
      rw [found] at sends
      rw [advance_of_none sends]
      exact rest.reaches
  | some r =>
      obtain ⟨⟨sending', fault⟩, stream⟩ := r
      rw [found] at sends writes
      rw [advance_of_some sends]
      dsimp only at writes ⊢
      cases fault with
      | none =>
          exact writes.reaches
            ⟨_, leads_refl _, ⟨rest.work, rest.sender, rest.receiver, rest.signalled⟩, rfl⟩
      | some f =>
          let e := f.toError "frame"
          let q : UpdateQueue := { w.queue with sending := sending' }
          let passed := Threads.pass { w with queue := q } stream (w.stream.given stream) []
          have failing := leads_acts (w := { passed with sender := .leaving }) (t := .sender)
            rest.signalled (q.leads_fail e) (rest.work .sender)
          have same : q.fail e = (w.queue.fail e).putBack [] sending' :=
            UpdateQueue.fail_putBack (q := w.queue) [] e
          have ended : (q.fail e).failure = none → (q.fail e).waiting = [] := fun live =>
            absurd ((UpdateQueue.failure_fail q e).symm.trans live) (Option.some_ne_none _)
          have left := reaches_leave
            (w := { passed with
              queue := q.fail e, signalled := (q.fail e).failure.isSome, sender := .leaving })
            rest.work rest.receiver rfl rfl ended
          have told : (q.fail e).leave (q.fail e).sending.buffer =
              w.queue.failSending f sending'.buffer := by
            rw [same]
            rfl
          dsimp only
          rw [← told]
          exact (writes.trans failing).reaches left

theorem failure_conclude {q q' : UpdateQueue} {stream stream' : Endpoint} {buffered : List UInt8}
    (h : q.conclude stream buffered = some (q', stream')) : q'.failure = q.failure := by
  rw [UpdateQueue.conclude] at h
  split at h
  · cases h
    rfl
  · cases h
  · next stream'' _ =>
    cases h
    cases stream''.finish.2 <;> rfl
  · cases h
    rfl

/-- A step of the sending task in one piece is a run of the thread alone. -/
theorem reaches_send (rest : w.AtRest) : w.Reaches (w.exchange.advance UpdateQueue.send) := by
  cases sending : w.queue.sending with
  | idle => exact reaches_take rest sending
  | writing next buffered => exact reaches_transmit rest sending
  | closing buffered =>
      have sends : w.queue.send w.stream = w.queue.conclude w.stream buffered := by
        rw [UpdateQueue.send, sending]
      have concludes := leads_send (rest.work .sender)
      rw [send, rest.sender] at concludes
      dsimp only at concludes
      rw [sending] at concludes
      dsimp only [conclude] at concludes
      cases found : w.queue.conclude w.stream buffered with
      | none =>
          rw [advance_of_none (sends.trans found)]
          exact rest.reaches
      | some r =>
          rw [found] at concludes
          rw [advance_of_some (sends.trans found)]
          have same := congrArg Option.isSome (failure_conclude found)
          have signalled := rest.signalled.trans same.symm
          exact concludes.reaches
            ⟨_, leads_refl _, ⟨rest.work, rest.sender, rest.receiver, signalled⟩, rfl⟩
  | stopped =>
      have sends : w.queue.send w.stream = none := by rw [UpdateQueue.send, sending]
      rw [advance_of_none sends]
      exact rest.reaches

end Send

section Receive

variable {w : Threads}

/-- A receiving task that fails the queue stops. -/
theorem reaches_breakOff (idle : ∀ t, w.work t = []) (ready : w.sender = .ready)
    (signalled : w.signalled = w.queue.failure.isSome) {received : List UInt8}
    (running : w.queue.receiving = .running received) (e : ChannelError) :
    (w.breakOff e).Reaches ⟨w.queue.failReceiving e, w.stream⟩ := by
  let halting : Threads := { w with receiver := .halting }
  let failed : Threads :=
    { halting with queue := w.queue.fail e, signalled := (w.queue.fail e).failure.isSome }
  have fails : (w.breakOff e).Leads failed :=
    leads_acts (w := halting) signalled (w.queue.leads_fail e) (idle .receiver)
  have still : failed.queue.receiving = .running received :=
    (w.queue.continues_fail e).receiving.trans running
  have stops := leads_receive (w := failed) (idle .receiver)
  rw [receive, still] at stops
  exact (fails.trans stops).reaches ⟨_, leads_refl _, ⟨idle, ready, rfl, rfl⟩, rfl⟩

/-- A response goes to the oldest request in flight in one piece. -/
theorem reaches_answer (idle : ∀ t, w.work t = []) (ready : w.sender = .ready)
    (signalled : w.signalled = w.queue.failure.isSome) {r : Response} {received : List UInt8}
    (matching : w.receiver = .matching r) (running : w.queue.receiving = .running received) :
    w.Reaches ⟨w.queue.answer r received, w.stream⟩ := by
  have pops := leads_receive (idle .receiver)
  rw [receive, running, matching] at pops
  dsimp only at pops
  cases oldest : w.queue.inFlight with
  | nil =>
      rw [oldest] at pops
      rw [UpdateQueue.answer, oldest]
      exact pops.reaches (reaches_breakOff idle ready signalled running _)
  | cons f inFlight =>
      rw [oldest] at pops
      let q : UpdateQueue :=
        { w.queue with inFlight, receiving := .running received }.report [w.queue.answeredLog f]
      let answering : Threads := { w with queue := q, receiver := .answering f r.toOutcome }
      let ready' : Threads :=
        { w with queue := q.invoke f.sequence f.completion r.toOutcome, receiver := .ready }
      have invokes := leads_receive (w := answering) (idle .receiver)
      have still : answering.queue.receiving = .running received := rfl
      rw [receive, still] at invokes
      have delivers := leads_acts (w := ready') signalled
        (q.leads_deliver f.sequence f.completion r.toOutcome) (idle .receiver)
      have same : w.queue.answer r received = q.deliver f.sequence f.completion r.toOutcome := by
        rw [UpdateQueue.answer, oldest]
      rw [same]
      exact (pops.trans (invokes.trans delivers)).reaches
        ⟨_, leads_refl _, ⟨idle, ready, rfl, rfl⟩, rfl⟩

/-- The responses have ended, with or without requests in flight. -/
theorem reaches_ended (idle : ∀ t, w.work t = []) (ready : w.sender = .ready)
    (signalled : w.signalled = w.queue.failure.isSome) {received : List UInt8}
    (ended : w.receiver = .ended) (running : w.queue.receiving = .running received) :
    w.Reaches ⟨w.queue.failReceiving w.queue.endError, w.stream⟩ := by
  have looks := leads_receive (idle .receiver)
  rw [receive, running, ended] at looks
  dsimp only at looks
  rw [UpdateQueue.endError]
  cases empty : w.queue.inFlight.isEmpty with
  | true =>
      let bare : Threads := { w with receiver := .bare }
      have asks := leads_receive (w := bare) (idle .receiver)
      have still : bare.queue.receiving = .running received := running
      rw [receive, still] at asks
      rw [if_pos empty] at looks
      rw [Bool.true_and]
      exact (looks.trans asks).reaches (reaches_breakOff idle ready signalled running _)
  | false =>
      rw [if_neg (Bool.eq_false_iff.mp empty)] at looks
      rw [Bool.false_and]
      exact looks.reaches (reaches_breakOff idle ready signalled running _)

/-- Whatever the receiving task has made of the stream, it deals with it in one piece. -/
theorem reaches_digest (idle : ∀ t, w.work t = []) (ready : w.sender = .ready)
    (signalled : w.signalled = w.queue.failure.isSome) (live : w.queue.failure = none)
    {received : List UInt8} (running : w.queue.receiving = .running received) (reading : Reading) :
    (w.digest reading).Reaches ⟨w.queue.digested reading, w.stream⟩ := by
  cases reading with
  | more received => exact ⟨_, leads_refl _, ⟨idle, ready, rfl, signalled⟩, rfl⟩
  | response r rest =>
      rw [UpdateQueue.digested, ← UpdateQueue.answer_running live]
      exact reaches_answer (w := w.digest (.response r rest)) idle ready signalled rfl rfl
  | ended => exact reaches_ended (w := w.digest .ended) idle ready signalled rfl running
  | failed e => exact reaches_breakOff idle ready signalled running e

/-- A step of the receiving task in one piece is a run of the thread alone. -/
theorem reaches_receive (rest : w.AtRest) :
    w.Reaches (w.exchange.advance UpdateQueue.receive) := by
  have looks := leads_receive (rest.work .receiver)
  rw [receive] at looks
  cases running : w.queue.receiving with
  | stopped =>
      have received : w.queue.receive w.stream = none := by rw [UpdateQueue.receive, running]
      rw [advance_of_none received]
      exact rest.reaches
  | running octets =>
      rw [running, rest.receiver] at looks
      dsimp only at looks
      cases failed : w.queue.failure with
      | some e =>
          have rang : w.signalled = true := rest.signalled.trans (congrArg Option.isSome failed)
          have received : w.queue.receive w.stream =
              some ({ w.queue with receiving := .stopped }, w.stream) := by
            rw [UpdateQueue.receive]
            split
            · next stopped => cases running.symm.trans stopped
            · rfl
            · next live => cases failed.symm.trans live
          rw [if_pos rang] at looks
          let halting : Threads := { w with receiver := .halting }
          have stops := leads_receive (w := halting) (rest.work .receiver)
          have still : halting.queue.receiving = .running octets := running
          rw [receive, still] at stops
          rw [advance_of_some received]
          exact (looks.trans stops).reaches
            ⟨_, leads_refl _, ⟨rest.work, rest.sender, rfl, rest.signalled⟩, rfl⟩
      | none =>
          have quiet : ¬w.signalled = true := by
            rw [rest.signalled, failed]
            exact Bool.false_ne_true
          rw [if_neg quiet] at looks
          let polling : Threads := { w with receiver := .polling }
          have reads := leads_receive (w := polling) (rest.work .receiver)
          have still : polling.queue.receiving = .running octets := running
          have same : ({ polling with receiver := .ready } : Threads) = w := by
            rw [← rest.receiver]
          rw [receive, still] at reads
          dsimp only [read] at reads
          by_cases spent : w.stream.allowance = 0
          · have received : w.queue.receive w.stream = none := by
              rw [UpdateQueue.receive, running, failed]
              exact if_pos spent
            rw [advance_of_none received]
            exact rest.reaches
          · have received := UpdateQueue.receive_eq running failed spent
            rw [if_neg (show ¬polling.stream.allowance = 0 from spent)] at reads
            cases found : Reading.next w.stream octets with
            | none =>
                rw [found] at received
                rw [advance_of_none received]
                exact rest.reaches
            | some r =>
                obtain ⟨reading, stream⟩ := r
                rw [found] at received
                rw [show Reading.next polling.stream octets = some (reading, stream) from found]
                  at reads
                rw [advance_of_some received]
                have digests := reaches_digest
                  (w := polling.pass stream [] (polling.stream.taken stream)) rest.work
                  rest.sender rest.signalled failed running reading
                exact (looks.trans reads).reaches digests

end Receive

section Call

variable {w : Threads}

/-- A call from outside that is left alone comes to what its acts lead to. -/
theorem reaches_call (rest : w.AtRest) (c : Call) {q : UpdateQueue}
    (leads : w.queue.Leads [c.act] q) : w.Reaches ⟨q, w.stream⟩ := by
  let called : Threads := { w with callers := w.callers + 1 }
  have begun := w.leads_step (.call c)
  have done := leads_acts (w := called) (t := .caller w.callers) rest.signalled leads (rest.work _)
  exact (begun.trans done).reaches
    ⟨_, leads_refl _, ⟨rest.work, rest.sender, rest.receiver, rfl⟩, rfl⟩

theorem reaches_ask (rest : w.AtRest) (a : Ask) (c : Completion) :
    w.Reaches (w.exchange.call fun q => (q.ask a c).1) := by
  rw [Exchange.call]
  split
  · next held => exact reaches_call rest (.ask a c) (UpdateQueue.leads_ask held a c)
  · exact rest.reaches

/-- A step of the queue in one piece is a run of its threads. To submit a request is left out: it
is to enqueue it for a waiting caller, who only logs a refusal besides. -/
theorem reaches_step (rest : w.AtRest) {a : Exchange.Action}
    (other : ∀ r caller, a ≠ .submit r caller) : w.Reaches (w.exchange.step a) := by
  cases a with
  | enqueue r c => exact reaches_ask rest (.enqueue r) c
  | submit r caller => exact absurd rfl (other r caller)
  | evict k c => exact reaches_ask rest (.evict k) c
  | downgrade k c => exact reaches_ask rest (.downgrade k) c
  | shutdown =>
      rw [Exchange.step, Exchange.call]
      split
      · next held => exact reaches_call rest .shutdown (UpdateQueue.leads_shutdown held)
      · exact rest.reaches
  | release =>
      rw [Exchange.step, Exchange.call]
      split
      · exact reaches_call rest .release w.queue.leads_release
      · exact rest.reaches
  | send => exact reaches_send rest
  | receive => exact reaches_receive rest
  | peer stream =>
      exact ⟨_, w.leads_step (.peer stream),
        ⟨rest.work, rest.sender, rest.receiver, rest.signalled⟩, rfl⟩

theorem reaches_after (rest : w.AtRest) {run : List Exchange.Action}
    (other : ∀ r caller, .submit r caller ∉ run) : w.Reaches (w.exchange.after run) := by
  induction run generalizing w with
  | nil => exact rest.reaches
  | cons a run ih =>
      obtain ⟨w', led, rest', eq⟩ :=
        reaches_step rest fun r caller same => other r caller (same ▸ List.mem_cons_self)
      have later := ih rest' fun r caller member => other r caller (List.mem_cons_of_mem a member)
      rw [eq] at later
      exact led.reaches later

/-- Whatever a new queue comes to when its parties take their steps in one piece, it comes to among
threads that do one access at a time. -/
theorem reaches_after_start (node : NodeId) (limits : Limits) (stream : Endpoint)
    {run : List Exchange.Action} (other : ∀ r caller, .submit r caller ∉ run) :
    (start node limits stream).Reaches ((Exchange.start node limits stream).after run) :=
  reaches_after (w := start node limits stream) ⟨fun _ => rfl, rfl, rfl, rfl⟩ other

end Call

end Threads

end CacheCoherence
