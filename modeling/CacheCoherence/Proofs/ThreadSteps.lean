import CacheCoherence.Proofs.QueueStream
import CacheCoherence.Proofs.Threads

/-!
What one step of a thread can do. A thread does the first act that it has to do;
a task that has none to do goes on with its loop. A queue only grows by it: no
call and no completion is undone, a failure stays, and who has let go of the
queue does not have it again.
-/

namespace CacheCoherence

/-- The completion that an act invokes, with what it is told. -/
def Act.told? : Act → Option Delivery
  | .refuse s e => some ⟨s.sequence, s.completion, .error e⟩
  | .abandon e f => some ⟨f.sequence, f.completion, .error (.channel e)⟩
  | .tell e sequence c => some ⟨sequence, c, .error (.channel e)⟩
  | _ => none

/-- The calls that a completion makes. -/
theorem Completion.mem_calls {c : Completion} {a : Act} (h : a ∈ c.calls) :
    (∃ ask later, a = .ask ask later) ∨ a = .shutdown ∨ a = .release ∨
      ∃ held, a = .record held := by
  induction c with
  | ignore | notify _ | callback _ _ => cases h
  | asking ask c later _ ih =>
      obtain same | old := List.mem_cons.mp h
      · exact .inl ⟨ask, c, same⟩
      · exact ih old
  | closing later ih =>
      obtain same | old := List.mem_cons.mp h
      · exact .inr (.inl same)
      · exact ih old
  | releasing later ih =>
      obtain same | old := List.mem_cons.mp h
      · exact .inr (.inr (.inl same))
      · exact ih old
  | recording held later ih =>
      obtain same | old := List.mem_cons.mp h
      · exact .inr (.inr (.inr ⟨held, same⟩))
      · exact ih old

theorem Completion.mem_acts {c : Completion} {n : Nat} {a : Act} (h : a ∈ c.acts n) :
    a ∈ c.calls ∨ c.panics = true ∧ a = .fail (.completionPanicked n) := by
  rw [acts, List.mem_append] at h
  refine h.imp_right fun last => ?_
  split at last
  · next panics => exact ⟨panics, List.mem_singleton.mp last⟩
  · cases last

namespace UpdateQueue

/-- What no step takes back. -/
structure Grows (q q' : UpdateQueue) : Prop where
  limits : q'.limits = q.limits
  calls : q.calls <+: q'.calls
  completed : q.completed <+: q'.completed
  failure : ∀ e, q.failure = some e → q'.failure = some e
  held : q'.held = true → q.held = true

theorem grows_refl (q : UpdateQueue) : q.Grows q :=
  ⟨rfl, List.prefix_rfl, List.prefix_rfl, fun _ h => h, fun h => h⟩

theorem grows_forgo (q : UpdateQueue) (a : Ask) : q.Grows (q.forgo a) := by
  cases a <;> exact ⟨rfl, List.prefix_rfl, List.prefix_rfl, fun _ h => h, fun h => h⟩

theorem grows_perform (q : UpdateQueue) (a : Act) : q.Grows (q.perform a).1 := by
  have same := q.grows_refl
  cases a with
  | ask a c =>
      rw [perform]
      split
      · exact q.grows_forgo a
      · exact same
  | number r c => exact ⟨rfl, same.calls, same.completed, same.failure, same.held⟩
  | hand s =>
      rw [perform]
      split
      · exact ⟨rfl, List.prefix_append _ _, same.completed, same.failure, same.held⟩
      · exact same
  | refuse s e =>
      exact ⟨rfl, List.prefix_append _ _, List.prefix_append _ _, same.failure, same.held⟩
  | release => exact ⟨rfl, same.calls, same.completed, same.failure, nofun⟩
  | record h =>
      rw [perform]
      split
      · exact ⟨rfl, same.calls, same.completed, same.failure, same.held⟩
      · exact same
  | fail e =>
      rw [perform]
      split
      · exact same
      · next live =>
        exact ⟨rfl, same.calls, same.completed,
          fun e failed => absurd (live.symm.trans failed) nofun, same.held⟩
  | abandon _ _ | tell _ _ _ =>
      exact ⟨rfl, same.calls, List.prefix_append _ _, same.failure, same.held⟩
  | clear | report _ => exact ⟨rfl, same.calls, same.completed, same.failure, same.held⟩
  | look _ | excuse _ | shutdown | signal => exact same

theorem completed_perform (q : UpdateQueue) (a : Act) :
    (q.perform a).1.completed = q.completed ++ a.told?.toList := by
  cases a with
  | refuse _ _ | abandon _ _ | tell _ _ _ => rfl
  | ask a c =>
      rw [perform]
      split
      · cases a <;> exact (List.append_nil _).symm
      · exact (List.append_nil _).symm
  | hand _ | record _ | fail _ =>
      rw [perform]
      split <;> exact (List.append_nil _).symm
  | number _ _ | look _ | excuse _ | shutdown | release | signal | clear | report _ =>
      exact (List.append_nil _).symm

/-- Calls end in the channel or with an error. -/
theorem calls_perform (q : UpdateQueue) (a : Act) :
    ((q.perform a).1.calls = q.calls ∧ (q.perform a).1.waiting = q.waiting) ∨
      (∃ s, a = .hand s ∧ (q.perform a).1.calls = q.calls ++ [s.accepted] ∧
        (q.perform a).1.waiting = q.waiting ++ [s]) ∨
      ∃ s e, a = .refuse s e ∧ (q.perform a).1.waiting = q.waiting ∧
        (q.perform a).1.calls = q.calls ++ [⟨s.sequence, s.request, s.completion, .error e⟩] := by
  cases a with
  | hand s =>
      rw [perform]
      split
      · exact .inr (.inl ⟨s, rfl, rfl, rfl⟩)
      · exact .inl ⟨rfl, rfl⟩
  | refuse s e => exact .inr (.inr ⟨s, e, rfl, rfl, rfl⟩)
  | ask a c =>
      rw [perform]
      split
      · cases a <;> exact .inl ⟨rfl, rfl⟩
      · exact .inl ⟨rfl, rfl⟩
  | record _ | fail _ =>
      rw [perform]
      split <;> exact .inl ⟨rfl, rfl⟩
  | number _ _ | look _ | excuse _ | shutdown | release | signal | clear | abandon _ _ | tell _ _ _
  | report _ => exact .inl ⟨rfl, rfl⟩

/-- What an act can lead to. -/
inductive Follows (q : UpdateQueue) : Act → Act → Prop where
  | begin (a : Ask) (c : Completion) (held : q.held = true) :
      q.Follows (.ask a c) (.number a.request c)
  | long (r : Request) (c : Completion) (e : InputError) (check : r.check q.limits = .error e) :
      q.Follows (.number r c) (.refuse ⟨q.issued + 1, r, c⟩ (.input e))
  | fit (r : Request) (c : Completion) (check : r.check q.limits = .ok ()) :
      q.Follows (.number r c) (.look ⟨q.issued + 1, r, c⟩)
  | late (s : Submission) (e : ChannelError) (failed : q.failure = some e) :
      q.Follows (.look s) (.refuse s (.channel e))
  | hand (s : Submission) (live : q.failure = none) : q.Follows (.look s) (.hand s)
  | excuse (s : Submission) (closed : q.isTaking = false) : q.Follows (.hand s) (.excuse s)
  | excused (s : Submission) :
      q.Follows (.excuse s)
        (.refuse s (.channel (q.failure.getD (.shutDown "update queue writer stopped"))))
  | shutdown (held : q.held = true) : q.Follows .shutdown (.fail shutDownByNode)
  | signal (e : ChannelError) (live : q.failure = none) : q.Follows (.fail e) .signal
  | clear (e : ChannelError) (live : q.failure = none) : q.Follows (.fail e) .clear
  | abandon (e : ChannelError) (f : InFlight) (live : q.failure = none)
      (flying : f ∈ q.inFlight) : q.Follows (.fail e) (.abandon e f)
  | report (a : Act) (events : List Logging.Event) : q.Follows a (.report events)
  | call {a b : Act} (d : Delivery) (told : a.told? = some d) (member : b ∈ d.completion.calls) :
      q.Follows a b
  | panic {a : Act} (d : Delivery) (told : a.told? = some d) (panics : d.completion.panics = true) :
      q.Follows a (.fail (.completionPanicked d.sequence))

theorem follows_acts {q : UpdateQueue} {a b : Act} {d : Delivery} (told : a.told? = some d)
    (h : b ∈ d.completion.acts d.sequence) : q.Follows a b := by
  obtain call | ⟨panics, rfl⟩ := Completion.mem_acts h
  · exact .call d told call
  · exact .panic d told panics

theorem follows_perform {q : UpdateQueue} {a b : Act} (h : b ∈ (q.perform a).2) :
    q.Follows a b := by
  cases a with
  | ask a c =>
      rw [perform] at h
      split at h
      · next held => exact List.mem_singleton.mp h ▸ .begin a c held
      · cases h
  | number r c =>
      rw [perform] at h
      dsimp only at h
      split at h
      · next e check => exact List.mem_singleton.mp h ▸ .long r c e check
      · next check => exact List.mem_singleton.mp h ▸ .fit r c check
  | look s =>
      rw [perform] at h
      dsimp only at h
      split at h
      · next e failed => exact List.mem_singleton.mp h ▸ .late s e failed
      · next live => exact List.mem_singleton.mp h ▸ .hand s live
  | hand s =>
      rw [perform] at h
      split at h
      · exact List.mem_singleton.mp h ▸ .report _ _
      · next closed => exact List.mem_singleton.mp h ▸ .excuse s (Bool.eq_false_iff.mpr closed)
  | excuse s => exact List.mem_singleton.mp h ▸ .excused s
  | refuse s e => exact follows_acts rfl h
  | tell e n c => exact follows_acts rfl h
  | shutdown =>
      rw [perform] at h
      dsimp only at h
      split at h
      · next held => exact List.mem_singleton.mp h ▸ .shutdown held
      · cases h
  | fail e =>
      rw [perform] at h
      split at h
      · cases h
      · next live =>
        simp only [List.cons_append, List.nil_append, List.mem_cons, List.mem_map] at h
        obtain rfl | rfl | rfl | ⟨f, flying, rfl⟩ := h
        · exact .signal e live
        · exact .clear e live
        · exact .report _ _
        · exact .abandon e f live flying
  | abandon e f =>
      rw [perform, List.mem_append] at h
      cases h with
      | inl call => exact .call _ rfl call
      | inr last =>
          split at last
          · exact List.mem_singleton.mp last ▸ .report _ _
          · cases last
  | release | signal | clear | report _ | record _ =>
      rw [perform] at h
      cases h

end UpdateQueue

namespace Reading

/-- What has been made of some octets is what is there, and a failure of the stream is none of a
completion. -/
def Sound (octets : List UInt8) : Reading → Prop
  | .more received => received = octets
  | .response r rest => Response.read.arrival octets = .frame r rest
  | .ended => True
  | .failed e => ∀ n, e ≠ .completionPanicked n

theorem sound_make (octets : List UInt8) : (make octets).Sound octets := by
  rw [make]
  split
  · next found => exact found
  · rfl
  · rfl
  · next refused =>
    rintro n rfl
    cases Response.isRefusal_of_arrival refused

theorem sound_collect {stream : Endpoint} {received : List UInt8} {context : String}
    {missing : Nat} {atEnd : Reading} (sound : atEnd.Sound received)
    {result : Reading × Endpoint}
    (h : collect stream received context missing atEnd = some result) :
    ∃ bytes, result.1.Sound (received ++ bytes) ∧ stream.Moved result.2 bytes [] := by
  rw [collect] at h
  split at h
  · next f _ =>
    cases h
    exact ⟨[], f.toError_ne_completionPanicked context, stream.moved_refl⟩
  · cases h
  · cases h
    exact ⟨[], (List.append_nil received).symm ▸ sound, stream.moved_refl⟩
  · next got =>
    cases h
    exact ⟨_, sound_make _, Endpoint.moved_read got⟩

theorem sound_next {stream : Endpoint} {received : List UInt8} {result : Reading × Endpoint}
    (h : next stream received = some result) :
    ∃ bytes, result.1.Sound (received ++ bytes) ∧ stream.Moved result.2 bytes [] := by
  have now := sound_make received
  rw [next] at h
  split at h
  · exact sound_collect (by trivial) h
  · exact sound_collect (by nofun) h
  · cases h
    exact ⟨[], (List.append_nil received).symm ▸ now, stream.moved_refl⟩
  · cases h
    exact ⟨[], (List.append_nil received).symm ▸ now, stream.moved_refl⟩

end Reading

namespace Sending

theorem beginning_eq (s : Submission) :
    beginning s = .writing [] s.request.frame ∨ beginning s = .writing s.request.frame [] := by
  rw [beginning]
  split
  · exact .inl rfl
  · exact .inr rfl

theorem pending_beginning (s : Submission) : (beginning s).pending = s.request.frame := by
  obtain same | same := beginning_eq s
  · rw [same]
    rfl
  · rw [same]
    exact List.append_nil _

theorem tidy_beginning (s : Submission) : (beginning s).Tidy := by
  obtain same | same := beginning_eq s
  · rw [same]
    exact .inl rfl
  · rw [same]
    exact .inr rfl

theorem isTaking_beginning (q : UpdateQueue) (s : Submission) :
    UpdateQueue.isTaking { q with sending := .beginning s } = true := by
  rw [UpdateQueue.isTaking]
  obtain same | same := beginning_eq s <;> rw [same]

/-- A call on the stream writes the next octets of a frame. -/
theorem pending_of_further {stream stream' : Endpoint} {rest buffered : List UInt8}
    {sending : Sending} {fault : Option StreamFault} (tidy : rest = [] ∨ buffered = [])
    (h : further stream rest buffered = some ((sending, fault), stream')) :
    sending.Tidy ∧ (∀ q : UpdateQueue, q.isTaking = true → UpdateQueue.isTaking
      { q with sending } = true) ∧
      ∃ given, rest ++ buffered = given ++ sending.pending ∧ stream.Moved stream' [] given := by
  rw [further] at h
  split at h
  · next empty =>
    cases List.isEmpty_iff.mp empty
    split at h
    · cases h
      exact ⟨.inl rfl, fun _ _ => rfl, [], rfl, stream.moved_refl⟩
    · cases h
    · next written =>
      obtain ⟨given, octets, moved⟩ := Endpoint.moved_write written
      split at h
      · cases h
        exact ⟨.inl rfl, fun _ _ => rfl, given, octets, moved⟩
      · cases h
        exact ⟨trivial, fun _ _ => rfl, given, octets, moved⟩
    · next written =>
      obtain ⟨given, octets, moved⟩ := Endpoint.moved_write written
      cases h
      exact ⟨.inl rfl, fun _ _ => rfl, given, octets, moved⟩
  · next long =>
    cases tidy.resolve_left fun none => long (none ▸ rfl)
    split at h
    · cases h
      exact ⟨.inl rfl, fun _ _ => rfl, [], List.append_nil _, stream.moved_refl⟩
    · split at h
      · cases h
        exact ⟨.inr rfl, fun _ _ => rfl, [], rfl, stream.moved_refl⟩
      · cases h
      · next written =>
        obtain ⟨given, octets, moved⟩ := Endpoint.moved_write written
        cases h
        refine ⟨.inr rfl, fun _ _ => rfl, given, ?_, moved⟩
        rw [octets, List.append_nil, pending, List.append_nil]

end Sending

namespace Threads

section Fields

variable (w : Threads) (t u : Thread) (acts : List Act)

@[simp]
theorem work_assign : (w.assign t acts).work u = if u = t then acts else w.work u := rfl

theorem mem_work_assign {w : Threads} {t u : Thread} {acts : List Act} {a : Act}
    (h : a ∈ (w.assign t acts).work u) : u = t ∧ a ∈ acts ∨ u ≠ t ∧ a ∈ w.work u := by
  rw [work_assign] at h
  split at h
  · next same => exact .inl ⟨same, h⟩
  · next other => exact .inr ⟨other, h⟩

end Fields

/-- What a step of the sending task can be when it has no act to do. -/
inductive SenderStep (w : Threads) : Threads → Prop where
  | wait : SenderStep w w
  | turn (sender : Sender) (before : ∀ s, w.sender ≠ .taken s)
      (idle : sender = .ready ∨ sender = .polling ∧ w.queue.sending = .idle) :
      SenderStep w { w with sender }
  | stop (ready : w.sender = .ready) (signalled : w.signalled = true) :
      SenderStep w { w with stream := w.stream.spend, sender := .leaving }
  | take (s : Submission) (waiting : List Submission) (polling : w.sender = .polling)
      (first : w.queue.waiting = s :: waiting) :
      SenderStep w
        { w with
          queue := { w.queue with waiting }
          stream := w.stream.spend
          sender := .taken s }
  | desert (polling : w.sender = .polling) (empty : w.queue.waiting = [])
      (released : w.queue.held = false) (uncalled : w.isCalled = false) :
      SenderStep w { w with stream := w.stream.spend, sender := .deserted }
  | note (s : Submission) (taken : w.sender = .taken s) (live : w.queue.failure = none) :
      SenderStep w
        { w with
          queue :=
            { w.queue with
              inFlight := w.queue.inFlight ++ [s.toInFlight]
              sent := w.queue.sent ++ [s]
              sending := .beginning s }
          sender := .ready }
  /-- A request that has been taken meets a failure. -/
  | meet (s : Submission) (e : ChannelError) (taken : w.sender = .taken s)
      (failed : w.queue.failure = some e) :
      SenderStep w ({ w with sender := .leaving }.assign .sender [.tell e s.sequence s.completion])
  | drain (deserted : w.sender = .deserted) :
      SenderStep w { w with queue := { w.queue with draining := true }, sender := .leaving }
  | close (leaving : w.sender = .leaving) :
      SenderStep w
        { w with
          queue := { w.queue with sending := .closing w.queue.sending.buffer }
          sender := .closed }
  | explain (closed : w.sender = .closed) :
      SenderStep w { w with sender := .refusing w.queue.unsentError }
  | tell (e : ChannelError) (s : Submission) (waiting : List Submission)
      (refusing : w.sender = .refusing e) (first : w.queue.waiting = s :: waiting) :
      SenderStep w ({ w with queue := { w.queue with waiting } }.assign .sender
        [.tell e s.sequence s.completion])
  /-- Octets of a frame are written, or of what the buffer holds at the end. -/
  | write (sending : Sending) (given : List UInt8) (stream : Endpoint) (ready : w.sender = .ready)
      (taking : UpdateQueue.isTaking { w.queue with sending } = w.queue.isTaking)
      (tidy : sending.Tidy) (octets : w.queue.sending.pending = given ++ sending.pending) :
      SenderStep w ({ w with queue := { w.queue with sending } }.pass stream given [])
  | fault (f : StreamFault) (sending : Sending) (given : List UInt8) (stream : Endpoint)
      (ready : w.sender = .ready)
      (taking : UpdateQueue.isTaking { w.queue with sending } = w.queue.isTaking)
      (tidy : sending.Tidy) (octets : w.queue.sending.pending = given ++ sending.pending) :
      SenderStep w
        ({ ({ w with queue := { w.queue with sending } }.pass stream given []) with
            sender := .leaving }.assign .sender [.fail (f.toError "frame")])
  | conclude (fault : Option StreamFault) (given lost : List UInt8) (stream : Endpoint)
      (ready : w.sender = .ready) (left : w.queue.isTaking = false)
      (octets : w.queue.sending.pending = given ++ lost) :
      SenderStep w ({ w with queue := w.queue.stopSending fault }.pass stream given [])

section Sender

variable {w : Threads}

theorem senderStep_of_write {rest buffered : List UInt8} (ready : w.sender = .ready)
    (writing : w.queue.sending = .writing rest buffered) (tidy : rest = [] ∨ buffered = []) :
    w.SenderStep (w.write rest buffered) := by
  have taking : w.queue.isTaking = true := by rw [UpdateQueue.isTaking, writing]
  rw [write]
  split
  · exact .wait
  · next sending fault stream found =>
    obtain ⟨tidy, still, given, octets, moved⟩ := Sending.pending_of_further tidy found
    have pending : w.queue.sending.pending = given ++ sending.pending := by
      rw [writing]
      exact octets
    dsimp only
    rw [moved.given_eq]
    cases fault with
    | none =>
        exact .write sending given stream ready ((still _ taking).trans taking.symm) tidy pending
    | some f =>
        exact .fault f sending given stream ready ((still _ taking).trans taking.symm) tidy pending

theorem senderStep_of_conclude {buffered : List UInt8} (ready : w.sender = .ready)
    (closing : w.queue.sending = .closing buffered) : w.SenderStep (w.conclude buffered) := by
  have left : w.queue.isTaking = false := by rw [UpdateQueue.isTaking, closing]
  have pending : w.queue.sending.pending = buffered := by rw [closing]; rfl
  rw [conclude]
  split
  · exact .wait
  · next queue stream found =>
    rw [UpdateQueue.conclude] at found
    split at found
    · cases found
      rw [w.stream.moved_refl.given_eq]
      exact .conclude _ [] buffered _ ready left pending
    · cases found
    · next written =>
      obtain ⟨given, octets, moved⟩ := Endpoint.moved_write written
      cases found
      rw [moved.finish.given_eq]
      exact .conclude _ given [] _ ready left (pending.trans octets)
    · next written =>
      obtain ⟨given, octets, moved⟩ := Endpoint.moved_write written
      cases found
      rw [moved.given_eq]
      exact .write _ given _ ready left.symm trivial (pending.trans octets)

theorem senderStep_of_poll (polling : w.sender = .polling) : w.SenderStep w.poll := by
  have before : ∀ s, w.sender ≠ .taken s := by
    rw [polling]
    nofun
  rw [poll]
  split
  · exact .turn .ready before (.inl rfl)
  · split
    · next s waiting first => exact .take s waiting polling first
    · next empty =>
      split
      · exact .turn .ready before (.inl rfl)
      · next alone =>
        obtain ⟨released, uncalled⟩ := Bool.or_eq_false_iff.mp (Bool.eq_false_iff.mpr alone)
        exact .desert polling empty released uncalled

theorem senderStep_of_send (tidy : w.queue.sending.Tidy) : w.SenderStep w.send := by
  rw [send]
  split
  · next ready =>
    split
    · next idle =>
      split
      · next signalled => exact .stop ready signalled
      · exact .turn .polling (fun s => by rw [ready]; nofun) (.inr ⟨rfl, idle⟩)
    · next writing =>
      rw [writing] at tidy
      exact senderStep_of_write ready writing tidy
    · next closing => exact senderStep_of_conclude ready closing
    · exact .wait
  · next polling => exact senderStep_of_poll polling
  · next s taken =>
    rw [note]
    split
    · next e failed => exact .meet s e taken failed
    · next live => exact .note s taken live
  · next deserted => exact .drain deserted
  · next leaving => exact .close leaving
  · next closed => exact .explain closed
  · next e refusing =>
    split
    · exact .turn .ready (fun s => by rw [refusing]; nofun) (.inl rfl)
    · next s waiting first => exact .tell e s waiting refusing first

end Sender

/-- What a step of the receiving task can be when it has no act to do. -/
inductive ReceiverStep (w : Threads) : Threads → Prop where
  | wait : ReceiverStep w w
  | turn (receiver : Receiver) (running : w.queue.receiving ≠ .stopped)
      (before : w.receiver = .ready ∨ w.receiver = .polling)
      (idle : receiver = .ready ∨ receiver = .polling ∨ receiver = .halting) :
      ReceiverStep w { w with receiver }
  | read (received bytes : List UInt8) (stream : Endpoint) (reading : Reading)
      (polling : w.receiver = .polling) (running : w.queue.receiving = .running received)
      (sound : reading.Sound (received ++ bytes)) :
      ReceiverStep w ((w.pass stream [] bytes).digest reading)
  | pop (f : InFlight) (inFlight : List InFlight) (r : Response)
      (matching : w.receiver = .matching r) (oldest : w.queue.inFlight = f :: inFlight) :
      ReceiverStep w
        { w with
          queue := { w.queue with inFlight }.report [w.queue.answeredLog f]
          receiver := .answering f r.toOutcome }
  | surplus (r : Response) (matching : w.receiver = .matching r) (empty : w.queue.inFlight = []) :
      ReceiverStep w (w.breakOff .unexpectedResponse)
  | answer (f : InFlight) (outcome : Outcome) (answering : w.receiver = .answering f outcome) :
      ReceiverStep w
        ({ w with
            queue := w.queue.invoke f.sequence f.completion outcome
            receiver := .ready }.assign .receiver (f.completion.acts f.sequence))
  | bare (ended : w.receiver = .ended) (empty : w.queue.inFlight = []) :
      ReceiverStep w { w with receiver := .bare }
  | cut (e : ChannelError) (ended : w.receiver = .ended ∨ w.receiver = .bare)
      (outer : ∀ n, e ≠ .completionPanicked n) : ReceiverStep w (w.breakOff e)
  | halt (halting : w.receiver = .halting) :
      ReceiverStep w { w with queue := { w.queue with receiving := .stopped }, receiver := .ready }

theorem receiverStep_of_receive (w : Threads) : w.ReceiverStep w.receive := by
  rw [receive]
  split
  · exact .wait
  · next received running =>
    have going : w.queue.receiving ≠ .stopped := running ▸ nofun
    split
    · next ready =>
      refine .turn _ going (.inl ready) ?_
      split
      · exact .inr (.inr rfl)
      · exact .inr (.inl rfl)
    · next polling =>
      rw [Threads.read]
      split
      · exact .turn .ready going (.inr polling) (.inl rfl)
      · split
        · exact .turn .ready going (.inr polling) (.inl rfl)
        · next reading stream found =>
          obtain ⟨bytes, sound, moved⟩ := Reading.sound_next found
          rw [moved.taken_eq]
          exact .read received bytes stream reading polling running sound
    · next r matching =>
      split
      · next empty => exact .surplus r matching empty
      · next f inFlight oldest => exact .pop f inFlight r matching oldest
    · next f outcome answering => exact .answer f outcome answering
    · next ended =>
      split
      · next empty => exact .bare ended (List.isEmpty_iff.mp empty)
      · exact .cut _ (.inl ended) nofun
    · next bare =>
      refine .cut _ (.inr bare) ?_
      split <;> nofun
    · next halting => exact .halt halting

section Kept

variable {w w' : Threads}

/-- What a step of the sending task can change of the queue. -/
theorem SenderStep.kept (s : w.SenderStep w') :
    w'.queue = { w.queue with
      waiting := w'.queue.waiting
      inFlight := w'.queue.inFlight
      draining := w'.queue.draining
      sent := w'.queue.sent
      log := w'.queue.log
      sending := w'.queue.sending } := by
  cases s with
  | conclude fault _ _ _ _ _ _ => cases fault <;> rfl
  | wait | turn _ _ _ | stop _ _ | take _ _ _ _ | desert _ _ _ _ | note _ _ _ | meet _ _ _ _
  | drain _ | close _ | explain _ | tell _ _ _ _ _ | write _ _ _ _ _ _ _
  | fault _ _ _ _ _ _ _ _ => rfl

theorem SenderStep.grows (s : w.SenderStep w') : w.queue.Grows w'.queue := by
  have same := w.queue.grows_refl
  rw [s.kept]
  exact ⟨rfl, same.calls, same.completed, same.failure, same.held⟩

/-- What a step of a task leaves alone. -/
structure Aside (t : Thread) (w w' : Threads) : Prop where
  callers : w'.callers = w.callers
  signalled : w'.signalled = w.signalled
  work : ∀ u, u ≠ t → w'.work u = w.work u

theorem SenderStep.aside (s : w.SenderStep w') : Aside .sender w w' := by
  cases s <;> exact ⟨rfl, rfl, fun u other => by first | rfl | exact if_neg other⟩

theorem ReceiverStep.aside (s : w.ReceiverStep w') : Aside .receiver w w' := by
  cases s with
  | read _ _ _ reading _ _ _ =>
      cases reading <;> exact ⟨rfl, rfl, fun u other => by first | rfl | exact if_neg other⟩
  | _ => exact ⟨rfl, rfl, fun u other => by first | rfl | exact if_neg other⟩

/-- The sending task does not come near the receiving task. -/
theorem SenderStep.apart (s : w.SenderStep w') :
    w'.receiver = w.receiver ∧ w'.taken = w.taken ∧
      w'.queue.receiving = w.queue.receiving ∧ w'.queue.completed = w.queue.completed := by
  rw [s.kept]
  cases s with
  | write _ _ _ _ _ _ _ | fault _ _ _ _ _ _ _ _ | conclude _ _ _ _ _ _ _ =>
      exact ⟨rfl, List.append_nil _, rfl, rfl⟩
  | _ => exact ⟨rfl, rfl, rfl, rfl⟩

theorem SenderStep.tidy (s : w.SenderStep w') (h : w.queue.sending.Tidy) :
    w'.queue.sending.Tidy := by
  cases s with
  | note s _ _ => exact Sending.tidy_beginning s
  | close _ => trivial
  | write _ _ _ _ _ tidy _ | fault _ _ _ _ _ _ tidy _ => exact tidy
  | conclude fault _ _ _ _ _ _ => cases fault <;> trivial
  | _ => exact h

/-- What the sending task gets to do: to tell a completion of the failure, or to fail the queue. -/
theorem SenderStep.mem_work (s : w.SenderStep w') (free : w.work .sender = []) {a : Act}
    (h : a ∈ w'.work .sender) :
    (∃ (e : ChannelError) (s : Submission), a = .tell e s.sequence s.completion) ∨
      ∃ e, a = .fail e := by
  cases s with
  | meet s e _ _ | tell e s _ _ _ => exact .inl ⟨e, s, List.mem_singleton.mp h⟩
  | fault f _ _ _ _ _ _ _ => exact .inr ⟨_, List.mem_singleton.mp h⟩
  | wait | turn _ _ _ | stop _ _ | take _ _ _ _ | desert _ _ _ _ | note _ _ _ | drain _ | close _
  | explain _ | write _ _ _ _ _ _ _ | conclude _ _ _ _ _ _ _ =>
      exact absurd (free ▸ h : a ∈ []) List.not_mem_nil

/-- What a step of the receiving task can change of the queue. -/
theorem ReceiverStep.kept (s : w.ReceiverStep w') :
    w'.sender = w.sender ∧ w'.queue = { w.queue with
      inFlight := w'.queue.inFlight
      completed := w'.queue.completed
      log := w'.queue.log
      receiving := w'.queue.receiving } := by
  cases s with
  | read _ _ _ reading _ _ _ => cases reading <;> exact ⟨rfl, rfl⟩
  | _ => exact ⟨rfl, rfl⟩

theorem ReceiverStep.grows (s : w.ReceiverStep w') : w.queue.Grows w'.queue := by
  have same := w.queue.grows_refl
  have completed : w.queue.completed <+: w'.queue.completed := by
    cases s with
    | read _ _ _ reading _ _ _ => cases reading <;> exact same.completed
    | answer _ _ _ => exact List.prefix_append _ _
    | _ => exact same.completed
  rw [s.kept.2]
  exact ⟨rfl, same.calls, completed, same.failure, same.held⟩

/-- What the receiving task gets to do: to fail the queue, or what a completion wants. -/
theorem ReceiverStep.mem_work (s : w.ReceiverStep w') (free : w.work .receiver = []) {a : Act}
    (h : a ∈ w'.work .receiver) :
    (∃ e, a = .fail e ∧ ∀ n, e ≠ .completionPanicked n) ∨
      ∃ (f : InFlight) (o : Outcome), w'.queue = w.queue.invoke f.sequence f.completion o ∧
        a ∈ f.completion.acts f.sequence := by
  have none : a ∉ w.work .receiver := free ▸ List.not_mem_nil
  have off : ∀ {w₁ : Threads} {e : ChannelError}, (∀ n, e ≠ .completionPanicked n) →
      a ∈ (w₁.breakOff e).work .receiver → ∃ e, a = .fail e ∧ ∀ n, e ≠ .completionPanicked n :=
    fun outer h => ⟨_, List.mem_singleton.mp h, outer⟩
  cases s with
  | read _ _ _ reading _ _ sound =>
      cases reading with
      | failed e => exact .inl (off sound h)
      | more _ | response _ _ | ended => exact absurd h none
  | surplus _ _ _ => exact .inl (off (fun _ => by nofun) h)
  | cut e _ outer => exact .inl (off outer h)
  | answer f o _ => exact .inr ⟨f, o, rfl, h⟩
  | wait | turn _ _ _ _ | pop _ _ _ _ _ | bare _ _ | halt _ => exact absurd h none

end Kept

/-- What a step of a run can be. -/
inductive Step (w : Threads) : Threads → Prop where
  | wait : Step w w
  | call (c : Call) :
      Step w ({ w with callers := w.callers + 1 }.assign (.caller w.callers) [c.act])
  | peer (stream : Endpoint) : Step w { w with stream }
  | act (t : Thread) (a : Act) (rest : List Act) (due : w.work t = a :: rest) :
      Step w (w.act t a rest)
  | send {w' : Threads} (free : w.work .sender = []) (s : w.SenderStep w') : Step w w'
  | receive {w' : Threads} (free : w.work .receiver = []) (s : w.ReceiverStep w') : Step w w'

theorem Step.grows {w w' : Threads} (s : w.Step w') : w.queue.Grows w'.queue := by
  cases s with
  | wait | call _ | peer _ => exact w.queue.grows_refl
  | act t a rest due => exact w.queue.grows_perform a
  | send free s => exact s.grows
  | receive free s => exact s.grows

theorem step_step {w : Threads} (tidy : w.queue.sending.Tidy) (e : Event) :
    w.Step (w.step e) := by
  cases e with
  | call c => exact .call c
  | peer stream => exact .peer stream
  | go t =>
      rw [step, go.eq_def]
      split
      · next a rest due => exact .act t a rest due
      · next free =>
        cases t with
        | caller n => exact .wait
        | sender => exact .send free (senderStep_of_send tidy)
        | receiver => exact .receive free w.receiverStep_of_receive

theorem after_append (w : Threads) (before later : List Event) :
    w.after (before ++ later) = (w.after before).after later :=
  List.foldl_append

/-- What each event of a run keeps, the run keeps. -/
theorem after_induction {P : Threads → Prop} {w : Threads} (h : P w)
    (step : ∀ {w}, P w → ∀ e, P (w.step e)) (run : List Event) : P (w.after run) := by
  induction run generalizing w with
  | nil => exact h
  | cons e rest ih => exact ih (step h e)

end Threads

end CacheCoherence
