import CacheCoherence.Proofs.QueueStream

/-!
What a queue writes to its stream, and what it makes of the octets that come,
whatever the other side sends. The octets written are the frames of the requests
sent, as far as they got. The answers are the responses among the octets taken,
and while the queue lives only responses that it still has are missing.
-/

namespace CacheCoherence

/-- The responses that octets consist of, up to where they cannot be read. -/
def Response.readAll (bytes : List UInt8) : List Response :=
  (Frame.readAll Response.read bytes).1

theorem zip_prefix_zip {α β : Type} {l l' : List α} {m m' : List β} (h : l <+: l') (h' : m <+: m')
    (length : l.length = m.length) : l.zip m <+: l'.zip m' := by
  obtain ⟨rest, rfl⟩ := h
  obtain ⟨rest', rfl⟩ := h'
  rw [List.zip_append length]
  exact List.prefix_append _ _

namespace UpdateQueue

/-- A queue against the octets that it has written and taken off the stream. -/
structure Faithful (q : UpdateQueue) (written taken : List UInt8) : Prop where
  ordered : q.Ordered
  tidy : q.sending.Tidy
  /-- What will never be written is known only once the sending task has stopped. -/
  sent : ∃ unsent, q.sent.flatMap (fun s => s.request.frame) =
      written ++ (q.sending.pending ++ unsent) ∧ (q.isTaking = true → unsent = [])
  outcomes : q.answers.map Delivery.outcome <+: (Response.readAll taken).map Response.toOutcome
  /-- A live queue has answered with all responses but those among the octets that it still has. -/
  consumed : q.failure = none → ∃ received done, q.receiving = .running received ∧
    done.map Response.toOutcome = q.answers.map Delivery.outcome ∧
    ∀ more, Response.readAll (taken ++ more) = done ++ Response.readAll (received ++ more)

theorem faithful_new (node : NodeId) (limits : Limits) : Faithful { node, limits } [] [] where
  ordered := ordered_new node limits
  tidy := trivial
  sent := ⟨[], rfl, fun _ => rfl⟩
  outcomes := List.nil_prefix
  consumed _ := ⟨[], [], rfl, rfl, fun _ => rfl⟩

variable {q q' : UpdateQueue} {stream stream' : Endpoint} {written taken : List UInt8}

/-- A change of the queue that leaves alone what has been sent and answered. -/
theorem Faithful.of_queue (h : q.Faithful written taken) (ordered : q'.Ordered)
    (sent : q'.sent = q.sent) (answers : q'.answers = q.answers) (sending : q'.sending = q.sending)
    (live : q'.failure = none → q.failure = none ∧ q'.receiving = q.receiving) :
    q'.Faithful written taken where
  ordered := ordered
  tidy := sending ▸ h.tidy
  sent := by
    rw [isTaking, sent, sending]
    exact h.sent
  outcomes := by
    rw [answers]
    exact h.outcomes
  consumed still := by
    obtain ⟨before, receiving⟩ := live still
    rw [answers, receiving]
    exact h.consumed before

theorem Faithful.continues (h : q.Faithful written taken) (later : q.Continues q') :
    q'.Faithful written taken :=
  h.of_queue (later.ordered h.ordered) later.sent later.answers later.sending fun still =>
    ⟨(later.live still).1, later.receiving⟩

/-- A queue that fails answers with no more of what it has taken. -/
theorem Faithful.failReceiving (h : q.Faithful written taken) (e : ChannelError)
    {taken' : List UInt8} (outcomes : q.answers.map Delivery.outcome <+:
      (Response.readAll taken').map Response.toOutcome) :
    (q.failReceiving e).Faithful written taken' := by
  have failed := h.continues (q.continues_fail e)
  refine ⟨failed.ordered.receiving .stopped, failed.tidy, failed.sent, ?_, fun live => ?_⟩
  · rw [show (q.failReceiving e).answers = q.answers from (q.continues_fail e).answers]
    exact outcomes
  · rw [show (q.failReceiving e).failure = _ from failure_fail q e] at live
    cases live

theorem Faithful.send (h : q.Faithful written taken) (sent : q.Transmission stream q' stream') :
    q'.Faithful (written ++ stream.given stream') (taken ++ stream.taken stream') := by
  obtain ⟨launched, given, lost, s, moved⟩ := sent.sends
  obtain ⟨unsent, octets, taking⟩ := h.sent
  obtain ⟨whole, still⟩ := s.octets_append taking
  rw [moved.given_eq, moved.taken_eq, List.append_nil]
  refine ⟨sent.ordered h.ordered, sent.tidy, ⟨lost ++ unsent, ?_, still⟩, ?_, fun live => ?_⟩
  · rw [s.sent, List.flatMap_append, octets, List.append_assoc, whole, List.append_assoc]
  · rw [s.answers]
    exact h.outcomes
  · rw [s.answers, s.receiving]
    exact h.consumed (s.live live)

/-- Octets that come make responses of themselves, and of those that were there. -/
theorem Faithful.take (h : q.Faithful written taken) (live : q.failure = none)
    {received : List UInt8} (running : q.receiving = .running received) (bytes : List UInt8) :
    Faithful { q with receiving := .running (received ++ bytes) } written (taken ++ bytes) := by
  obtain ⟨received', done, same, outcomes, all⟩ := h.consumed live
  cases running.symm.trans same
  refine ⟨h.ordered.receiving _, h.tidy, h.sent, ?_, fun _ => ⟨received ++ bytes, done, rfl,
    outcomes, fun more => ?_⟩⟩
  · rw [all bytes, List.map_append, outcomes]
    exact List.prefix_append _ _
  · rw [List.append_assoc, List.append_assoc]
    exact all (bytes ++ more)

/-- A response goes to the first request that is sent and not answered. -/
theorem Faithful.answer (h : q.Faithful written taken) (live : q.failure = none)
    (flying : q.inFlight ≠ []) {received rest : List UInt8} {r : Response}
    (running : q.receiving = .running received)
    (arrived : Response.read.arrival received = .frame r rest) :
    (q.answer r rest).Faithful written taken := by
  obtain ⟨s, later, oldest⟩ : ∃ s later, q.sent.drop q.answers.length = s :: later := by
    refine List.exists_cons_of_ne_nil fun none => flying ?_
    rw [h.ordered.flying live, none]
    rfl
  obtain ⟨ordered, -, -, sent, sending, receiving, answers⟩ :=
    h.ordered.answer live oldest r.isAnswer_toOutcome rest
  obtain ⟨received', done, same, outcomes, all⟩ := h.consumed live
  cases running.symm.trans same
  have next : ∀ more, Response.readAll (received ++ more) = r :: Response.readAll (rest ++ more) :=
    fun more => congrArg Prod.fst (Response.divides.readAll_frame arrived more)
  have told : (done ++ [r]).map Response.toOutcome =
      (q.answer r rest).answers.map Delivery.outcome := by
    rw [answers, List.map_append, List.map_append, outcomes]
    rfl
  have whole : ∀ more, Response.readAll (taken ++ more) =
      (done ++ [r]) ++ Response.readAll (rest ++ more) := by
    intro more
    rw [all, next, List.append_assoc]
    rfl
  refine ⟨ordered, sending ▸ h.tidy, ?_, ?_, fun _ => ⟨rest, _, receiving, told, whole⟩⟩
  · rw [isTaking, sent, sending]
    exact h.sent
  · have now : done ++ [r] <+: Response.readAll taken :=
      ⟨_, (whole []).symm.trans (congrArg Response.readAll (List.append_nil taken))⟩
    rw [← told]
    exact now.map _

theorem Faithful.digest (h : q.Faithful written taken) (live : q.failure = none)
    {received : List UInt8} (running : q.receiving = .running received) (bytes : List UInt8) :
    (q.digest (received ++ bytes)).Faithful written (taken ++ bytes) := by
  have took := h.take live running bytes
  rw [UpdateQueue.digest]
  cases arrived : Response.read.arrival (received ++ bytes) with
  | nothing | begun _ _ => exact took
  | refused e => exact h.failReceiving e took.outcomes
  | frame r rest =>
      dsimp only
      cases flying : q.inFlight with
      | nil =>
          rw [UpdateQueue.answer, flying]
          exact h.failReceiving _ took.outcomes
      | cons f others =>
          have some : q.inFlight ≠ [] := flying ▸ List.cons_ne_nil f others
          have answered := took.answer live some rfl arrived
          rw [answer_receiving some] at answered
          exact answered

theorem Faithful.reception (h : q.Faithful written taken)
    (received : q.Reception stream q' stream') :
    q'.Faithful (written ++ stream.given stream') (taken ++ stream.taken stream') := by
  cases received with
  | stop e failed =>
      rw [stream.moved_refl.given_eq, stream.moved_refl.taken_eq, List.append_nil, List.append_nil]
      refine h.of_queue (h.ordered.receiving .stopped) rfl rfl rfl fun live => ?_
      exact absurd (failed.symm.trans live) nofun
  | fail e received running lacking unbroken =>
      rw [stream.moved_refl.given_eq, stream.moved_refl.taken_eq, List.append_nil, List.append_nil]
      exact h.failReceiving e h.outcomes
  | digest received bytes stream' running live moved =>
      rw [moved.given_eq, moved.taken_eq, List.append_nil]
      exact h.digest live running bytes

end UpdateQueue

namespace Exchange

open UpdateQueue

theorem faithful_step {x : Exchange} {written taken : List UInt8}
    (h : x.queue.Faithful written taken) {a : Action} (own : ∀ stream, a ≠ .peer stream) :
    (x.step a).queue.Faithful (written ++ x.stream.given (x.step a).stream)
      (taken ++ x.stream.taken (x.step a).stream) := by
  have still : x.queue.Faithful (written ++ x.stream.given x.stream)
      (taken ++ x.stream.taken x.stream) := by
    rwa [x.stream.moved_refl.given_eq, x.stream.moved_refl.taken_eq, List.append_nil,
      List.append_nil]
  have called : ∀ c, a.callback? = some c → (x.step a).queue.Faithful
      (written ++ x.stream.given (x.step a).stream)
      (taken ++ x.stream.taken (x.step a).stream) := by
    intro c callback
    obtain ⟨log, eq⟩ := exists_step_eq callback x
    have reacted := still.continues (x.queue.continues_react 0 c)
    rw [eq]
    exact reacted.of_queue (reacted.ordered.log log) rfl rfl rfl fun live => ⟨live, rfl⟩
  cases a with
  | enqueue _ _ | submit _ _ | evict _ _ | downgrade _ _ | shutdown | release =>
      exact called _ rfl
  | peer stream => exact absurd rfl (own stream)
  | send =>
      rw [step, advance]
      cases sent : x.queue.send x.stream with
      | none => exact still
      | some result => exact h.send (transmission_of_send h.tidy sent)
  | receive =>
      rw [step, advance]
      cases received : x.queue.receive x.stream with
      | none => exact still
      | some result => exact h.reception (reception_of_receive received)

end Exchange

end CacheCoherence
