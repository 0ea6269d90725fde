import CacheCoherence.Proofs.ChannelSteps
import CacheCoherence.Proofs.QueueStream
import CacheCoherence.Proofs.ResponseFormat

/-!
A queue and the channel that serves it, at the two ends of a stream. Nothing but
the position tells which answer is for which request. Both sides keep in step
all the same: what is on its way to the server is what the node has sent and the
server has not processed, and what is on its way back are the responses to what
has been processed and not been answered.
-/

namespace CacheCoherence

theorem Outcome.isAnswer_reply (o : Outcome) : Outcome.isAnswer o.reply = true := by
  cases o with
  | ok => rfl
  | error e => cases e <;> rfl

structure Dialogue where
  queue : UpdateQueue
  /-- The node's end of the stream. -/
  nodeEnd : Endpoint
  server : Server
  /-- The server's end of the stream. -/
  serverEnd : Endpoint
  channel : Channel
  /-- How the service of the channel has ended, once it has. -/
  ended : Option ChannelSummary := none

namespace Dialogue

inductive Action where
  /-- A caller of the queue does something, or one of its tasks. -/
  | node (a : Exchange.Action)
  /-- The channel is served. -/
  | serve
  /-- Anything else is done to the server, for whatever node. -/
  | server (op : Server.Operation)
  /-- The stream carries octets on. It may also change in its room, end or become faulty. -/
  | carry (nodeEnd serverEnd : Endpoint)

/-- Octets on their way to the server, the oldest first. -/
def upstream (d : Dialogue) : List UInt8 :=
  d.serverEnd.incoming.octets ++ d.nodeEnd.outgoing.octets

/-- Octets on their way to the node, the oldest first. -/
def downstream (d : Dialogue) : List UInt8 :=
  d.nodeEnd.incoming.octets ++ d.serverEnd.outgoing.octets

def handled (d : Dialogue) : List (Request × Outcome) :=
  d.channel.handled.toList

/-- A step of the service, if it has not ended. -/
def serve (d : Dialogue) : Dialogue :=
  if d.ended.isSome then d
  else
    match d.channel.step { server := d.server, stream := d.serverEnd } with
    | none => d
    | some (h, .inl channel) => { d with server := h.server, serverEnd := h.stream, channel }
    | some (h, .inr summary) =>
      { d with server := h.server, serverEnd := h.stream, ended := some summary }

/-- The stream neither loses octets nor changes their order; what would is left undone. -/
def step (d : Dialogue) : Action → Dialogue
  | .node (.peer _) => d
  | .node a =>
    let x := Exchange.step ⟨d.queue, d.nodeEnd⟩ a
    { d with queue := x.queue, nodeEnd := x.stream }
  | .serve => d.serve
  | .server op => { d with server := d.server.step op }
  | .carry nodeEnd serverEnd =>
    let carried : Dialogue := { d with nodeEnd, serverEnd }
    if carried.upstream = d.upstream ∧ carried.downstream = d.downstream then carried else d

def after (d : Dialogue) (run : List Action) : Dialogue :=
  run.foldl step d

/-- A new queue with the limits of the server's settings and a channel for a session of the server,
on a stream that has not carried anything. -/
def start (s : Server) (n : NodeId) (id : SessionId) : Dialogue :=
  let quiet : Endpoint := { incoming := ⟨0, {}, false⟩, outgoing := ⟨0, {}, false⟩, allowance := 0 }
  { queue := { node := n, limits := s.settings.limits }
    nodeEnd := quiet
    server := s
    serverEnd := quiet
    channel := { session := id, node := n } }

/-- Both sides agree on which requests have been sent, processed and answered. What a side will
never write is known only once it has stopped. -/
structure Agreed (d : Dialogue) : Prop where
  usable : d.server.settings.check = .ok ()
  limits : d.queue.limits = d.server.settings.limits
  ordered : d.queue.Ordered
  unbroken : d.queue.Unbroken
  tidy : d.queue.sending.Tidy
  /-- Requests that are sent and not processed are what comes, or would come, to the server next. -/
  up : ∃ coming unsent, d.queue.sent.map Submission.request = d.handled.map Prod.fst ++ coming ∧
    coming.flatMap Request.frame =
      d.channel.received ++ (d.upstream ++ (d.queue.sending.pending ++ unsent)) ∧
    (d.queue.isTaking = true → unsent = [])
  /-- Responses to requests that are processed and not answered come to the node next. -/
  down : ∀ received, d.queue.receiving = .running received → ∃ unwritten,
    (d.handled.drop d.queue.answers.length).flatMap (fun p => (Response.ofOutcome p.2).frame) =
      received ++ (d.downstream ++ unwritten) ∧
    (d.ended = none → unwritten = d.channel.answer.getD [])
  outcomes : d.queue.answers.map Delivery.outcome <+: d.handled.map fun p => Outcome.reply p.2
  ending : ∀ s e, d.ended = some s → s.ending = .failed e → e.isBreach = false

theorem agreed_start {s : Server} (usable : s.settings.check = .ok ()) (n : NodeId)
    (id : SessionId) : (start s n id).Agreed where
  usable := usable
  limits := rfl
  ordered := UpdateQueue.ordered_new n s.settings.limits
  unbroken e failed := by cases failed
  tidy := trivial
  up := ⟨[], [], rfl, rfl, fun _ => rfl⟩
  down received running := by
    cases running
    exact ⟨[], rfl, fun _ => rfl⟩
  outcomes := List.nil_prefix
  ending s e ended := by cases ended

variable {d : Dialogue}

theorem Agreed.handled_le (h : d.Agreed) : d.handled.length ≤ d.queue.sent.length := by
  obtain ⟨coming, unsent, sent, -, -⟩ := h.up
  have length := congrArg List.length sent
  simp only [List.length_map, List.length_append] at length
  omega

theorem Agreed.answers_le (h : d.Agreed) : d.queue.answers.length ≤ d.handled.length := by
  simpa only [List.length_map] using h.outcomes.length_le

section Node

/-- A change of the queue that leaves alone what has been sent and answered. -/
theorem Agreed.of_queue (h : d.Agreed) {q : UpdateQueue} (ordered : q.Ordered)
    (unbroken : q.Unbroken) (limits : q.limits = d.queue.limits) (sent : q.sent = d.queue.sent)
    (answers : q.answers = d.queue.answers) (sending : q.sending = d.queue.sending)
    (receiving : ∀ received, q.receiving = .running received →
      d.queue.receiving = .running received) : Agreed { d with queue := q } where
  usable := h.usable
  limits := limits.trans h.limits
  ordered := ordered
  unbroken := unbroken
  tidy := sending ▸ h.tidy
  up := by
    rw [UpdateQueue.isTaking, sent, sending]
    exact h.up
  down received running := by
    rw [answers]
    exact h.down received (receiving received running)
  outcomes := by
    rw [answers]
    exact h.outcomes
  ending := h.ending

theorem Agreed.continues (h : d.Agreed) {q : UpdateQueue} (later : d.queue.Continues q)
    (unbroken : q.Unbroken) : Agreed { d with queue := q } :=
  h.of_queue (later.ordered h.ordered) unbroken later.limits later.sent later.answers
    later.sending fun _ running => later.receiving ▸ running

theorem Agreed.failReceiving (h : d.Agreed) {e : ChannelError} (unbroken : e.isBreach = false) :
    Agreed { d with queue := d.queue.failReceiving e } := by
  have failed := h.continues (d.queue.continues_fail e) (h.unbroken.fail unbroken)
  refine failed.of_queue (failed.ordered.receiving .stopped) failed.unbroken rfl rfl rfl rfl ?_
  intro received running
  cases running

theorem Agreed.send (h : d.Agreed) {q : UpdateQueue} {stream : Endpoint}
    (sent : d.queue.Transmission d.nodeEnd q stream) :
    Agreed { d with queue := q, nodeEnd := stream } := by
  obtain ⟨launched, given, lost, s, moved⟩ := sent.sends
  obtain ⟨coming, unsent, requests, octets, taking⟩ := h.up
  obtain ⟨whole, still⟩ := s.octets_append taking
  have outgoing : upstream { d with queue := q, nodeEnd := stream } = d.upstream ++ given := by
    rw [upstream, upstream, moved.outgoing, List.append_assoc]
  have incoming : downstream { d with queue := q, nodeEnd := stream } = d.downstream := by
    rw [downstream, downstream, moved.incoming]
    rfl
  refine ⟨h.usable, s.limits.trans h.limits, sent.ordered h.ordered, sent.unbroken h.unbroken,
    sent.tidy, ⟨coming ++ launched.map Submission.request, lost ++ unsent, ?_, ?_, ?_⟩, ?_, ?_,
    h.ending⟩
  · change q.sent.map _ = d.handled.map _ ++ _
    rw [s.sent, List.map_append, requests, List.append_assoc]
  · change _ = d.channel.received ++ (upstream { d with queue := q, nodeEnd := stream } ++ _)
    rw [List.flatMap_append, octets, List.flatMap_map, outgoing]
    simp only [List.append_assoc] at whole ⊢
    rw [whole]
  · exact still
  · intro received running
    change ∃ unwritten, (d.handled.drop q.answers.length).flatMap _ =
      received ++ (downstream { d with queue := q, nodeEnd := stream } ++ unwritten) ∧ _
    rw [s.answers, incoming]
    exact h.down received (s.receiving ▸ running)
  · rw [s.answers]
    exact h.outcomes

/-- The node takes octets off the stream. -/
theorem Agreed.takeResponses (h : d.Agreed) {received bytes : List UInt8} {stream : Endpoint}
    (running : d.queue.receiving = .running received) (moved : d.nodeEnd.Moved stream bytes []) :
    Agreed
      { d with
        queue := { d.queue with receiving := .running (received ++ bytes) }
        nodeEnd := stream } := by
  refine ⟨h.usable, h.limits, h.ordered.receiving _, h.unbroken, h.tidy, ?_, fun all same => ?_,
    h.outcomes, h.ending⟩
  · simp only [upstream, moved.outgoing, List.append_nil]
    exact h.up
  · cases same
    obtain ⟨unwritten, octets, written⟩ := h.down received running
    refine ⟨unwritten, octets.trans ?_, written⟩
    simp only [downstream, moved.incoming, List.append_assoc]

/-- What is processed has been sent, so a response to it finds its request in flight. -/
theorem Agreed.oldest (h : d.Agreed) {p : Request × Outcome} {others : List (Request × Outcome)}
    (processed : d.handled.drop d.queue.answers.length = p :: others) :
    ∃ s later, d.queue.sent.drop d.queue.answers.length = s :: later := by
  have rest := congrArg List.length processed
  rw [List.length_drop, List.length_cons] at rest
  have sent := h.handled_le
  cases found : d.queue.sent.drop d.queue.answers.length with
  | nil =>
      have none := congrArg List.length found
      rw [List.length_drop, List.length_nil] at none
      omega
  | cons s later => exact ⟨s, later, rfl⟩

theorem Agreed.answer (h : d.Agreed) (live : d.queue.failure = none) {p : Request × Outcome}
    {others : List (Request × Outcome)} {rest unwritten : List UInt8}
    (processed : d.handled.drop d.queue.answers.length = p :: others)
    (octets : others.flatMap (fun p => (Response.ofOutcome p.2).frame) =
      rest ++ (d.downstream ++ unwritten))
    (written : d.ended = none → unwritten = d.channel.answer.getD []) :
    Agreed { d with queue := d.queue.answer (Response.ofOutcome p.2).clipped rest } := by
  obtain ⟨s, later, oldest⟩ := h.oldest processed
  have outcome := Response.toOutcome_clipped p.2
  have answered : Outcome.isAnswer (Response.ofOutcome p.2).clipped.toOutcome = true := by
    rw [outcome]
    exact Outcome.isAnswer_reply p.2
  obtain ⟨ordered, unbroken, limits, sent, sending, receiving, answers⟩ :=
    h.ordered.answer live oldest answered rest
  refine ⟨h.usable, limits.trans h.limits, ordered, unbroken, sending ▸ h.tidy, ?_, ?_, ?_,
    h.ending⟩
  · rw [UpdateQueue.isTaking, sent, sending]
    exact h.up
  · intro received running
    rw [receiving] at running
    cases running
    refine ⟨unwritten, Eq.trans ?_ octets, written⟩
    rw [answers, List.length_append, ← List.drop_drop]
    change List.flatMap _ ((d.handled.drop _).drop 1) = _
    rw [processed]
    rfl
  · have next : (d.handled.map fun p => Outcome.reply p.2).drop
        (d.queue.answers.map Delivery.outcome).length =
          p.2.reply :: others.map fun p => Outcome.reply p.2 := by
      rw [List.length_map, ← List.map_drop, processed, List.map_cons]
    rw [answers, List.map_append, outcome]
    exact prefix_concat_of_drop h.outcomes next

theorem Agreed.digestResponses (h : d.Agreed) (live : d.queue.failure = none)
    {received bytes : List UInt8} {stream : Endpoint}
    (running : d.queue.receiving = .running received) (moved : d.nodeEnd.Moved stream bytes []) :
    Agreed { d with queue := d.queue.digest (received ++ bytes), nodeEnd := stream } := by
  have taken := h.takeResponses running moved
  obtain ⟨unwritten, octets, written⟩ := taken.down _ rfl
  rw [← List.flatMap_map (fun p : Request × Outcome => Response.ofOutcome p.2)] at octets
  have arrived := Response.reads.arrival (fun _ _ => trivial) octets
  rw [UpdateQueue.digest]
  generalize Response.read.arrival (received ++ bytes) = arrival at arrived
  cases arrived with
  | nothing _ | begun _ _ => exact taken
  | frame x others rest first octets =>
      obtain ⟨p, others, processed, rfl, rfl⟩ := List.map_eq_cons_iff.mp first
      rw [List.flatMap_map] at octets
      obtain ⟨s, later, oldest⟩ := h.oldest processed
      have flying : d.queue.inFlight ≠ [] := by
        rw [h.ordered.flying live, oldest]
        exact List.cons_ne_nil _ _
      have answered := taken.answer live processed octets written
      rw [UpdateQueue.answer_receiving flying] at answered
      exact answered

theorem Agreed.reception (h : d.Agreed) {q : UpdateQueue} {stream : Endpoint}
    (received : d.queue.Reception d.nodeEnd q stream) :
    Agreed { d with queue := q, nodeEnd := stream } := by
  cases received with
  | stop e failed =>
      refine h.of_queue (h.ordered.receiving .stopped) h.unbroken rfl rfl rfl rfl ?_
      intro received running
      cases running
  | fail e received running lacking unbroken => exact h.failReceiving unbroken
  | digest received bytes stream running live moved => exact h.digestResponses live running moved

theorem Agreed.call (h : d.Agreed) {a : Exchange.Action} {c : Completion}
    (called : a.callback? = some c) :
    let x := Exchange.step ⟨d.queue, d.nodeEnd⟩ a
    Agreed { d with queue := x.queue, nodeEnd := x.stream } := by
  obtain ⟨log, eq⟩ := Exchange.exists_step_eq called ⟨d.queue, d.nodeEnd⟩
  have reacted := h.continues (d.queue.continues_react 0 c) (h.unbroken.react 0 c)
  intro x
  rw [show x = _ from eq]
  exact reacted.of_queue (reacted.ordered.log log) reacted.unbroken rfl rfl rfl rfl
    fun _ running => running

theorem Agreed.node (h : d.Agreed) (a : Exchange.Action) : (d.step (.node a)).Agreed := by
  cases a with
  | enqueue _ _ | submit _ _ | evict _ _ | downgrade _ _ | shutdown | release => exact h.call rfl
  | peer stream => exact h
  | send =>
      simp only [step, Exchange.step, Exchange.advance]
      cases sent : d.queue.send d.nodeEnd with
      | none => exact h
      | some result => exact h.send (UpdateQueue.transmission_of_send h.tidy sent)
  | receive =>
      simp only [step, Exchange.step, Exchange.advance]
      cases received : d.queue.receive d.nodeEnd with
      | none => exact h
      | some result => exact h.reception (UpdateQueue.reception_of_receive received)

end Node

section Serve

theorem Agreed.within (h : d.Agreed) {coming : List Request}
    (sent : d.queue.sent.map Submission.request = d.handled.map Prod.fst ++ coming) :
    ∀ r ∈ coming, r.Within d.server.settings.limits := by
  intro r hr
  have framed := Settings.framed_of_check h.usable
  obtain ⟨s, hs, rfl⟩ : ∃ s ∈ d.queue.sent, s.request = r := by
    rw [← List.mem_map, sent]
    exact List.mem_append_right _ hr
  rw [← Request.check_eq_ok_iff framed, ← h.limits]
  exact h.ordered.checked s (h.ordered.sent.subset hs)

/-- The server takes octets off the stream. -/
theorem Agreed.takeRequests (h : d.Agreed) {bytes : List UInt8} {stream : Endpoint}
    (moved : d.serverEnd.Moved stream bytes []) :
    Agreed
      { d with
        serverEnd := stream
        channel := { d.channel with received := d.channel.received ++ bytes } } := by
  refine ⟨h.usable, h.limits, h.ordered, h.unbroken, h.tidy, ?_, ?_, h.outcomes, h.ending⟩
  · obtain ⟨coming, unsent, sent, octets, taking⟩ := h.up
    refine ⟨coming, unsent, sent, octets.trans ?_, taking⟩
    simp only [upstream, moved.incoming, List.append_assoc]
  · simp only [downstream, moved.outgoing, List.append_nil]
    exact h.down

/-- A request that has come whole is processed, and its response is all that is to be written. -/
theorem Agreed.process (h : d.Agreed) (answered : d.channel.answer = none)
    (running : d.ended = none) {r : Request} {coming : List Request} {rest unsent : List UInt8}
    (sent : d.queue.sent.map Submission.request = d.handled.map Prod.fst ++ r :: coming)
    (octets : coming.flatMap Request.frame =
      rest ++ (d.upstream ++ (d.queue.sending.pending ++ unsent)))
    (taking : d.queue.isTaking = true → unsent = []) {server : Server} {done : Processed}
    (processed : d.server.process d.channel.session r = some (server, done)) :
    Agreed
      { d with
        server
        channel := { d.channel with
          processed := d.channel.processed + 1
          received := rest
          answer := some (Response.ofOutcome done.outcome).frame
          handled := d.channel.handled.append [(r, done.outcome)] } } := by
  have settings : server.settings = d.server.settings := by
    have same := d.server.settings_process d.channel.session r
    rw [processed] at same
    exact same
  have handled : (d.channel.handled.append [(r, done.outcome)]).toList =
      d.handled ++ [(r, done.outcome)] := Journal.toList_append ..
  refine ⟨settings ▸ h.usable, settings ▸ h.limits, h.ordered, h.unbroken, h.tidy, ?_, ?_, ?_,
    h.ending⟩
  · refine ⟨coming, unsent, ?_, octets, taking⟩
    change _ = (d.channel.handled.append [(r, done.outcome)]).toList.map Prod.fst ++ coming
    rw [sent, handled, List.map_append, List.append_assoc]
    rfl
  · intro received running'
    obtain ⟨unwritten, octets, written⟩ := h.down received running'
    have nothing : unwritten = [] := by
      rw [written running, answered]
      rfl
    refine ⟨(Response.ofOutcome done.outcome).frame, ?_, fun _ => rfl⟩
    rw [Dialogue.handled, handled, List.drop_append_of_le_length h.answers_le, List.flatMap_append,
      octets, nothing, List.append_nil, List.append_assoc, List.flatMap_singleton]
    rfl
  · rw [Dialogue.handled, handled, List.map_append]
    exact h.outcomes.trans (List.prefix_append ..)

theorem Agreed.digestRequests (h : d.Agreed) (answered : d.channel.answer = none)
    (running : d.ended = none) {result : Host × (Channel ⊕ ChannelSummary)}
    (digested : d.channel.digest { server := d.server, stream := d.serverEnd } = some result) :
    ∃ channel, result.2 = .inl channel ∧
      Agreed { d with server := result.1.server, serverEnd := result.1.stream, channel } := by
  obtain ⟨coming, unsent, sent, octets, taking⟩ := h.up
  have arrived := (Request.reads d.server.settings.limits).arrival (h.within sent) octets
  rw [Channel.digest, Channel.arrival] at digested
  dsimp only at digested
  generalize (Request.read d.server.settings.limits).arrival d.channel.received = arrival
    at arrived digested
  cases arrived with
  | nothing _ | begun _ _ =>
      cases digested
      exact ⟨d.channel, rfl, h⟩
  | frame r others rest first octets =>
      obtain ⟨p, processed, eq⟩ := Option.map_eq_some_iff.mp digested
      cases eq
      exact ⟨_, rfl, h.process answered running (first ▸ sent) octets taking processed⟩

/-- A part of the answer is written, and the rest is left. -/
theorem Agreed.written (h : d.Agreed) (running : d.ended = none) {given left : List UInt8}
    {stream : Endpoint} (octets : d.channel.answer.getD [] = given ++ left)
    (moved : d.serverEnd.Moved stream [] given) {received : List UInt8}
    (receiving : d.queue.receiving = .running received) :
    (d.handled.drop d.queue.answers.length).flatMap (fun p => (Response.ofOutcome p.2).frame) =
      received ++ (downstream { d with serverEnd := stream } ++ left) := by
  obtain ⟨unwritten, responses, written⟩ := h.down received receiving
  rw [responses, written running, octets]
  simp only [downstream, moved.outgoing, List.append_assoc]

theorem Agreed.respond (h : d.Agreed) (running : d.ended = none) {answer : Option (List UInt8)}
    {given : List UInt8} {stream : Endpoint}
    (octets : d.channel.answer.getD [] = given ++ answer.getD [])
    (moved : d.serverEnd.Moved stream [] given) :
    Agreed { d with serverEnd := stream, channel := { d.channel with answer } } := by
  refine ⟨h.usable, h.limits, h.ordered, h.unbroken, h.tidy, ?_, ?_, h.outcomes, h.ending⟩
  · have incoming : stream.incoming.octets = d.serverEnd.incoming.octets := moved.incoming.symm
    simp only [upstream, incoming]
    exact h.up
  · intro received receiving
    exact ⟨_, h.written running octets moved receiving, fun _ => rfl⟩

theorem Agreed.finish (h : d.Agreed) (running : d.ended = none) {ending : ChannelEnd}
    {given lost : List UInt8} {stream : Endpoint}
    (unbroken : ∀ e, ending = .failed e → e.isBreach = false)
    (octets : d.channel.answer.getD [] = given ++ lost)
    (moved : d.serverEnd.Moved stream [] given) :
    let result := d.channel.finish { server := d.server, stream } ending
    ∃ summary, result.2 = .inr summary ∧
      Agreed
        { d with
          server := result.1.server
          serverEnd := result.1.stream
          ended := some summary } := by
  have gone : d.serverEnd.Moved stream.finish.1.drop [] given := moved.finish.drop
  refine ⟨_, rfl, h.usable, h.limits, h.ordered, h.unbroken, h.tidy, ?_, ?_, h.outcomes, ?_⟩
  · have incoming : stream.finish.1.drop.incoming.octets = d.serverEnd.incoming.octets :=
      gone.incoming.symm
    obtain ⟨coming, unsent, sent, octets, taking⟩ := h.up
    refine ⟨coming, unsent, sent, octets.trans ?_, taking⟩
    rw [upstream, ← incoming]
    rfl
  · intro received receiving
    refine ⟨lost, h.written running octets gone receiving, fun none => ?_⟩
    cases none
  · intro s e ended failed
    cases ended
    exact unbroken e failed

theorem Agreed.serve (h : d.Agreed) : d.serve.Agreed := by
  rw [Dialogue.serve]
  split
  · exact h
  · next unended =>
    have running : d.ended = none := by simpa using unended
    cases step : d.channel.step { server := d.server, stream := d.serverEnd } with
    | none => exact h
    | some result =>
        cases Channel.service_of_step step with
        | respond answer given stream answering octets moved => exact h.respond running octets moved
        | digest bytes stream answered moved result digested =>
            obtain ⟨channel, eq, agreed⟩ :=
              (h.takeRequests moved).digestRequests answered running digested
            obtain ⟨host, next⟩ := result
            cases eq
            exact agreed
        | finish ending given lost stream why octets moved =>
            obtain ⟨summary, eq, agreed⟩ := h.finish running why.unbroken octets moved
            cases eq
            exact agreed

end Serve

theorem Agreed.step (h : d.Agreed) (a : Action) : (d.step a).Agreed := by
  cases a with
  | node a => exact h.node a
  | serve => exact h.serve
  | server op =>
      have settings : (d.server.step op).settings = d.server.settings := d.server.settings_step op
      exact ⟨settings ▸ h.usable, settings ▸ h.limits, h.ordered, h.unbroken, h.tidy, h.up, h.down,
        h.outcomes, h.ending⟩
  | carry nodeEnd serverEnd =>
      rw [Dialogue.step]
      split
      · next same =>
        refine ⟨h.usable, h.limits, h.ordered, h.unbroken, h.tidy, ?_, ?_, h.outcomes, h.ending⟩
        · rw [same.1]
          exact h.up
        · rw [same.2]
          exact h.down
      · exact h

theorem Agreed.after (h : d.Agreed) (run : List Action) : (d.after run).Agreed := by
  induction run generalizing d with
  | nil => exact h
  | cons a run ih => exact ih (h.step a)

theorem conserved_step (h : UpdateQueue.Conserved [] d.queue) (a : Action) :
    UpdateQueue.Conserved [] (d.step a).queue := by
  cases a with
  | node a =>
      have stepped := Exchange.step_keeps (x := ⟨d.queue, d.nodeEnd⟩) UpdateQueue.keeps_conserved
        UpdateQueue.Conserved.sendStep UpdateQueue.Conserved.receiveStep a h
      cases a <;> exact stepped
  | serve =>
      rw [Dialogue.step, Dialogue.serve]
      split
      · exact h
      · split <;> exact h
  | server op => exact h
  | carry nodeEnd serverEnd =>
      rw [Dialogue.step]
      split <;> exact h

theorem conserved_after (h : UpdateQueue.Conserved [] d.queue) (run : List Action) :
    UpdateQueue.Conserved [] (d.after run).queue := by
  induction run generalizing d with
  | nil => exact h
  | cons a run ih => exact ih (conserved_step h a)

/-- Whatever the callers, both tasks, the service, the stream and the rest of the server do in
turn, the requests that are answered, processed, sent and accepted are each a beginning of the
next, every request is processed as it was accepted, and each answer is that of its own request. -/
theorem answers_prefix_accepted {s : Server} (usable : s.settings.check = .ok ()) (n : NodeId)
    (id : SessionId) (run : List Action) :
    let d := (start s n id).after run
    let q := d.queue
    (q.answers.map Delivery.ticket <+: (q.sent.take d.handled.length).map Submission.ticket ∧
      d.handled.map Prod.fst = (q.sent.take d.handled.length).map Submission.request ∧
      q.sent <+: q.accepted) ∧
    (q.accepted.map Submission.sequence).Nodup ∧
    (q.answers.map Delivery.outcome <+: d.handled.map fun p => Outcome.reply p.2) ∧
    (∀ e, q.failure = some e → e.isBreach = false) ∧
    ∀ summary e, d.ended = some summary → summary.ending = .failed e → e.isBreach = false := by
  intro d q
  have h : d.Agreed := (agreed_start usable n id).after run
  have conserved : UpdateQueue.Conserved [] q :=
    conserved_after (UpdateQueue.conserved_new n s.settings.limits) run
  obtain ⟨coming, unsent, sent, -, -⟩ := h.up
  refine ⟨⟨?_, ?_, h.ordered.sent⟩, conserved.nodup_accepted, h.outcomes, h.unbroken, h.ending⟩
  · rw [List.map_take]
    refine List.prefix_take_iff.mpr ⟨h.ordered.answered, ?_⟩
    rw [List.length_map]
    exact h.answers_le
  · rw [List.map_take, sent]
    exact (List.take_left' (List.length_map ..)).symm

def asked : List Request :=
  [.commit (.store {} 10 [7]), .evictObject 11, .downgradeObject 10, .evictObject 10]

def askedFrames : List UInt8 := asked.flatMap Request.frame

def replyFrames : List UInt8 :=
  let fault : ConsistencyFault := .notHeld 1 (.object 11) .unheld
  Response.ok.frame ++ (Response.fault fault.message).frame

def roomy (incoming outgoing : List UInt8) : Endpoint :=
  ⟨⟨4096, .ofList incoming, false⟩, ⟨4096, .ofList outgoing, false⟩, {}, 64⟩

/-- Node 1 hands in five requests, of which the second gives up what it does not hold, and sends
four. The last of these has not come whole when the answers to two are there and that to the third
is not written yet. -/
def overlapping : List Action :=
  [.server (.register 1), .server (.directory (.grant (.object 10) 1 .write)), .server (.attach 0),
    .carry (roomy [] []) (roomy [] [])] ++
  asked.map (fun r => .node (.enqueue r .ignore)) ++ [.node (.submit (.evictObject 12) 4)] ++
  List.replicate 8 (.node .send) ++
  [.carry (roomy [] (askedFrames.drop 52)) (roomy (askedFrames.take 52) [])] ++
  List.replicate 5 .serve ++
  [.carry (roomy replyFrames (askedFrames.drop 52)) (roomy [] [])] ++
  List.replicate 2 (.node .receive)

theorem answers_prefix_of_overlapping :
    let s : Server := ⟨{ shards := 1, feedCapacity := 1 }, .new Key.place 1, {}, {}, .new 1⟩
    let d := (start s 1 0).after overlapping
    s.settings.check = .ok () ∧
      [d.queue.answers.length, d.handled.length, d.queue.sent.length,
        d.queue.accepted.length] = [2, 3, 4, 5] ∧
      d.handled.map Prod.fst = (d.queue.sent.take d.handled.length).map Submission.request ∧
      d.queue.sent <+: d.queue.accepted ∧
      d.queue.answers.map Delivery.outcome <+: d.handled.map fun p => Outcome.reply p.2 := by
  intro s d
  have usable : s.settings.check = .ok () := by decide
  obtain ⟨⟨-, handled, sent⟩, -, outcomes, -⟩ := answers_prefix_accepted usable 1 0 overlapping
  exact ⟨usable, by decide +kernel, handled, sent, outcomes⟩

end Dialogue

end CacheCoherence
