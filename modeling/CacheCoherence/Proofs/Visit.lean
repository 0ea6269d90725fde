import CacheCoherence.Proofs.ChannelTurns
import CacheCoherence.Proofs.DirectoryLevels
import CacheCoherence.Proofs.ServerRegistry

/-!
A channel and a peer that sends some octets, closes its side of the stream behind
them and reads what it is sent. Whatever is done to the server meanwhile, if it
does not end the session, the requests of the octets are processed one by one, and
the session is closed behind the last of them.
-/

namespace CacheCoherence

namespace Server

/-- The outcome of the request that an operation has processed, if it comes to that. -/
def outcome? (s : Server) (op : Operation) : Option Outcome :=
  (s.request? op).bind fun p => (s.process p.1 p.2).map fun done => done.2.outcome

/-- The server `s` has become `t` by the deeds of one party, with what came of each, and by what
others have done, both in their order. -/
inductive Became (s : Server) :
    List (Operation × Option Outcome) → List Operation → Server → Prop where
  | refl : Became s [] [] s
  | deed {deeds others t} (before : Became s deeds others t) (op : Operation) :
      Became s (deeds ++ [(op, t.outcome? op)]) others (t.step op)
  | other {deeds others t} (before : Became s deeds others t) (op : Operation) :
      Became s deeds (others ++ [op]) (t.step op)

/-- The session is the registration of its node and is not shut down. -/
structure Serves (s : Server) (id : SessionId) (n : NodeId) : Prop where
  live : s.registry.live.get? n = some id
  session : ∃ session, s.registry.session? id = some session ∧ session.node = n ∧
    session.shutDown = false

variable {s : Server} {id : SessionId} {n : NodeId}

theorem Serves.nodeOf (h : s.Serves id n) : s.nodeOf id = some n := by
  obtain ⟨session, present, own, -⟩ := h.session
  rw [Server.nodeOf, present, Option.map_some, own]

theorem Serves.process (h : s.Serves id n) {r : Request} {p : Server × Processed}
    (processed : s.process id r = some p) : p.1.Serves id n := by
  obtain ⟨session, present, own, up⟩ := h.session
  rw [process_of_session present] at processed
  cases processed
  have registry := (s.frame_apply session.node r).2.1
  refine ⟨?_, countOutcome (s.apply session.node r).1 session, ?_, ?_, ?_⟩
  · dsimp only
    rw [registry]
    exact h.live
  · dsimp only
    rw [registry, Registry.session?_modify, if_pos rfl, present]
    rfl
  · rw [node_countOutcome, own]
  · rw [shutDown_countOutcome, up]

/-- Closing a session that is live shuts it down, strikes it from the registry, and takes everything
from its node. -/
theorem Serves.closeSession (h : s.Serves id n) :
    let t := s.step (.closeSession id)
    (∃ session, t.registry.session? id = some session ∧ session.shutDown = true) ∧
      n ∉ t.registry.nodes ∧ ∀ k, (t.directory.state k).levelOf n = none := by
  obtain ⟨session, present, rfl, -⟩ := h.session
  have ending := Registry.session?_shutDown_self present
  have ended : s.step (.closeSession id) =
      (s.ended (s.registry.endSession session.node id release (s.directory, []))).1 := by
    rw [step, Server.closeSession, Registry.close, present]
    exact congrArg (fun r => (s.ended r).1) (if_pos h.live)
  intro t
  rw [show t = _ from ended, Registry.endSession_eq]
  refine ⟨⟨_, ending, rfl⟩, s.registry.not_mem_nodes_strike session.node id, fun k => ?_⟩
  simp only [Server.ended, release, ending, Directory.levelOf_releaseNode, if_true]

end Server

structure Visit where
  host : Host
  task : Channel ⊕ ChannelSummary
  /-- What the peer has still to send. -/
  unsent : List UInt8
  /-- What the peer has read. -/
  got : List UInt8 := []
  /-- What others have done to the server, in order. -/
  others : List Server.Operation := []

namespace Visit

inductive Event where
  /-- The service goes on, and has some calls on its stream until it lets others go on. -/
  | serve (calls : Nat)
  /-- The peer sends octets, no more than so many and than there is room for. -/
  | send (n : Nat)
  /-- The peer closes its side of the stream, if it has sent everything. -/
  | hangUp
  | read (n : Nat)
  /-- Something else is done to the server, unless the session would not survive it. -/
  | other (op : Server.Operation)

/-- The host as the service finds it when it may make so many calls. -/
def ready (v : Visit) (calls : Nat) : Host :=
  { v.host with stream := { v.host.stream with allowance := calls } }

def serve (v : Visit) (calls : Nat) : Visit :=
  match v.task with
  | .inr _ => v
  | .inl c =>
    match c.step (v.ready calls) with
    | none => v
    | some (host, task) => { v with host, task }

def withStream (v : Visit) (stream : Endpoint) : Visit :=
  { v with host := { v.host with stream } }

def send (v : Visit) (n : Nat) : Visit :=
  let stream := v.host.stream
  if stream.incoming.closed then v
  else
    let sent := stream.incoming.accept (v.unsent.take n)
    { v.withStream { stream with incoming := sent.1 } with unsent := sent.2 ++ v.unsent.drop n }

def hangUp (v : Visit) : Visit :=
  let stream := v.host.stream
  if v.unsent = [] then v.withStream { stream with incoming := stream.incoming.close } else v

def read (v : Visit) (n : Nat) : Visit :=
  let stream := v.host.stream
  let buffer := stream.outgoing.buffer
  { v.withStream { stream with outgoing := { stream.outgoing with buffer := buffer.drop n } } with
    got := v.got ++ buffer.toList.take n }

def other (v : Visit) (op : Server.Operation) : Visit :=
  match v.task with
  | .inr _ => v
  | .inl c =>
    let server := v.host.server.step op
    if server.registry.live.get? c.node = some c.session ∧ c.isShutDown server = false then
      { v with host := { v.host with server }, others := v.others ++ [op] }
    else v

def step (v : Visit) : Event → Visit
  | .serve calls => v.serve calls
  | .send n => v.send n
  | .hangUp => v.hangUp
  | .read n => v.read n
  | .other op => v.other op

/-- The visit after the first events of a schedule. -/
def run (v : Visit) (schedule : Nat → Event) : Nat → Visit
  | 0 => v
  | n + 1 => (v.run schedule n).step (schedule n)

/-- A new channel for a session, on a stream with room for so many octets in and out. -/
def start (s : Server) (id : SessionId) (inward outward : Nat) (bytes : List UInt8) :
    Option Visit :=
  let stream : Endpoint :=
    { incoming := ⟨inward, .ofList [], false⟩, outgoing := ⟨outward, .ofList [], false⟩,
      allowance := 0 }
  match Channel.attach id { server := s, stream } with
  | some (host, .inl c) => some { host, task := .inl c, unsent := bytes }
  | _ => none

/-- What is written in answer to requests that have been processed. -/
def answers (handled : List (Request × Outcome)) : List UInt8 :=
  handled.flatMap fun p => (Response.ofOutcome p.2).frame

/-- What a channel that has processed these requests has done to its server. -/
def deeds (id : SessionId) (handled : List (Request × Outcome)) :
    List (Server.Operation × Option Outcome) :=
  (.attach id, none) :: handled.map fun p => (.process id p.1, some p.2)

theorem deeds_concat (id : SessionId) (handled : List (Request × Outcome)) (p : Request × Outcome) :
    deeds id (handled ++ [p]) = deeds id handled ++ [(.process id p.1, some p.2)] := by
  simp [deeds]

/-- A stream that works, and is open on the side of the service. -/
structure Sane (stream : Endpoint) : Prop where
  quiet : stream.faults = {}
  unclosed : stream.outgoing.closed = false
  inward : 0 < stream.incoming.capacity
  outward : 0 < stream.outgoing.capacity

theorem Sane.of_alike {stream stream' : Endpoint} (h : Sane stream) (alike : stream.Alike stream') :
    Sane stream' where
  quiet := alike.faults.trans h.quiet
  unclosed := alike.outgoingClosed.trans h.unclosed
  inward := alike.incomingCapacity ▸ h.inward
  outward := alike.outgoingCapacity ▸ h.outward

/-- What the service has still to receive, and what is there of it. -/
def coming (v : Visit) (c : Channel) : List UInt8 :=
  c.received ++ (v.host.stream.incoming.octets ++ v.unsent)

section Safety

variable (s : Server) (id : SessionId) (n : NodeId) (bytes : List UInt8)

/-- What holds while the channel is served: the requests processed are the first ones of the octets,
and their answers are what the peer has got and will get. -/
structure Underway (v : Visit) (c : Channel) : Prop where
  session : c.session = id
  node : c.node = n
  serves : v.host.server.Serves id n
  settings : v.host.server.settings = s.settings
  count : c.processed = c.handled.toList.length
  became : s.Became (deeds id c.handled.toList) v.others v.host.server
  input : s.readAll bytes =
    (c.handled.toList.map Prod.fst ++ (s.readAll (v.coming c)).1, (s.readAll (v.coming c)).2)
  output : v.got ++ (v.host.stream.outgoing.octets ++ c.answer.getD []) = answers c.handled.toList
  sane : Sane v.host.stream
  closed : v.host.stream.incoming.closed = true → v.unsent = []

/-- What holds once the service has returned. -/
structure Finished (v : Visit) (summary : ChannelSummary) : Prop where
  handled : ∃ handled : List (Request × Outcome),
    handled.map Prod.fst = (s.readAll bytes).1 ∧
    s.Became (deeds id handled ++ [(.closeSession id, none)]) v.others v.host.server ∧
    v.got ++ v.host.stream.outgoing.octets = answers handled
  summary : summary = ⟨n, (s.readAll bytes).1.length, .ofRead (s.readAll bytes).2⟩
  shutDown : ∃ session, v.host.server.registry.session? id = some session ∧
    session.shutDown = true
  unregistered : n ∉ v.host.server.registry.nodes
  unheld : ∀ k, (v.host.server.directory.state k).levelOf n = none
  closed : v.host.stream.incoming.closed = true

def Good (v : Visit) : Prop :=
  match v.task with
  | .inl c => Underway s id n bytes v c
  | .inr summary => Finished s id n bytes v summary

end Safety

variable {s : Server} {id : SessionId} {n : NodeId} {bytes : List UInt8} {v : Visit} {c : Channel}

theorem good_of_underway (h : Underway s id n bytes v c) (task : v.task = .inl c) :
    Good s id n bytes v := by
  rw [Good, task]
  exact h

theorem Underway.isShutDown (h : Underway s id n bytes v c) :
    c.isShutDown v.host.server = false := by
  obtain ⟨session, present, -, up⟩ := h.serves.session
  rw [Channel.isShutDown, h.session, present]
  exact up

theorem Underway.finish (h : Underway s id n bytes v c) (stream : Endpoint)
    (answered : c.answer = none) (output : stream.outgoing.octets = v.host.stream.outgoing.octets)
    {result : Except ChannelError Unit} (last : s.readAll (v.coming c) = ([], result)) :
    let finished := c.finish { v.host with stream } (.ofRead result)
    Good s id n bytes { v with host := finished.1, task := finished.2 } := by
  have all := h.input
  rw [last, List.append_nil] at all
  obtain ⟨shutDown, unregistered, unheld⟩ := h.serves.closeSession
  rw [← h.session] at shutDown unregistered unheld
  refine ⟨⟨c.handled.toList, by rw [all], ?_, ?_⟩, ?_, ?_, unregistered, unheld, rfl⟩
  · have became := h.became.deed (.closeSession id)
    rw [← h.session] at became ⊢
    exact became
  · have written := h.output
    rw [answered, Option.getD_none, List.append_nil, ← output] at written
    rw [← written]
    exact congrArg _ (c.octets_finish { v.host with stream } _)
  · rw [all, List.length_map, ← h.count, ← h.node]
  · rw [← h.session]
    exact shutDown

/-- Octets have moved, and nothing else has changed. -/
theorem Underway.of_octets (h : Underway s id n bytes v c) {v' : Visit} {c' : Channel}
    (server : v'.host.server = v.host.server) (others : v'.others = v.others)
    (channel : c' = { c with received := c'.received, answer := c'.answer })
    (coming : v'.coming c' = v.coming c)
    (written : v'.got ++ (v'.host.stream.outgoing.octets ++ c'.answer.getD []) =
      v.got ++ (v.host.stream.outgoing.octets ++ c.answer.getD []))
    (sane : Sane v'.host.stream)
    (closed : v'.host.stream.incoming.closed = true → v'.unsent = []) :
    Underway s id n bytes v' c' := by
  rw [channel] at coming written ⊢
  refine ⟨h.session, h.node, ?_, ?_, h.count, ?_, ?_, written.trans h.output, sane, closed⟩
  · rw [server]
    exact h.serves
  · rw [server]
    exact h.settings
  · rw [server, others]
    exact h.became
  · rw [coming]
    exact h.input

/-- A request has been processed, and nothing else has been done to the server. -/
theorem Underway.process (h : Underway s id n bytes v c) {received rest : List UInt8} {r : Request}
    {p : Server × Processed} (host : Host) (answered : c.answer = none)
    (server : host.server = p.1)
    (incoming : v.host.stream.incoming.octets = received ++ host.stream.incoming.octets)
    (outgoing : host.stream.outgoing.octets = v.host.stream.outgoing.octets)
    (sane : Sane host.stream)
    (closed : host.stream.incoming.closed = true → v.unsent = [])
    (first : ∀ more, s.readAll (c.received ++ (received ++ more)) =
      (r :: (s.readAll (rest ++ more)).1, (s.readAll (rest ++ more)).2))
    (processed : v.host.server.process id r = some p) (task : Channel ⊕ ChannelSummary) :
    Underway s id n bytes { v with host, task }
      { c with
        processed := c.processed + 1
        received := rest
        answer := some (Response.ofOutcome p.2.outcome).frame
        handled := c.handled.append [(r, p.2.outcome)] } := by
  have done : v.host.server.step (.process id r) = p.1 := by
    rw [Server.step, processed]
    rfl
  refine ⟨h.session, h.node, ?_, ?_, ?_, ?_, ?_, ?_, sane, closed⟩
  · dsimp only
    rw [server]
    exact h.serves.process processed
  · dsimp only
    rw [server, ← done, Server.settings_step]
    exact h.settings
  · dsimp only
    rw [Journal.toList_append, List.length_append, h.count]
    rfl
  · have became := h.became.deed (.process id r)
    rw [done] at became
    dsimp only
    rw [server, Journal.toList_append, deeds_concat]
    have outcome : v.host.server.outcome? (.process id r) = some p.2.outcome := by
      rw [Server.outcome?, Server.request?, Option.bind_some, processed, Option.map_some]
    rw [outcome] at became
    exact became
  · have input := h.input
    rw [coming, incoming, List.append_assoc, first] at input
    rw [coming, Journal.toList_append, List.map_append]
    simpa using input
  · have output := h.output
    rw [answered, Option.getD_none, List.append_nil] at output
    dsimp only
    rw [outgoing, Journal.toList_append, answers, List.flatMap_append, ← answers, ← output]
    simp

theorem Underway.serve (h : Underway s id n bytes v c) (task : v.task = .inl c) (calls : Nat) :
    Good s id n bytes (v.serve calls) := by
  rw [Visit.serve, task]
  dsimp only
  cases stepped : c.step (v.ready calls) with
  | none => exact good_of_underway h task
  | some result =>
      have read : ∀ octets, (v.ready calls).server.readAll octets = s.readAll octets := by
        intro octets
        rw [Server.readAll, ready, h.settings]
        rfl
      have sane : Sane (v.ready calls).stream :=
        ⟨h.sane.quiet, h.sane.unclosed, h.sane.inward, h.sane.outward⟩
      have closed : ∀ {stream : Endpoint}, (v.ready calls).stream.Alike stream →
          stream.incoming.closed = true → v.unsent = [] :=
        fun alike closed => h.closed (alike.incomingClosed.symm.trans closed)
      cases Channel.turn_of_step sane.quiet sane.unclosed h.isShutDown stepped with
      | respond answer rest given stream answering octets less moved alike =>
          refine h.of_octets rfl rfl rfl ?_ ?_ (sane.of_alike alike) (closed alike)
          · exact congrArg (fun octets => c.received ++ (octets ++ v.unsent)) moved.incoming.symm
          · rw [answering, Option.getD_some, octets, ← List.append_assoc _ given]
            exact congrArg (fun written => v.got ++ (written ++ answer.getD [])) moved.outgoing
      | take received stream answered some moved alike =>
          refine h.of_octets rfl rfl rfl ?_ ?_ (sane.of_alike alike) (closed alike)
          · have incoming : v.host.stream.incoming.octets = received ++ stream.incoming.octets :=
              moved.incoming
            simp only [coming, incoming, List.append_assoc]
          · exact congrArg (fun written => v.got ++ (written ++ c.answer.getD []))
              (moved.outgoing.trans (List.append_nil _))
      | process received rest r p stream answered moved alike shorter first processed =>
          rw [h.session] at processed
          refine h.process (Host.report { v.host with server := p.1, stream } p.2.log) answered rfl
            moved.incoming ?_ (sane.of_alike alike) (closed alike) (fun more => ?_) processed _
          · exact moved.outgoing.trans (List.append_nil _)
          · rw [← read, ← read]
            exact first more
      | finish received stream result answered moved alike last =>
          refine h.finish stream answered ?_ ?_
          · exact moved.outgoing.trans (List.append_nil _)
          · rw [← read]
            exact last v.unsent h.closed

theorem Underway.send (h : Underway s id n bytes v c) (k : Nat) :
    Underway s id n bytes (v.send k) c := by
  rw [Visit.send]
  dsimp only
  split
  · exact h
  next unclosed =>
    refine h.of_octets rfl rfl rfl ?_ rfl ⟨h.sane.quiet, h.sane.unclosed, h.sane.inward,
      h.sane.outward⟩ fun closed => absurd closed unclosed
    have kept := v.host.stream.incoming.accept_conserves (v.unsent.take k)
    simp only [coming, withStream, Pipe.octets]
    rw [← List.append_assoc (Buffer.toList _), kept, List.append_assoc, List.take_append_drop]

theorem Underway.hangUp (h : Underway s id n bytes v c) : Underway s id n bytes v.hangUp c := by
  rw [Visit.hangUp]
  split
  next sent =>
    exact h.of_octets rfl rfl rfl rfl rfl ⟨h.sane.quiet, h.sane.unclosed, h.sane.inward,
      h.sane.outward⟩ fun _ => sent
  · exact h

/-- What the peer reads goes from the stream to what it has got. -/
theorem read_conserves (v : Visit) (k : Nat) :
    (v.read k).got ++ (v.read k).host.stream.outgoing.octets =
      v.got ++ v.host.stream.outgoing.octets := by
  simp only [Visit.read, withStream, Pipe.octets, Buffer.toList_drop, List.append_assoc,
    List.take_append_drop]

theorem Underway.read (h : Underway s id n bytes v c) (k : Nat) :
    Underway s id n bytes (v.read k) c := by
  refine h.of_octets rfl rfl rfl rfl ?_ ⟨h.sane.quiet, h.sane.unclosed, h.sane.inward,
    h.sane.outward⟩ h.closed
  rw [← List.append_assoc, read_conserves, List.append_assoc]

theorem Underway.other (h : Underway s id n bytes v c) (task : v.task = .inl c)
    (op : Server.Operation) : Underway s id n bytes (v.other op) c := by
  rw [Visit.other, task]
  dsimp only
  split
  next lasting =>
    obtain ⟨live, up⟩ := lasting
    have node := Server.nodeOf_step h.serves.nodeOf op
    obtain ⟨session, present, own⟩ := Option.map_eq_some_iff.mp node
    rw [h.node, h.session] at live
    rw [Channel.isShutDown, h.session, present] at up
    refine ⟨h.session, h.node, ⟨live, session, present, own, up⟩, ?_, h.count,
      h.became.other op, h.input, h.output, h.sane, h.closed⟩
    exact (v.host.server.settings_step op).trans h.settings
  · exact h

theorem task_send (v : Visit) (k : Nat) : (v.send k).task = v.task := by
  rw [Visit.send]
  dsimp only
  split <;> rfl

theorem task_hangUp (v : Visit) : v.hangUp.task = v.task := by
  rw [Visit.hangUp]
  split <;> rfl

theorem task_other (v : Visit) (op : Server.Operation) : (v.other op).task = v.task := by
  rw [Visit.other]
  split
  · rfl
  · dsimp only
    split <;> rfl

theorem Underway.step (h : Underway s id n bytes v c) (task : v.task = .inl c) (e : Event) :
    Good s id n bytes (v.step e) := by
  cases e with
  | serve calls => exact h.serve task calls
  | send k => exact good_of_underway (h.send k) ((v.task_send k).trans task)
  | hangUp => exact good_of_underway h.hangUp (v.task_hangUp.trans task)
  | read k => exact good_of_underway (h.read k) task
  | other op => exact good_of_underway (h.other task op) ((v.task_other op).trans task)

/-- Once the service has returned, the peer can only read what is left. -/
theorem Finished.step {summary : ChannelSummary} (h : Finished s id n bytes v summary)
    (task : v.task = .inr summary) (e : Event) : Good s id n bytes (v.step e) := by
  have still : Good s id n bytes v := by
    rw [Good, task]
    exact h
  cases e with
  | serve calls =>
      rw [Visit.step, Visit.serve, task]
      exact still
  | send k =>
      rw [Visit.step, Visit.send]
      dsimp only
      rw [if_pos h.closed]
      exact still
  | hangUp =>
      rw [Visit.step, Visit.hangUp]
      split
      · rw [Good, withStream, task]
        exact ⟨h.handled, h.summary, h.shutDown, h.unregistered, h.unheld, rfl⟩
      · exact still
  | read k =>
      rw [Good, show (v.step (.read k)).task = _ from task]
      obtain ⟨handled, requests, became, octets⟩ := h.handled
      exact ⟨⟨handled, requests, became, (v.read_conserves k).trans octets⟩, h.summary, h.shutDown,
        h.unregistered, h.unheld, h.closed⟩
  | other op =>
      rw [Visit.step, Visit.other, task]
      exact still

theorem Good.step (h : Good s id n bytes v) (e : Event) : Good s id n bytes (v.step e) := by
  cases task : v.task with
  | inl c =>
      rw [Good, task] at h
      exact Underway.step h task e
  | inr summary =>
      rw [Good, task] at h
      exact Finished.step h task e

theorem Good.run (h : Good s id n bytes v) (schedule : Nat → Event) (k : Nat) :
    Good s id n bytes (v.run schedule k) := by
  induction k with
  | zero => exact h
  | succ k ih => exact ih.step (schedule k)

theorem exists_start {session : Session} (present : s.registry.session? id = some session)
    (live : s.registry.live.get? session.node = some id) (unattached : session.attached = false)
    (up : session.shutDown = false) {inward outward : Nat} (roomIn : 0 < inward)
    (roomOut : 0 < outward) (bytes : List UInt8) :
    ∃ v, start s id inward outward bytes = some v ∧ Good s id session.node bytes v := by
  have claim : session.attach = .ok { session with attached := true } := by
    rw [Session.attach, unattached]
    rfl
  have attached : s.step (.attach id) =
      { s with registry := s.registry.modify id fun _ => { session with attached := true } } := by
    rw [Server.step, Registry.attach?, present, Option.map_some, claim]
    rfl
  simp only [start, Channel.attach, present, claim, Option.map_some]
  refine ⟨_, rfl, rfl, rfl, ⟨live, { session with attached := true }, ?_, rfl, up⟩, rfl, rfl, ?_,
    rfl, rfl, ⟨rfl, rfl, roomIn, roomOut⟩, fun shut => absurd shut Bool.false_ne_true⟩
  · dsimp only [Host.report]
    rw [Registry.session?_modify, if_pos rfl, present]
    rfl
  · have became := (Server.Became.refl (s := s)).deed (.attach id)
    rw [attached] at became
    exact became

end Visit

end CacheCoherence
