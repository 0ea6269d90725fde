import CacheCoherence.Proofs.ChannelTurns
import CacheCoherence.Proofs.ConnectionSteps
import CacheCoherence.Proofs.CutStream
import CacheCoherence.Proofs.Publications
import CacheCoherence.Proofs.ResponseFormat

/-!
A server with any number of channels, whose steps come in any order between calls
made in the server's own process. What a channel writes are the responses that the
events of its requests stand for, so the four accounts of an outcome agree: the
counters of the session, the number of the event, the event, and the response.
-/

namespace CacheCoherence

/-- The response that a node reads when its request has ended like this. -/
def Applied.Status.reply : Status → Response
  | .applied => .ok
  | .fault m => .fault (Response.clip m)
  | .rejected m => .rejected (Response.clip m)

theorem Response.clipped_ofOutcome (o : Outcome) :
    (ofOutcome o).clipped = (Applied.Status.ofOutcome o).reply := by
  cases o with
  | ok => rfl
  | error e => cases e <;> rfl

/-- The operation of the server that a step of the channel comes to, by what the channel is then. -/
def Channel.deed? (c : Channel) : Channel ⊕ ChannelSummary → Option Server.Operation
  | .inl next =>
      (next.handled.toList.drop c.handled.toList.length).head?.map fun p => .process c.session p.1
  | .inr _ => some (.closeSession c.session)

/-- A channel with its end of the stream, and what has been written there. -/
structure Line where
  session : SessionId
  stream : Endpoint
  task : Channel ⊕ ChannelSummary
  written : List UInt8 := []

structure Switchboard where
  server : Server
  lines : List Line := []
  /-- The requests that have been processed, each with the line that it came by; with none if it was
  a call in the server's own process. -/
  history : List (Option Nat × Record) := []

namespace Switchboard

inductive Action where
  | operate (op : Server.Operation)
  /-- A session is given a channel on a stream. -/
  | attach (id : SessionId) (stream : Endpoint)
  | serve (i : Nat)
  /-- Anything that changes the stream of a line, but for its channel. -/
  | stream (i : Nat) (stream : Endpoint)

def operate (b : Switchboard) (op : Server.Operation) : Switchboard :=
  { b with
    server := b.server.step op
    history := b.history ++ (b.server.record? op).toList.map (none, ·) }

def attach (b : Switchboard) (id : SessionId) (stream : Endpoint) : Switchboard :=
  match Channel.attach id { server := b.server, stream } with
  | some (host, .inl c) =>
      { b with server := host.server, lines := b.lines ++ [⟨id, host.stream, .inl c, []⟩] }
  | _ => b

def serve (b : Switchboard) (i : Nat) : Switchboard :=
  match b.lines[i]? with
  | some ⟨id, stream, .inl c, written⟩ =>
      match c.step { server := b.server, stream } with
      | some (host, task) =>
          { server := host.server
            lines := b.lines.set i ⟨id, host.stream, task, written ++ stream.given host.stream⟩
            history := b.history ++ ((c.deed? task).bind b.server.record?).toList.map (some i, ·) }
      | none => b
  | _ => b

def step (b : Switchboard) : Action → Switchboard
  | .operate op => b.operate op
  | .attach id stream => b.attach id stream
  | .serve i => b.serve i
  | .stream i stream => { b with lines := b.lines.modify i fun line => { line with stream } }

def after (b : Switchboard) (actions : List Action) : Switchboard :=
  actions.foldl step b

/-- The requests that have come by a line. -/
def recordsOf (b : Switchboard) (i : Nat) : List Record :=
  (b.history.filter (·.1 = some i)).map Prod.snd

end Switchboard

def Record.frame (e : Record) : List UInt8 :=
  (Response.ofOutcome e.done.outcome).frame

/-- The requests that have come by a line are those of its session, and each has its answer on the
line, but for the last one that may be cut short. -/
structure Line.Answered (line : Line) (records : List Record) : Prop where
  own : ∀ e ∈ records, e.session = line.session
  begun : line.written <+: records.flatMap Record.frame
  others : records.dropLast.flatMap Record.frame <+: line.written
  running : ∀ c, line.task = .inl c → c.session = line.session ∧
    c.handled.toList = records.map (fun e => (e.request, e.done.outcome)) ∧
    line.written ++ c.answer.getD [] = records.flatMap Record.frame

theorem Line.answered_new (id : SessionId) (stream : Endpoint) (node : NodeId) :
    Line.Answered ⟨id, stream, .inl { session := id, node }, []⟩ [] where
  own _ among := absurd among List.not_mem_nil
  begun := List.nil_prefix
  others := List.nil_prefix
  running := by
    rintro _ ⟨⟩
    exact ⟨rfl, rfl, rfl⟩

namespace Line.Answered

variable {line : Line} {records : List Record} (h : line.Answered records)

include h

/-- Some more of the last answer has been written, or none. -/
theorem write {given left : List UInt8}
    (octets : line.written ++ (given ++ left) = records.flatMap Record.frame) (stream : Endpoint)
    (task : Channel ⊕ ChannelSummary)
    (running : ∀ c, task = .inl c → c.session = line.session ∧
      c.handled.toList = records.map (fun e => (e.request, e.done.outcome)) ∧
      line.written ++ given ++ c.answer.getD [] = records.flatMap Record.frame) :
    Line.Answered ⟨line.session, stream, task, line.written ++ given⟩ records where
  own := h.own
  begun := ⟨left, by rw [List.append_assoc, octets]⟩
  others := h.others.trans (List.prefix_append ..)
  running := running

theorem process {c : Channel} (task : line.task = .inl c) (answered : c.answer = none)
    {e : Record} (own : e.session = line.session) (stream : Endpoint) {received : List UInt8}
    {processed : Nat} :
    Line.Answered
      ⟨line.session, stream, .inl { c with
        processed, received
        answer := some e.frame
        handled := c.handled.append [(e.request, e.done.outcome)] }, line.written⟩
      (records ++ [e]) where
  own e' among := (List.mem_append.mp among).elim (h.own e') fun last => by
    rw [List.mem_singleton.mp last, own]
  begun := by
    rw [List.flatMap_append]
    exact h.begun.trans (List.prefix_append ..)
  others := by
    obtain ⟨_, _, octets⟩ := h.running c task
    rw [answered, Option.getD_none, List.append_nil] at octets
    exact ⟨[], by rw [List.append_nil, List.dropLast_concat, octets]⟩
  running := by
    rintro _ ⟨⟩
    obtain ⟨session, handled, octets⟩ := h.running c task
    rw [answered, Option.getD_none, List.append_nil] at octets
    refine ⟨session, ?_, ?_⟩
    · rw [Journal.toList_append, handled, List.map_append]
      rfl
    · rw [octets, List.flatMap_append]
      simp

end Line.Answered

namespace Channel

theorem of_attach {id : SessionId} {h host : Host} {c : Channel}
    (attached : attach id h = some (host, .inl c)) :
    host.server = h.server.step (.attach id) ∧
      ∃ node, c = { session := id, node } := by
  obtain ⟨session, present, claim⟩ := Option.map_eq_some_iff.mp attached
  cases claimed : session.attach with
  | error e =>
      rw [claimed] at claim
      cases claim
  | ok attached =>
      rw [claimed] at claim
      cases claim
      refine ⟨?_, session.node, rfl⟩
      rw [Server.step_attach_of_ok present claimed]
      rfl

theorem deed?_of_same {c next : Channel} (same : next.handled = c.handled) :
    c.deed? (.inl next) = none := by
  rw [deed?, same, List.drop_length]
  rfl

theorem deed?_of_append {c next : Channel} {p : Request × Outcome}
    (more : next.handled = c.handled.append [p]) :
    c.deed? (.inl next) = some (.process c.session p.1) := by
  rw [deed?, more, Journal.toList_append, List.drop_left]
  rfl

end Channel

/-- A step of the channel has come to one operation of the server at most. If this has processed a
request, its answer is what the channel has to write next. -/
structure Line.Served (line : Line) (records : List Record) (c : Channel) (s : Server)
    (result : Host × (Channel ⊕ ChannelSummary)) : Prop where
  server : result.1.server = ((c.deed? result.2).map s.step).getD s
  answered : Line.Answered ⟨line.session, result.1.stream, result.2,
      line.written ++ line.stream.given result.1.stream⟩
    (records ++ ((c.deed? result.2).bind s.record?).toList)

namespace Line.Answered

variable {line : Line} {records : List Record} (h : line.Answered records) {c : Channel}
  (task : line.task = .inl c) {server : Server}

include h task

/-- Octets have moved, and nothing has been done to the server. -/
theorem still {given left : List UInt8} {stream : Endpoint} {next : Channel}
    (part : c.answer.getD [] = given ++ left) (moved : line.stream.given stream = given)
    (session : next.session = c.session) (handled : next.handled = c.handled)
    (answer : next.answer.getD [] = left) :
    line.Served records c server ({ server, stream }, .inl next) := by
  have none := Channel.deed?_of_same handled
  obtain ⟨own, requests, octets⟩ := h.running c task
  rw [part] at octets
  refine ⟨by rw [none]; rfl, ?_⟩
  dsimp only
  rw [none, moved, Option.bind_none, Option.toList_none, List.append_nil]
  refine h.write octets stream _ ?_
  rintro _ ⟨⟩
  rw [session, handled, answer, List.append_assoc]
  exact ⟨own, requests, octets⟩

/-- The session is closed. -/
theorem ending {given lost : List UInt8} {stream : Endpoint} (ending : ChannelEnd)
    (part : c.answer.getD [] = given ++ lost) (moved : line.stream.given stream = given)
    (processed : Nat) (received : List UInt8) :
    line.Served records c server
      (Channel.finish { c with processed, received } { server, stream } ending) := by
  let c' : Channel := { c with processed, received }
  have written :
      line.stream.given (c'.finish { server, stream } ending).1.stream = given := by
    rw [Endpoint.given, Channel.octets_finish]
    exact moved
  obtain ⟨-, -, octets⟩ := h.running c task
  rw [part] at octets
  refine ⟨rfl, ?_⟩
  rw [written]
  rw [show (c.deed? _).bind server.record? = none from rfl, Option.toList_none, List.append_nil]
  refine h.write octets _ _ ?_
  rintro _ ⟨⟩

/-- A request that is there is processed, and nothing is written yet. -/
theorem digest {received : List UInt8} {stream : Endpoint} (answered : c.answer = none)
    (moved : line.stream.given stream = []) {result : Host × (Channel ⊕ ChannelSummary)}
    (digested : Channel.digest { c with received } { server, stream } = some result) :
    line.Served records c server result := by
  have nothing : c.answer.getD [] = [] ++ [] := by rw [answered]; rfl
  rw [Channel.digest] at digested
  split at digested
  · next r rest _ =>
    obtain ⟨p, processed, rfl⟩ := Option.map_eq_some_iff.mp digested
    have deed : c.deed? (.inl { c with
        processed := c.processed + 1
        received := rest
        answer := some (Response.ofOutcome p.2.outcome).frame
        handled := c.handled.append [(r, p.2.outcome)] }) = some (.process c.session r) :=
      Channel.deed?_of_append (p := (r, p.2.outcome)) rfl
    have recorded : server.record? (.process c.session r) = some ⟨c.session, r, p.2⟩ :=
      Server.record?_process processed
    have quiet : line.stream.given (Host.report { server := p.1, stream } p.2.log).stream = [] :=
      moved
    refine ⟨?_, ?_⟩
    · rw [deed]
      exact Channel.server_process (h := { server, stream }) digested
    · dsimp only
      rw [deed, quiet, List.append_nil, Option.bind_some, recorded, Option.toList_some]
      exact h.process (e := ⟨c.session, r, p.2⟩) task answered (h.running c task).1 stream
  · cases digested
    exact h.still task nothing moved rfl rfl (by rw [answered]; rfl)
  · cases digested
    exact h.still task nothing moved rfl rfl (by rw [answered]; rfl)
  · cases digested
    exact h.ending task _ nothing moved c.processed received

theorem serve {result : Host × (Channel ⊕ ChannelSummary)}
    (step : c.step { server, stream := line.stream } = some result) :
    line.Served records c server result := by
  cases Channel.service_of_step step with
  | respond answer given stream answering part moved =>
      exact h.still task part moved.given_eq rfl rfl rfl
  | digest bytes stream answered moved result digested =>
      exact h.digest task answered moved.given_eq digested
  | finish ending given lost stream why part moved =>
      exact h.ending task ending part moved.given_eq c.processed c.received

end Line.Answered

namespace Switchboard

theorem recordsOf_append (b : Switchboard) (i : Nat) (who : Option Nat) (records : List Record)
    (server : Server) (lines : List Line) :
    recordsOf ⟨server, lines, b.history ++ records.map (who, ·)⟩ i =
      b.recordsOf i ++ if who = some i then records else [] := by
  rw [recordsOf, List.filter_append, List.map_append, ← recordsOf, List.filter_map]
  by_cases by_ : who = some i <;> simp [by_, Function.comp_def]

/-- The server accounts for all requests, and each line for those that have come by it. -/
structure Sound (b : Switchboard) : Prop where
  accounts : b.server.Accounts (b.history.map Prod.snd)
  lines : ∀ i (line : Line), b.lines[i]? = some line → line.Answered (b.recordsOf i)
  known : ∀ e ∈ b.history, ∀ i, e.1 = some i → i < b.lines.length

section Step

variable {b : Switchboard} (h : b.Sound)

include h

/-- The server accounts for what has been recorded of an operation, whoever has done it. -/
theorem Sound.record (who : Option Nat) (op : Option Server.Operation) {s : Server}
    (done : s = (op.map b.server.step).getD b.server) :
    s.Accounts ((b.history ++ (op.bind b.server.record?).toList.map (who, ·)).map Prod.snd) := by
  have plain : ((op.bind b.server.record?).toList.map (who, ·)).map Prod.snd =
      (op.bind b.server.record?).toList := by
    rw [List.map_map]
    exact List.map_id _
  rw [List.map_append, plain, done]
  cases op with
  | none => simpa using h.accounts
  | some op => exact h.accounts.step op

theorem Sound.operate (op : Server.Operation) : (b.operate op).Sound where
  accounts := h.record none (some op) rfl
  lines i line found := by
    rw [Switchboard.operate, recordsOf_append, if_neg nofun, List.append_nil]
    exact h.lines i line found
  known e among i come := by
    rcases List.mem_append.mp among with before | now
    · exact h.known e before i come
    · obtain ⟨r, _, rfl⟩ := List.mem_map.mp now
      cases come

theorem Sound.attach (id : SessionId) (stream : Endpoint) : (b.attach id stream).Sound := by
  rw [Switchboard.attach]
  split
  · next host c attached =>
    obtain ⟨server, node, rfl⟩ := Channel.of_attach attached
    have accounts := h.record none (some (.attach id)) server
    rw [show ((some (.attach id)).bind b.server.record?) = none from rfl, Option.toList_none,
      List.map_nil, List.append_nil] at accounts
    refine ⟨accounts, fun i line found => ?_, fun e among i come => ?_⟩
    · change (b.lines ++ [_])[i]? = some line at found
      change line.Answered (b.recordsOf i)
      rw [List.getElem?_append] at found
      split at found
      · exact h.lines i line found
      · next beyond =>
        have none : b.recordsOf i = [] := by
          rw [recordsOf, List.map_eq_nil_iff, List.filter_eq_nil_iff]
          intro e among come
          exact beyond (h.known e among i (by simpa using come))
        rw [List.getElem?_singleton] at found
        split at found <;> cases found
        rw [none]
        exact Line.answered_new id host.stream node
    · rw [List.length_append]
      exact Nat.lt_add_right 1 (h.known e among i come)
  · exact h

theorem Sound.serve (i : Nat) : (b.serve i).Sound := by
  rw [Switchboard.serve]
  split
  · next id stream c written found =>
    split
    · next host task step =>
      have served := (h.lines i _ found).serve rfl step
      refine ⟨h.record (some i) (c.deed? task) served.server, fun j line found' => ?_,
        fun e among j come => ?_⟩
      · rw [recordsOf_append]
        rw [List.getElem?_set] at found'
        split at found'
        · next same =>
          subst same
          rw [if_pos (List.getElem?_eq_some_iff.mp found).1, Option.some.injEq] at found'
          rw [if_pos rfl, ← found']
          exact served.answered
        · next other =>
          rw [if_neg fun eq => other (Option.some.inj eq), List.append_nil]
          exact h.lines j line found'
      · rw [List.length_set]
        rcases List.mem_append.mp among with before | now
        · exact h.known e before j come
        · obtain ⟨r, _, rfl⟩ := List.mem_map.mp now
          cases come
          exact (List.getElem?_eq_some_iff.mp found).1
    · exact h
  · exact h

theorem Sound.stream (i : Nat) (stream : Endpoint) : (b.step (.stream i stream)).Sound := by
  refine ⟨h.accounts, fun j line found => ?_, fun e among j come => ?_⟩
  · change (b.lines.modify i _)[j]? = some line at found
    rw [List.getElem?_modify] at found
    obtain ⟨old, before, rfl⟩ := Option.map_eq_some_iff.mp found
    have answered := h.lines j old before
    split
    · exact ⟨answered.own, answered.begun, answered.others, answered.running⟩
    · exact answered
  · change j < (b.lines.modify i _).length
    rw [List.length_modify]
    exact h.known e among j come

theorem Sound.step (action : Action) : (b.step action).Sound := by
  cases action with
  | operate op => exact h.operate op
  | attach id stream => exact h.attach id stream
  | serve i => exact h.serve i
  | stream i stream => exact h.stream i stream

theorem Sound.after (actions : List Action) : (b.after actions).Sound := by
  induction actions generalizing b with
  | nil => exact h
  | cons action actions ih => exact ih (h.step action)

end Step

theorem sound_start {start : Server} (started : start.Started) : Sound { server := start } where
  accounts := Server.accounts_of_started started
  lines _ _ found := by cases found
  known _ among := absurd among List.not_mem_nil

end Switchboard

/-- What a node reads on a line are the responses to the requests that have come by it, in order;
the last one may be missing while it is not written, or when the channel has ended. -/
theorem Line.Answered.readAll {line : Line} {records : List Record} (h : line.Answered records) :
    ∃ n, records.length ≤ n + 1 ∧
      (Frame.readAll Response.read line.written).1 =
        (records.take n).map (fun e => (Applied.Status.ofOutcome e.done.outcome).reply) ∧
      ∀ c, line.task = .inl c → c.answer = none → records.length ≤ n := by
  obtain ⟨unwritten, octets⟩ := h.begun
  have frames : (records.map fun e => Response.ofOutcome e.done.outcome).flatMap Response.frame =
      line.written ++ unwritten := by
    rw [octets, List.flatMap_map]
    rfl
  obtain ⟨n, cut⟩ := Response.reads.readAll_cut Response.divides (fun _ _ => trivial) frames
  have reached : ∀ m ≤ records.length,
      (records.take m).flatMap Record.frame <+: line.written → m ≤ n := by
    intro m inside part
    refine (cut.reached m (by rwa [List.length_map])).mp ?_
    rw [← List.map_take, List.flatMap_map]
    exact part
  refine ⟨n, ?_, ?_, fun c task answered => ?_⟩
  · have most := reached (records.length - 1) (Nat.sub_le ..)
      (by rw [← List.dropLast_eq_take]; exact h.others)
    omega
  · rw [cut.found, ← List.map_take, List.map_map]
    exact List.map_congr_left fun e _ => Response.clipped_ofOutcome _
  · obtain ⟨-, -, all⟩ := h.running c task
    rw [answered, Option.getD_none, List.append_nil] at all
    exact reached _ (Nat.le_refl _) ⟨[], by rw [List.append_nil, List.take_length, all]⟩

/-- Whatever is done to a server in its own process, and however the steps of its channels come
between that, each request that is processed has one event, and no other has; the event names the
kind of the request and the keys that it is about; the events of a session are numbered in the order
in which its requests were applied; and its counters, the feed and the responses on its channel tell
of each request what its event tells. -/
theorem outcomes_agree {start : Server} (started : start.Started)
    (actions : List Switchboard.Action) :
    let b := Switchboard.after { server := start } actions
    let events := b.history.map fun e => e.2.done.event
    (events.map fun e => (e.session, e.kind, e.keys)) =
        (b.history.map fun e => (e.2.session, e.2.request.kind, e.2.request.keys)) ∧
    (∀ e ∈ b.history, e.2.done.event.keys = match e.2.request with
      | .commit batch =>
        batch.objects.map (fun w => .object w.oid) ++
          batch.bindings.map (fun w => .binding (.name w.name))
      | .evictObject o | .downgradeObject o => [.object o]
      | .evictBinding k | .downgradeBinding k => [.binding k]) ∧
    (∀ id,
      let own := events.filter (·.session = id)
      own.map Applied.sequence = List.range' 1 own.length ∧
      (∀ session, b.server.registry.session? id = some session →
        session.processed = own.length ∧
        session.faults = (own.filter (·.status.isFault)).length ∧
        session.rejected = (own.filter (·.status.isRejected)).length) ∧
      (b.server.registry.session? id = none → own = [])) ∧
    b.server.feed.sent.toList =
      (b.history.filter fun e => e.2.done.receivers ≠ 0).map (fun e => e.2.done.event) ∧
    ∀ i (line : Line), b.lines[i]? = some line →
      let own := (b.history.filter (·.1 = some i)).map fun e => e.2.done.event
      (∀ e ∈ own, e.session = line.session) ∧
      ∃ n, own.length ≤ n + 1 ∧
        (Frame.readAll Response.read line.written).1 =
          (own.take n).map (fun e => e.status.reply) ∧
        ∀ c, line.task = .inl c → c.answer = none → own.length ≤ n := by
  intro b events
  have sound : b.Sound := (Switchboard.sound_start started).after actions
  have told := sound.accounts.told_eq
  have sent := sound.accounts.sent
  simp only [Server.heard, List.map_map, List.filter_map] at told sent
  refine ⟨?_, fun e among => ?_, fun id => ?_, sent, fun i line found => ?_⟩
  · rw [List.map_map]
    exact told
  · have known := sound.accounts.told e.2 (List.mem_map_of_mem among)
    exact known.keys.trans e.2.request.keys_eq
  · have own := sound.accounts.eventsOf_eq id
    rw [List.map_map] at own
    have sequences := sound.accounts.sequences id
    rw [own] at sequences
    refine ⟨sequences, fun session present => ?_, fun absent => ?_⟩
    · exact own ▸ sound.accounts.counters present
    · exact own ▸ sound.accounts.eventsOf_eq_nil absent
  · have answered := sound.lines i line found
    obtain ⟨n, most, read, whole⟩ := answered.readAll
    have records : (b.history.filter (·.1 = some i)).map (fun e => e.2.done.event) =
        (b.recordsOf i).map (·.done.event) := by
      rw [Switchboard.recordsOf, List.map_map]
      rfl
    have told : ∀ e ∈ b.recordsOf i, e.Told := by
      intro e among
      obtain ⟨p, recorded, rfl⟩ := List.mem_map.mp among
      exact sound.accounts.told p.2 (List.mem_map_of_mem (List.mem_filter.mp recorded).1)
    dsimp only
    rw [records, List.length_map]
    simp only [← List.map_take, List.map_map]
    refine ⟨?_, n, most, ?_, whole⟩
    · intro event among
      obtain ⟨e, recorded, rfl⟩ := List.mem_map.mp among
      exact (told e recorded).session.trans (answered.own e recorded)
    · rw [read]
      refine List.map_congr_left fun e among => ?_
      rw [Function.comp_apply, (told e (List.mem_of_mem_take among)).status]

/-- A server that takes batches of one write, as it starts. -/
def Switchboard.narrow : Server :=
  ⟨{ shards := 1, maxBatch := 1, feedCapacity := 1 }, .new Key.place 1, {}, {}, .new 1⟩

/-- Node 1 evicts an object twice by its channel. Between its requests, one of another session finds
the object held no longer, and a batch that is too long is rejected; a node that is not registered
asks in vain, and nobody is subscribed any more when the last request is processed. -/
def Switchboard.evictions : List Switchboard.Action :=
  let sent := (Request.evictObject 10).frame ++ (Request.evictObject 10).frame
  [.operate (.register 1), .operate (.register 2), .operate .subscribe,
    .operate (.directory (.grant (.object 10) 1 .write)),
    .attach 0 ⟨⟨64, .ofList sent, false⟩, ⟨4096, .ofList [], false⟩, {}, 8⟩,
    .serve 0, .operate (.call 2 (.evictObject 10)),
    .operate (.call 1 (.commit { objects := [⟨1, none⟩, ⟨2, none⟩] })),
    .operate (.call 3 (.evictObject 10)), .serve 0, .operate (.unsubscribe 0), .serve 0, .serve 0]

def Switchboard.evicted : Switchboard :=
  after { server := narrow } evictions

theorem outcomes_agree_evictions :
    let b := Switchboard.evicted
    let own := (b.history.map fun e => e.2.done.event).filter (·.session = 0)
    Switchboard.narrow.Started ∧
    (b.history.map fun e => e.2.done.event.keys) =
      [[.object 10], [.object 10], [.object 1, .object 2], [.object 10]] ∧
    own.map Applied.sequence = [1, 2, 3] ∧ (own.filter (·.status.isFault)).length = 1 ∧
    (own.filter (·.status.isRejected)).length = 1 ∧ b.server.feed.sent.toList.length = 3 ∧
    ∃ line, b.lines[0]? = some line ∧ (Frame.readAll Response.read line.written).1 =
      [.ok, .fault "Node 1 evicted object 10 but the directory records it as unheld"] := by
  have started : Switchboard.narrow.Started :=
    ⟨{ shards := 1, maxBatch := 1, feedCapacity := 1 }, Key.place, _, rfl, rfl⟩
  obtain ⟨told, -, sessions, sent, lines⟩ := outcomes_agree started Switchboard.evictions
  obtain ⟨sequences, counters, -⟩ := sessions 0
  have session : Switchboard.evicted.server.registry.session? 0 =
      some ⟨1, 3, 1, 1, true, false⟩ := by decide
  obtain ⟨three, faults, rejected⟩ := counters _ session
  refine ⟨started, ?_, ?_, faults.symm, rejected.symm, ?_, ?_⟩
  · have keys := congrArg (List.map fun e => e.2.2) told
    rw [List.map_map, List.map_map, List.map_map] at keys
    exact keys.trans (by decide +kernel)
  · rw [← three] at sequences
    exact sequences
  · exact (congrArg List.length sent).trans (by decide)
  · have idle : (Switchboard.evicted.lines[0]?.map fun line =>
        line.task.elim Channel.answer fun _ => some []) = some none := by decide
    obtain ⟨line, found, waits⟩ := Option.map_eq_some_iff.mp idle
    cases task : line.task with
    | inr summary =>
        rw [task] at waits
        cases waits
    | inl c =>
        rw [task] at waits
        obtain ⟨-, n, -, read, whole⟩ := lines 0 line found
        refine ⟨line, found, ?_⟩
        rw [read, List.take_of_length_le (whole c task waits)]
        decide +kernel

end CacheCoherence
