import CacheCoherence.Cluster.Actions
import CacheCoherence.Proofs.ConnectionSteps
import CacheCoherence.Proofs.Publications
import CacheCoherence.Proofs.Visit

/-!
Calls in the server's own process and frames on a channel. A request comes to the
same whether it is made by a call or comes as a frame, in whatever parts the
octets of the frame are taken in. Arrays that are no batch are refused on both
ways for the same reason; the call leaves everything as it was, while the frame
costs the node its channel.
-/

namespace CacheCoherence

open CacheCoherence.Frame CacheCoherence.Frame.Reader

namespace Frame

variable {α : Type}

/-- No whole frame is there yet, and nothing that is refused. -/
def Arrival.Pending : Arrival α → Prop
  | .nothing | .begun _ _ => True
  | .frame _ _ | .refused _ => False

/-- Octets that a reader answers when the last of them is there, and not before. -/
structure Reader.Completes (r : Reader (Option α)) (octets : List UInt8) : Prop where
  before : ∀ bytes later, octets = bytes ++ later → later ≠ [] → (r.arrival bytes).Pending
  whole : ∀ more, ¬(r.arrival (octets ++ more)).Pending

theorem Reader.Divides.completes {r : Reader (Option α)} (h : r.Divides) {octets : List UInt8}
    {answer : Except ReadFailure (Option α)} (some : answer ≠ .ok none) (whole : ¬RanOut answer)
    (read : ∀ more, r.attempt (octets ++ more) = (answer, more)) : r.Completes octets where
  before bytes later eq left := by
    -- An answer to the first octets would leave the later ones.
    have none : ∀ early rest, r.attempt bytes = (early, rest) → early ≠ .ok none →
        ¬RanOut early → False := by
      intro early rest found some whole
      have all := h.attempt_append found some whole later
      have now := read []
      rw [List.append_nil, eq, all, Prod.mk.injEq, List.append_eq_nil_iff] at now
      exact left now.2.2
    rw [Reader.arrival]
    split
    next found => exact none _ _ found (by rintro ⟨⟩) (by rintro ⟨_, _, ⟨⟩⟩)
    next => trivial
    next => trivial
    next found => exact none _ _ found (by rintro ⟨⟩) (by rintro ⟨_, _, ⟨⟩⟩)
  whole more := by
    rw [Reader.arrival, read]
    cases answer with
    | ok x =>
        cases x with
        | none => exact absurd rfl some
        | some x => exact id
    | error e =>
        cases e with
        | short context missing => exact absurd ⟨context, missing, rfl⟩ whole
        | refused e => exact id

end Frame

theorem Server.framed_of_reachable {s : Server} (h : s.Reachable) : s.settings.limits.Framed := by
  obtain ⟨start, ops, ⟨settings, place, made, new, eq⟩, rfl⟩ := h
  have checked : settings.check = .ok () := by
    rw [Server.new, bind_eq_ok_iff] at new
    exact new.choose_spec.1
  rw [settings_after, eq, eq_of_new new]
  exact Settings.framed_of_check checked

namespace BatchArrays

/-- The frame of a commit that carries the arrays as they are. -/
def frame (a : BatchArrays) : List UInt8 :=
  RequestKind.commit.tag ::
    (writeLongs a.oids ++ (writeBlobs a.oidValues ++ (writeStrings a.names ++
      writeLongs a.nameValues)))

/-- The arrays are no longer, and their values and names no longer, than the limits say. -/
structure Within (limits : Limits) (a : BatchArrays) : Prop where
  oids : a.oids.length ≤ limits.batch
  oidValues : a.oidValues.length ≤ limits.batch
  names : a.names.length ≤ limits.batch
  nameValues : a.nameValues.length ≤ limits.batch
  values : ∀ v ∈ a.oidValues, ∀ bytes ∈ v, bytes.length ≤ limits.value
  texts : ∀ v ∈ a.names, ∀ s ∈ v, Text.Utf8.size s ≤ limits.name

/-- The arrays of a batch are carried by the frame of its commit. -/
theorem frame_toArrays (b : Batch) : b.toArrays.frame = (Request.commit b).frame :=
  congrArg (List.cons _) (Request.payload_commit b).symm

section Framed

variable {limits : Limits} (framed : limits.Framed) {a : BatchArrays} (within : a.Within limits)

include framed within

theorem attempt_readBatch (rest : List UInt8) :
    (Request.readBatch limits).attempt
        (writeLongs a.oids ++ (writeBlobs a.oidValues ++ (writeStrings a.names ++
          (writeLongs a.nameValues ++ rest)))) =
      (Request.malformed (Batch.ofArrays a)).attempt rest := by
  have fits : ∀ {limit n}, limit ≤ Settings.maxLength → n ≤ limit → Fits limit n :=
    fun most le => (Request.fits_iff most _).mpr le
  have oids : ∀ more, (longs limits "oids").attempt (writeLongs a.oids ++ more) =
      (.ok a.oids, more) :=
    fun more => (exact_longs ..).mpr ⟨rfl, fits framed.batch within.oids⟩
  have oidValues : ∀ more, (blobs limits "oid_values").attempt (writeBlobs a.oidValues ++ more) =
      (.ok a.oidValues, more) :=
    fun more => (exact_blobs ..).mpr ⟨rfl, fits framed.batch within.oidValues,
      fun v among bytes some => fits framed.value (within.values v among bytes some)⟩
  have names : ∀ more, (strings limits "names").attempt (writeStrings a.names ++ more) =
      (.ok a.names, more) :=
    fun more => (exact_strings ..).mpr ⟨rfl, fits framed.batch within.names,
      fun v among s some => fits framed.name (within.texts v among s some)⟩
  have nameValues : ∀ more, (longs limits "name_values").attempt
      (writeLongs a.nameValues ++ more) = (.ok a.nameValues, more) :=
    fun more => (exact_longs ..).mpr ⟨rfl, fits framed.batch within.nameValues⟩
  simp only [Request.readBatch, attempt_bind, oids, oidValues, names, nameValues]

/-- The arrays of a frame are read as the batch that they are, or refused for what is wrong with
them. -/
theorem attempt_frame (rest : List UInt8) :
    (Request.read limits).attempt (a.frame ++ rest) =
      match Batch.ofArrays a with
      | .ok b => (.ok (some (.commit b)), rest)
      | .error e => (.error (.refused (.malformed e.message)), rest) := by
  have tagged : RequestKind.ofTag? RequestKind.commit.tag = some .commit := rfl
  simp only [frame, List.cons_append, Request.attempt_read, tagged, Request.readPayload,
    List.append_assoc, attempt_bind, attempt_readBatch framed within]
  cases Batch.ofArrays a <;> rfl

end Framed

end BatchArrays

namespace Channel

variable {c : Channel} {h : Host}

theorem digest_of_pending (pending : (c.arrival h.server).Pending) :
    digest c h = some (h, .inl c) := by
  rw [digest]
  cases arrived : c.arrival h.server with
  | nothing | begun _ _ => rfl
  | frame _ _ | refused _ =>
      rw [arrived] at pending
      exact pending.elim

theorem receive_eq_digest (quiet : h.stream.faults = {}) (ready : h.stream.allowance ≠ 0)
    (come : h.stream.incoming.octets ≠ []) (context : String) (missing : Nat)
    (atEnd : ChannelEnd) :
    ∃ bytes stream, bytes ≠ [] ∧ h.stream.Moved stream bytes [] ∧ h.stream.Alike stream ∧
      c.receive h context missing atEnd =
        digest { c with received := c.received ++ bytes } { h with stream } := by
  rw [receive]
  cases read : h.stream.readAhead missing with
  | failed f => exact absurd read (Endpoint.read_ne_failed quiet _ _)
  | waiting =>
      obtain spent | ⟨empty, -⟩ := Endpoint.waiting_of_read read
      · exact absurd spent ready
      · exact absurd empty come
  | ended => exact absurd (Endpoint.exhausted_of_read read).1 come
  | got stream bytes =>
      exact ⟨bytes, stream, Endpoint.ne_nil_of_readAhead read, Endpoint.moved_read read,
        Endpoint.alike_read read, rfl⟩

section Listening

variable (answered : c.answer = none) (served : c.isShutDown h.server = false)
  (ready : h.stream.allowance ≠ 0)

include answered served ready

theorem step_of_answered :
    c.step h =
      match c.arrival h.server with
      | .frame r rest => c.process h r rest
      | .nothing => c.receive h "frame" 1 .closed
      | .begun context missing => c.receive h context missing (.failed (.endOfStream context))
      | .refused e => some (c.finish h (.failed e)) := by
  rw [step, answered]
  dsimp only
  rw [served, if_neg Bool.false_ne_true]
  cases c.arrival h.server <;> exact if_neg ready

/-- Without an answer to write, the service makes something of what has been received, and takes in
some more of it before if that is pending. -/
theorem step_eq_digest (quiet : h.stream.faults = {})
    (come : (c.arrival h.server).Pending → h.stream.incoming.octets ≠ []) :
    ∃ bytes stream, ((c.arrival h.server).Pending → bytes ≠ []) ∧
      h.stream.Moved stream bytes [] ∧ h.stream.Alike stream ∧
      c.step h = digest { c with received := c.received ++ bytes } { h with stream } := by
  have now : digest { c with received := c.received ++ [] } h = digest c h := by
    rw [List.append_nil]
  rw [step_of_answered answered served ready]
  cases arrived : c.arrival h.server with
  | frame r rest =>
      refine ⟨[], h.stream, False.elim, h.stream.moved_refl, h.stream.alike_refl, ?_⟩
      rw [now, digest, arrived]
  | refused e =>
      refine ⟨[], h.stream, False.elim, h.stream.moved_refl, h.stream.alike_refl, ?_⟩
      rw [now, digest, arrived]
  | nothing =>
      rw [arrived] at come
      obtain ⟨bytes, stream, some, moved, alike, eq⟩ :=
        c.receive_eq_digest quiet ready (come trivial) "frame" 1 .closed
      exact ⟨bytes, stream, fun _ => some, moved, alike, eq⟩
  | begun context missing =>
      rw [arrived] at come
      obtain ⟨bytes, stream, some, moved, alike, eq⟩ :=
        c.receive_eq_digest quiet ready (come trivial) context missing
          (.failed (.endOfStream context))
      exact ⟨bytes, stream, fun _ => some, moved, alike, eq⟩

end Listening

end Channel

namespace Visit

/-- The channel of the visit has no answer to write, and its stream and its session are sound. -/
structure Listens (v : Visit) (c : Channel) : Prop where
  task : v.task = .inl c
  answered : c.answer = none
  served : c.isShutDown v.host.server = false
  quiet : v.host.stream.faults = {}

/-- The visit after so many turns of the service alone, each with so many calls on its stream. -/
def turns (v : Visit) (calls : Nat → Nat) (k : Nat) : Visit :=
  v.run (fun i => .serve (calls i)) k

theorem turns_succ (v : Visit) (calls : Nat → Nat) (k : Nat) :
    v.turns calls (k + 1) = (v.serve (calls 0)).turns (fun i => calls (i + 1)) k := by
  induction k with
  | zero => rfl
  | succ k ih => exact congrArg (Visit.serve · (calls (k + 1))) ih

/-- The octets of a frame that have come are taken in turn by turn, and nothing else happens until
something is made of them. -/
theorem exists_digest {v : Visit} {c : Channel} (h : v.Listens c) {calls : Nat → Nat}
    (able : ∀ i, calls i ≠ 0) {frame rest : List UInt8}
    (completes : (Request.read v.host.server.settings.limits).Completes frame)
    (octets : c.received ++ v.host.stream.incoming.octets = frame ++ rest) :
    ∃ k more stream, more ++ stream.incoming.octets = rest ∧
      ∀ host task, Channel.digest { c with received := frame ++ more } { v.host with stream } =
        some (host, task) → v.turns calls k = { v with host, task } := by
  induction size : v.host.stream.incoming.octets.length using Nat.strongRecOn
    generalizing v c calls with
  | ind n ih =>
      have come : (c.arrival v.host.server).Pending → v.host.stream.incoming.octets ≠ [] := by
        intro pending empty
        rw [empty, List.append_nil] at octets
        rw [Channel.arrival, octets] at pending
        exact completes.whole rest pending
      obtain ⟨bytes, stream, some, moved, alike, eq⟩ :=
        Channel.step_eq_digest (h := v.ready (calls 0)) h.answered h.served (able 0) h.quiet come
      have taken : (c.received ++ bytes) ++ stream.incoming.octets = frame ++ rest := by
        rw [List.append_assoc, ← moved.incoming]
        exact octets
      have served : ∀ host task, c.step (v.ready (calls 0)) = Option.some (host, task) →
          v.serve (calls 0) = { v with host, task } := by
        intro host task step
        rw [serve, h.task]
        dsimp only
        rw [step]
      by_cases pending : ((Request.read v.host.server.settings.limits).arrival
          (c.received ++ bytes)).Pending
      · have nonempty : bytes ≠ [] := by
          rintro rfl
          rw [List.append_nil] at pending
          exact some pending rfl
        have less : stream.incoming.octets.length < n := by
          rw [← size, show v.host.stream.incoming.octets = _ from moved.incoming,
            List.length_append]
          have positive := List.length_pos_iff.mpr nonempty
          omega
        have next := served _ _ (eq.trans (Channel.digest_of_pending pending))
        obtain ⟨k, more, stream', left, done⟩ := ih _ less
          (v := { v with
            host := { v.host with stream }
            task := .inl { c with received := c.received ++ bytes } })
          ⟨rfl, h.answered, h.served, alike.faults.trans h.quiet⟩
          (fun i => able (i + 1)) completes taken rfl
        refine ⟨k + 1, more, stream', left, fun host task step => ?_⟩
        rw [turns_succ, next]
        exact done host task step
      · rw [List.append_eq_append_iff] at taken
        obtain ⟨later, whole, left⟩ | ⟨more, whole, left⟩ := taken
        · by_cases none : later = []
          · refine ⟨1, [], stream, ?_, fun host task step => ?_⟩
            · rw [left, none]
              rfl
            · rw [List.append_nil, whole, none, List.append_nil] at step
              exact served host task (eq.trans step)
          · exact absurd (completes.before _ _ whole none) pending
        · refine ⟨1, more, stream, left.symm, fun host task step => ?_⟩
          rw [← whole] at step
          exact served host task (eq.trans step)

/-- The channel comes to answer the request as a call has been answered, with the server as the call
has left it, and with the octets behind the frame still to be read. -/
def Handles (v : Visit) (calls : Nat → Nat) (c : Channel) (r : Request) (rest : List UInt8)
    (result : Outcome × Cluster) : Prop :=
  ∃ k received, (v.turns calls k).task = .inl (c.handle r result.1 received) ∧
    (v.turns calls k).host.server = result.2.server ∧
    received ++ (v.turns calls k).host.stream.incoming.octets = rest

/-- The channel comes to fail, with no request processed and nothing told, and only its own node
loses what it holds. -/
def Fails (v : Visit) (calls : Nat → Nat) (c : Channel) (n : NodeId) (e : ChannelError) : Prop :=
  ∃ k, let s := v.host.server
    let t := (v.turns calls k).host.server
    (v.turns calls k).task = .inr ⟨c.node, c.processed, .failed e⟩ ∧
    t = (s.closeSession c.session).1 ∧ t.store = s.store ∧ t.feed = s.feed ∧
    (∀ id, t.registry.tally id = s.registry.tally id) ∧
    ∀ key m, m ≠ n → (t.directory.state key).levelOf m = (s.directory.state key).levelOf m

end Visit

/-- The request of a whole frame is processed with what is left of the octets behind it. -/
theorem Channel.digest_frame {c : Channel} {h : Host} {r : Request} {more : List UInt8}
    (within : r.Within h.server.settings.limits) {p : Server × Processed}
    (processed : h.server.process c.session r = some p) :
    digest { c with received := r.frame ++ more } h =
      some ({ h with server := p.1 }.report p.2.log, .inl (c.handle r p.2.outcome more)) := by
  have arrived : (Request.read h.server.settings.limits).arrival (r.frame ++ more) =
      .frame r more :=
    (Request.arrival_eq_frame_iff ..).mpr ⟨rfl, within⟩
  rw [digest, Channel.arrival, arrived]
  dsimp only
  rw [process, processed]
  rfl

/-- The requests of a node's session are processed, by a call too. -/
theorem Server.Serves.exists_process {s : Server} {id : SessionId} {n : NodeId}
    (h : s.Serves id n) (r : Request) : ∃ p, s.process id r = some p ∧ s.call n r = .ok p := by
  obtain ⟨session, present, -, -⟩ := h.session
  refine ⟨_, process_of_session present r, ?_⟩
  rw [call, Registry.liveSession, h.live]
  dsimp only
  rw [process_of_session present r]

/-- The end of a session takes nothing from the other nodes. -/
theorem Server.Serves.levelOf_closeSession {s : Server} {id : SessionId} {n : NodeId}
    (h : s.Serves id n) (k : Key) {m : NodeId} (other : m ≠ n) :
    ((s.closeSession id).1.directory.state k).levelOf m = (s.directory.state k).levelOf m := by
  obtain ⟨session, present, rfl, -⟩ := h.session
  have ending := Registry.session?_shutDown_self present
  rw [Server.closeSession, Registry.close, present]
  dsimp only
  rw [if_pos h.live, Registry.endSession_eq]
  simp only [ended, release, ending, Directory.levelOf_releaseNode, if_neg other]

namespace Visit.Listens

variable {v : Visit} {c : Channel} (h : v.Listens c) {calls : Nat → Nat}
  (able : ∀ i, calls i ≠ 0) {n : NodeId} (serves : v.host.server.Serves c.session n)
  {rest : List UInt8}

include h able serves

theorem handles {x : Cluster} (same : v.host.server = x.server) {r : Request}
    (within : r.Within v.host.server.settings.limits)
    (octets : c.received ++ v.host.stream.incoming.octets = r.frame ++ rest) :
    v.Handles calls c r rest (x.call n r) := by
  have read : ∀ more, (Request.read v.host.server.settings.limits).attempt (r.frame ++ more) =
      (.ok (some r), more) :=
    fun more => (Request.attempt_read_eq_some_iff ..).mpr ⟨rfl, within⟩
  have completes := (Request.divides _).completes (by rintro ⟨⟩) (by rintro ⟨_, _, ⟨⟩⟩) read
  obtain ⟨k, more, stream, left, done⟩ := exists_digest h able completes octets
  obtain ⟨p, processed, called⟩ := serves.exists_process r
  have turned := done _ _ (Channel.digest_frame (h := { v.host with stream }) within processed)
  have result : x.call n r = (p.2.outcome, { x with server := p.1 }.report p.2.log) := by
    rw [Cluster.call, ← same, called]
  rw [result]
  exact ⟨k, more, by rw [turned], by rw [turned]; rfl, by rw [turned]; exact left⟩

theorem fails {frame : List UInt8} {e : ChannelError}
    (read : ∀ more, (Request.read v.host.server.settings.limits).attempt (frame ++ more) =
      (.error (.refused e), more))
    (octets : c.received ++ v.host.stream.incoming.octets = frame ++ rest) :
    v.Fails calls c n e := by
  have completes := (Request.divides _).completes (by rintro ⟨⟩) (by rintro ⟨_, _, ⟨⟩⟩) read
  obtain ⟨k, more, stream, -, done⟩ := exists_digest h able completes octets
  have turned := done _ _ (show Channel.digest _ _ = some (Channel.finish
    { c with received := frame ++ more } { v.host with stream } (.failed e)) by
      rw [Channel.digest, Channel.arrival, Reader.arrival, read])
  have server : (v.turns calls k).host.server = (v.host.server.closeSession c.session).1 := by
    rw [turned]
    exact Channel.server_finish ..
  have unrecorded : v.host.server.record? (.closeSession c.session) = none := rfl
  refine ⟨k, by rw [turned], server, ?_, ?_, fun id => ?_, fun key m other => ?_⟩
  · rw [server]
    rfl
  · rw [server]
    rfl
  · rw [server]
    exact (Server.unchanged_of_record?_eq_none unrecorded).1 id
  · rw [server]
    exact serves.levelOf_closeSession key other

end Visit.Listens

/-- Whatever parts the octets of a frame come in, the channel of a node comes to do the same with a
request as a call for the node, and answers what the call does. Arrays that are no batch come to
nothing by a call, and make the channel fail for the same reason. -/
theorem Cluster.frame_comes_to_call {x : Cluster} (reachable : x.server.Reachable) {n : NodeId}
    {c : Channel} (serves : x.server.Serves c.session n) {v : Visit}
    (same : v.host.server = x.server) (listens : v.Listens c) {calls : Nat → Nat}
    (able : ∀ i, calls i ≠ 0) (rest : List UInt8) :
    let limits := x.server.settings.limits
    let come := c.received ++ v.host.stream.incoming.octets
    (∀ r : Request, r.Within limits → come = r.frame ++ rest →
      v.Handles calls c r rest (x.call n r)) ∧
    ∀ a : BatchArrays, a.Within limits → come = a.frame ++ rest →
      match Batch.ofArrays a with
      | .ok b => v.Handles calls c (.commit b) rest (x.callArrays n a)
      | .error e =>
          x.callArrays n a = (.error (.input e), x) ∧
            v.Fails calls c n (.malformed e.message) := by
  intro limits come
  have framed : limits.Framed := Server.framed_of_reachable reachable
  have requests : ∀ r : Request, r.Within limits → come = r.frame ++ rest →
      v.Handles calls c r rest (x.call n r) :=
    fun r within octets => listens.handles able (same ▸ serves) same (same ▸ within) octets
  refine ⟨requests, fun a within octets => ?_⟩
  have read := BatchArrays.attempt_frame framed within
  rw [callArrays]
  cases arrays : Batch.ofArrays a with
  | ok b =>
      obtain rfl := (Batch.ofArrays_eq_ok_iff a b).mp arrays
      simp only [arrays] at read
      exact requests _ ((Request.attempt_read_eq_some_iff ..).mp (read rest)).2
        (BatchArrays.frame_toArrays b ▸ octets)
  | error e =>
      simp only [arrays] at read
      exact ⟨rfl, listens.fails able (same ▸ serves) (same ▸ read) octets⟩

/-- Node 1 has a channel, and writes an object. -/
def Server.attended : Server :=
  after ⟨{ shards := 1, feedCapacity := 1 }, .new Key.place 1, {}, {}, .new 1⟩
    [.register 1, .directory (.grant (.object 10) 1 .write), .attach 0]

/-- Five octets have been taken in, and the others are on the stream. -/
def Visit.halfway (bytes : List UInt8) : Visit where
  host :=
    { server := .attended
      stream := ⟨⟨64, .ofList (bytes.drop 5), false⟩, ⟨64, .ofList [], false⟩, {}, 0⟩ }
  task := .inl { session := 0, node := 1, received := bytes.take 5 }
  unsent := []

theorem Cluster.frame_comes_to_call_halfway :
    let x : Cluster := { server := .attended }
    let c (bytes : List UInt8) : Channel := { session := 0, node := 1, received := bytes.take 5 }
    let written : BatchArrays := ⟨[10], [some [7]], [], []⟩
    let uneven : BatchArrays := ⟨[10], [some [7]], [some "a"], []⟩
    let reason := InputError.lengthMismatch "names" 1 "name_values" 0
    (Visit.halfway written.frame).Handles (fun _ => 1) (c written.frame)
      (.commit (.store {} 10 [7])) [] (x.callArrays 1 written) ∧
    (x.callArrays 1 written).1 = .ok () ∧
    x.callArrays 1 uneven = (.error (.input reason), x) ∧
    (Visit.halfway uneven.frame).Fails (fun _ => 1) (c uneven.frame) 1
      (.malformed reason.message) := by
  intro x c written uneven reason
  have reachable : x.server.Reachable :=
    ⟨_, _, ⟨{ shards := 1, feedCapacity := 1 }, Key.place, _, rfl, rfl⟩, rfl⟩
  have serves : x.server.Serves 0 1 := ⟨by decide, _, rfl, rfl, rfl⟩
  have listens : ∀ bytes, (Visit.halfway bytes).Listens (c bytes) :=
    fun bytes => ⟨rfl, rfl, rfl, rfl⟩
  have agree := fun bytes =>
    frame_comes_to_call reachable serves (v := Visit.halfway bytes) rfl (listens bytes)
      (fun _ => Nat.one_ne_zero) []
  have whole : written.Within x.server.settings.limits := by constructor <;> decide
  have apart : uneven.Within x.server.settings.limits := by constructor <;> decide
  exact ⟨(agree _).2 written whole (by decide), by decide, (agree _).2 uneven apart (by decide)⟩

end CacheCoherence
