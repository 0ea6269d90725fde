import CacheCoherence.Proofs.ChannelSteps
import CacheCoherence.Proofs.RequestFormat
import CacheCoherence.Server.Connection

/-!
What a connection does in one step. The greeting is read from just the octets
that it is written as, and none behind them is taken. A step is one operation of
the server at most: a registration, the claim of a session, a request, or the end
of a session. A connection that cannot go on waits for its stream.
-/

namespace CacheCoherence

namespace Hello

open CacheCoherence.Frame CacheCoherence.Frame.Reader

theorem exact_read : read.Exact frame fun _ => True := by
  intro bytes n rest
  rw [read, attempt_bind_eq_ok]
  simp only [exact_long "node_id" _ _ _, Request.attempt_malformed_eq_ok_iff,
    NodeId.ofInt64_eq_ok_iff]
  constructor
  · intro h
    obtain ⟨raw, middle, ⟨octets, -⟩, word, left⟩ := h
    rw [octets, word, left]
    exact ⟨rfl, trivial⟩
  · intro h
    exact ⟨n.toInt64, rest, ⟨h.1, trivial⟩, rfl, rfl⟩

theorem length_frame (n : NodeId) : (frame n).length = 8 :=
  length_ofNat 8 _

theorem frame_prefix_iff (bytes : List UInt8) (n : NodeId) :
    frame n <+: bytes ↔ (read.attempt bytes).1 = .ok n := by
  constructor
  · rintro ⟨rest, rfl⟩
    rw [(exact_read _ n rest).mpr ⟨rfl, trivial⟩]
  · intro found
    have octets := ((exact_read bytes n (read.attempt bytes).2).mp (Prod.ext found rfl)).1
    exact ⟨_, octets.symm⟩

theorem attempt_read (bytes : List UInt8) :
    (read.attempt bytes).1 =
      if bytes.length < 8 then .error (.short "node_id" (8 - bytes.length))
      else
        match NodeId.ofInt64 (Int64.ofInt (signed 8 (toNat (bytes.take 8)))) with
        | .ok n => .ok n
        | .error e => .error (.refused (.malformed e.message)) := by
  rw [read, attempt_bind, long, attempt_bind, attempt_octets]
  by_cases few : bytes.length < 8
  · rw [if_pos few, if_pos few]
  · rw [if_neg few, if_neg few]
    dsimp only [attempt_pure]
    cases NodeId.ofInt64 (Int64.ofInt (signed 8 (toNat (bytes.take 8)))) <;> rfl

/-- Octets that are too few for a greeting lack the others. -/
theorem missing_of_short {bytes : List UInt8} {context : String} {missing : Nat}
    (short : (read.attempt bytes).1 = .error (.short context missing)) :
    bytes.length + missing = 8 ∧ 0 < missing := by
  rw [attempt_read] at short
  split at short
  · cases short
    omega
  · split at short <;> cases short

/-- Octets are refused as a greeting where they are those of a negative number. -/
theorem negative_of_refused {bytes : List UInt8} {e : ChannelError}
    (refused : (read.attempt bytes).1 = .error (.refused e)) :
    ∃ raw : Int64, raw.toInt < 0 ∧ writeLong raw <+: bytes ∧
      e = .malformed (InputError.negativeId "node_id" raw).message := by
  rw [attempt_read] at refused
  split at refused
  · cases refused
  · next whole =>
    have octets : writeLong (Int64.ofInt (signed 8 (toNat (bytes.take 8)))) = bytes.take 8 :=
      ofInt_signed_long (List.length_take_of_le (Nat.le_of_not_lt whole))
    split at refused
    · cases refused
    · next found =>
      cases refused
      obtain ⟨negative, rfl⟩ := NodeId.negative_of_ofInt64 found
      refine ⟨_, negative, ?_, rfl⟩
      rw [octets]
      exact List.take_prefix 8 bytes

end Hello

def Server.Operation.byConnection : Server.Operation → Prop
  | .register _ | .attach _ | .process _ _ | .closeSession _ => True
  | _ => False

/-- The server is as before, or as an operation has left it that a connection may do. -/
def Server.Advanced (s t : Server) : Prop :=
  t = s ∨ ∃ op : Server.Operation, op.byConnection ∧ t = s.step op

theorem Server.Advanced.refl (s : Server) : s.Advanced s := .inl rfl

theorem Host.advanced_closeSession (h : Host) (id : SessionId) :
    h.server.Advanced (h.closeSession id).server :=
  .inr ⟨.closeSession id, trivial, rfl⟩

namespace Channel

variable {c : Channel} {h : Host} {result : Host × (Channel ⊕ ChannelSummary)}

theorem server_finish (c : Channel) (h : Host) (ending : ChannelEnd) :
    (c.finish h ending).1.server = h.server.step (.closeSession c.session) := rfl

theorem advanced_finish (c : Channel) (h : Host) (ending : ChannelEnd) :
    h.server.Advanced (c.finish h ending).1.server :=
  .inr ⟨.closeSession c.session, trivial, c.server_finish h ending⟩

theorem server_process {r : Request} {rest : List UInt8} (step : c.process h r rest = some result) :
    result.1.server = h.server.step (.process c.session r) := by
  obtain ⟨p, processed, rfl⟩ := Option.map_eq_some_iff.mp step
  rw [Server.step, processed]
  rfl

theorem advanced_digest (step : c.digest h = some result) :
    h.server.Advanced result.1.server := by
  rw [digest] at step
  split at step
  · next r rest _ => exact .inr ⟨.process c.session r, trivial, server_process step⟩
  · cases step
    exact .refl _
  · cases step
    exact .refl _
  · cases step
    exact c.advanced_finish h _

theorem advanced_step (step : c.step h = some result) : h.server.Advanced result.1.server := by
  cases service_of_step step with
  | respond => exact .refl _
  | digest bytes stream answered moved result digested =>
      exact advanced_digest (h := { h with stream }) digested
  | finish ending given lost stream => exact c.advanced_finish { h with stream } ending

end Channel

namespace Connection

variable {h : Host} {result : Host × (Connection ⊕ ConnectionResult)}

/-- Why there is no greeting to come: the stream ends or fails before it is there, or the octets are
those of a negative number. -/
inductive Ungreeted (stream : Endpoint) (received : List UInt8) : ChannelError → Prop where
  | ended (context : String) (few : received.length < 8) (ended : stream.Exhausted) :
      Ungreeted stream received (.endOfStream context)
  | unread (f : StreamFault) (context : String) (few : received.length < 8)
      (broken : stream.faults.read = some f) : Ungreeted stream received (f.toError context)
  | negative (raw : Int64) (negative : raw.toInt < 0)
      (octets : Frame.writeLong raw <+: received) :
      Ungreeted stream received (.malformed (InputError.negativeId "node_id" raw).message)

/-- A step of a connection, up to its end. -/
inductive Move (h : Host) : Connection → Host × (Connection ⊕ ConnectionResult) → Prop where
  | read {received} (bytes : List UInt8) (stream : Endpoint)
      (few : received.length + bytes.length ≤ 8) (moved : h.stream.Moved stream bytes []) :
      Move h (.greeting received) ({ h with stream }, .inl (.greeting (received ++ bytes)))
  | cut {received} (e : ChannelError) (why : Ungreeted h.stream received e)
      (none : ∀ n, ¬Hello.frame n <+: received) :
      Move h (.greeting received) (fail h (.channel e))
  | greeted {received} (n : NodeId) (whole : Hello.frame n <+: received) :
      Move h (.greeting received) ((Connection.welcome h n).1, .inl (Connection.welcome h n).2)
  | refuse {rest e} (given left : List UInt8) (stream : Endpoint) (octets : rest = given ++ left)
      (moved : h.stream.Moved stream [] given) :
      Move h (.refusing rest e) ({ h with stream }, .inl (.refusing left e))
  | refused {rest e} (stream : Endpoint) (moved : h.stream.Moved stream [] rest) :
      Move h (.refusing rest e) (fail { h with stream } e)
  | unrefused {rest e} (f : StreamFault) (given : List UInt8) (stream : Endpoint)
      (broken : h.stream.Unwritable f) (octets : given <+: rest)
      (moved : h.stream.Moved stream [] given) :
      Move h (.refusing rest e) (fail { h with stream } (.channel (f.toError "frame")))
  | welcome {rest id} (given left : List UInt8) (stream : Endpoint) (octets : rest = given ++ left)
      (moved : h.stream.Moved stream [] given) :
      Move h (.welcoming rest id) ({ h with stream }, .inl (.welcoming left id))
  | welcomed {rest id} (stream : Endpoint) (moved : h.stream.Moved stream [] rest) :
      Move h (.welcoming rest id) ({ h with stream }, .inl (.starting id))
  /-- The welcome cannot be written. The session is closed at once. -/
  | unwelcome {rest id} (f : StreamFault) (given : List UInt8) (stream : Endpoint)
      (broken : h.stream.Unwritable f) (octets : given <+: rest)
      (moved : h.stream.Moved stream [] given) :
      Move h (.welcoming rest id)
        (fail (Host.closeSession { h with stream } id) (.channel (f.toError "frame")))
  | claim {id} (session : Session) (present : h.server.registry.session? id = some session)
      (log : List Logging.Event) :
      Move h (.starting id)
        ({ h with server := h.server.step (.attach id), log },
          .inl (.serving { session := id, node := session.node }))
  /-- The session has a channel already. -/
  | contest {id} (e : InputError) (session : Session)
      (present : h.server.registry.session? id = some session)
      (claimed : session.attached = true) : Move h (.starting id) (fail h (.input e))
  | serve {c : Channel} (result : Host × (Channel ⊕ ChannelSummary))
      (served : c.step h = some result) :
      Move h (.serving c) (result.1, result.2.map .serving .ok)

theorem move_of_greet {received : List UInt8} (step : greet h received = some result) :
    Move h (.greeting received) result := by
  have frame := Hello.frame_prefix_iff received
  have none : ∀ {e}, (Hello.read.attempt received).1 = .error e →
      ∀ n, ¬Hello.frame n <+: received :=
    fun failed n whole => absurd (failed.symm.trans ((frame n).mp whole)) nofun
  rw [greet] at step
  split at step
  · next n whole =>
    cases step
    exact .greeted n ((frame n).mpr whole)
  · next context missing short =>
    obtain ⟨lacking, some⟩ := Hello.missing_of_short short
    have few : received.length < 8 := by omega
    split at step
    · next f failed =>
      cases step
      exact .cut _ (.unread f context few (Endpoint.fault_of_read failed)) (none short)
    · cases step
    · next ended =>
      cases step
      exact .cut _ (.ended context few (Endpoint.exhausted_of_read ended)) (none short)
    · next stream bytes got =>
      cases step
      refine .read bytes stream ?_ (Endpoint.moved_read got)
      have few := Endpoint.length_le_of_read got
      omega
  · next e refused =>
    cases step
    obtain ⟨raw, negative, octets, rfl⟩ := Hello.negative_of_refused refused
    exact .cut _ (.negative raw negative octets) (none refused)

theorem move_of_refuse {rest : List UInt8} {e : Error} (step : refuse h rest e = some result) :
    Move h (.refusing rest e) result := by
  rw [Connection.refuse] at step
  split at step
  · next f failed =>
    cases step
    have broken := Endpoint.unwritable_of_write failed
    exact .unrefused f [] h.stream broken List.nil_prefix h.stream.moved_refl
  · cases step
  · next stream written =>
    obtain ⟨given, octets, moved⟩ := Endpoint.moved_write written
    rw [List.append_nil] at octets
    split at step
    · next f fault =>
      cases step
      have broken := Endpoint.unwritable_of_flush written fault
      exact .unrefused f given stream broken (octets ▸ List.prefix_rfl) moved
    · cases step
      exact .refused stream (octets ▸ moved)
  · next stream left _ written =>
    obtain ⟨given, octets, moved⟩ := Endpoint.moved_write written
    cases step
    exact .refuse given left stream octets moved

theorem move_of_confirm {rest : List UInt8} {id : SessionId}
    (step : confirm h rest id = some result) : Move h (.welcoming rest id) result := by
  rw [confirm] at step
  split at step
  · next f failed =>
    cases step
    have broken := Endpoint.unwritable_of_write failed
    exact .unwelcome f [] h.stream broken List.nil_prefix h.stream.moved_refl
  · cases step
  · next stream written =>
    obtain ⟨given, octets, moved⟩ := Endpoint.moved_write written
    rw [List.append_nil] at octets
    split at step
    · next f fault =>
      cases step
      have broken := Endpoint.unwritable_of_flush written fault
      exact .unwelcome f given stream broken (octets ▸ List.prefix_rfl) moved
    · cases step
      exact .welcomed stream (octets ▸ moved)
  · next stream left _ written =>
    obtain ⟨given, octets, moved⟩ := Endpoint.moved_write written
    cases step
    exact .welcome given left stream octets moved

theorem move_of_start {id : SessionId} (step : start h id = some result) :
    Move h (.starting id) result := by
  obtain ⟨attached, claim, rfl⟩ := Option.map_eq_some_iff.mp step
  obtain ⟨session, present, rfl⟩ := Option.map_eq_some_iff.mp claim
  cases claimed : session.attach with
  | error e =>
      refine .contest e session present ?_
      rw [Session.attach] at claimed
      split at claimed
      · next busy => exact busy
      · cases claimed
  | ok attached =>
      have move := Move.claim (h := h) session present
        (h.log ++ [⟨.debug, "Channel attached", [nodeField session.node]⟩])
      rw [Server.step_attach_of_ok present claimed] at move
      exact move

theorem move_of_step {c : Connection} (step : c.step h = some result) : Move h c result := by
  cases c with
  | greeting received => exact move_of_greet step
  | refusing rest e => exact move_of_refuse step
  | welcoming rest id => exact move_of_confirm step
  | starting id => exact move_of_start step
  | serving channel =>
      obtain ⟨served, service, rfl⟩ := Option.map_eq_some_iff.mp step
      exact .serve served service

theorem server_welcome (h : Host) (n : NodeId) :
    (Connection.welcome h n).1.server = h.server.step (.register n) := by
  simp only [Connection.welcome, Server.step]
  cases h.server.register n <;> rfl

theorem stream_welcome (h : Host) (n : NodeId) : (Connection.welcome h n).1.stream = h.stream := by
  rw [Connection.welcome]
  cases h.server.register n <;> rfl

theorem advanced_step {c : Connection} (step : c.step h = some result) :
    h.server.Advanced result.1.server := by
  cases move_of_step step with
  | greeted n whole => exact .inr ⟨.register n, trivial, server_welcome h n⟩
  | unwelcome f given stream broken octets moved =>
      exact Host.advanced_closeSession { h with stream } _
  | claim session present log => exact .inr ⟨.attach _, trivial, rfl⟩
  | serve result served => exact Channel.advanced_step served
  | read _ _ _ _ | cut _ _ _ | refuse _ _ _ _ _ | refused _ _ | unrefused _ _ _ _ _ _
    | welcome _ _ _ _ _ | welcomed _ _ | contest _ _ _ _ => exact .refl _

/-- The session that a connection is about to serve, or serves. -/
def session? : Connection → Option SessionId
  | .starting id => some id
  | .serving channel => some channel.session
  | .greeting _ | .refusing _ _ | .welcoming _ _ => none

/-- A connection whose session is there waits for its stream only. -/
theorem waits_of_step_none {c : Connection} {h : Host}
    (present : ∀ id ∈ c.session?, h.server.registry.session? id ≠ none) (idle : c.step h = none) :
    h.stream.Waits := by
  cases c with
  | greeting received =>
      rw [step, greet] at idle
      split at idle
      · cases idle
      · split at idle
        · cases idle
        · next waiting => exact Endpoint.waits_of_read waiting
        · cases idle
        · cases idle
      · cases idle
  | refusing rest e =>
      rw [step, refuse] at idle
      split at idle
      · cases idle
      · next blocked => exact Endpoint.waits_of_write blocked
      · split at idle <;> cases idle
      · cases idle
  | welcoming rest id =>
      rw [step, confirm] at idle
      split at idle
      · cases idle
      · next blocked => exact Endpoint.waits_of_write blocked
      · split at idle <;> cases idle
      · cases idle
  | starting id =>
      rw [step, start, Option.map_eq_none_iff, Channel.attach, Option.map_eq_none_iff] at idle
      exact absurd idle (present id rfl)
  | serving channel =>
      rw [step, serve, Option.map_eq_none_iff] at idle
      exact Channel.waits_of_step_none (present channel.session rfl) idle

end Connection

end CacheCoherence
