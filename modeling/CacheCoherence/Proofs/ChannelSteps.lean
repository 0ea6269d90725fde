import CacheCoherence.Proofs.QueueOrder
import CacheCoherence.Proofs.ServerRun
import CacheCoherence.Proofs.Stream
import CacheCoherence.Server.Channel

/-!
What the service of a channel does in one step. It takes octets only when no
answer is left to write, and processes a request as soon as its frame is there.
-/

namespace CacheCoherence

namespace Server

theorem settings_process (s : Server) (id : SessionId) (r : Request) :
    (((s.process id r).map Prod.fst).getD s).settings = s.settings := by
  rw [process_eq]
  cases s.registry.session? id with
  | none => rfl
  | some session => exact (s.frame_apply session.node r).1

theorem settings_called (s : Server) (n : NodeId) (r : Request) :
    (s.called n r).settings = s.settings := by
  rw [called_eq]
  cases s.registry.live.get? n with
  | none => rfl
  | some id => exact s.settings_process id r

/-- Nothing that is done to a server changes its settings. -/
theorem settings_step (s : Server) (op : Operation) : (s.step op).settings = s.settings := by
  cases op with
  | process id r => exact s.settings_process id r
  | call n r => exact s.settings_called n r
  | callArrays n a =>
      simp only [step]
      cases Batch.ofArrays a with
      | ok b => exact s.settings_called n (.commit b)
      | error e => rfl
  | register n =>
      simp only [step, register]
      cases s.registry.register n <;> rfl
  | unregister n =>
      simp only [step, unregister]
      cases s.registry.unregister n release (s.directory, []) <;> rfl
  | attach id =>
      simp only [step]
      cases s.registry.attach? id with
      | none => rfl
      | some r => cases r <;> rfl
  | _ => rfl

theorem settings_after (s : Server) (ops : List Operation) :
    (s.after ops).settings = s.settings := by
  induction ops generalizing s with
  | nil => rfl
  | cons op ops ih => exact (ih (s.step op)).trans (s.settings_step op)

end Server

namespace Channel

variable {c : Channel} {h h' : Host}

section Present

variable (present : h.server.registry.session? c.session ≠ none)

include present

/-- The requests of a session that is there are processed. -/
theorem process_of_present (r : Request) (rest : List UInt8) : c.process h r rest ≠ none := by
  rw [process, Server.process_eq]
  cases there : h.server.registry.session? c.session with
  | none => exact absurd there present
  | some session => nofun

theorem waits_of_receive_none {context : String} {missing : Nat} {atEnd : ChannelEnd}
    (idle : c.receive h context missing atEnd = none) : h.stream.Waits := by
  rw [receive] at idle
  split at idle
  · cases idle
  · next waiting => exact Endpoint.waits_of_read waiting
  · cases idle
  · dsimp only at idle
    split at idle
    · refine absurd idle (process_of_present ?_ _ _)
      exact present
    · cases idle
    · cases idle
    · cases idle

/-- A channel whose session is there waits for its stream only. -/
theorem waits_of_step_none (idle : c.step h = none) : h.stream.Waits := by
  rw [Channel.step] at idle
  split at idle
  · rw [respond] at idle
    split at idle
    · cases idle
    · next blocked => exact Endpoint.waits_of_write blocked
    · split at idle <;> cases idle
    · cases idle
  · split at idle
    · cases idle
    · split at idle
      · next spent => exact .inl spent
      · split at idle
        · exact absurd idle (process_of_present present _ _)
        · exact waits_of_receive_none present idle
        · exact waits_of_receive_none present idle
        · cases idle

end Present

/-- The channel once it has had a request processed, before it answers. -/
def handle (c : Channel) (r : Request) (outcome : Outcome) (received : List UInt8) : Channel :=
  { c with
    processed := c.processed + 1
    received
    answer := some (Response.ofOutcome outcome).frame
    handled := c.handled.append [(r, outcome)] }

theorem handled_handle (c : Channel) (r : Request) (outcome : Outcome) (received : List UInt8) :
    (c.handle r outcome received).handled.toList = c.handled.toList ++ [(r, outcome)] :=
  Journal.toList_append ..

/-- What is made of the octets that have been received. -/
def digest (c : Channel) (h : Host) : Progress Channel ChannelSummary :=
  match c.arrival h.server with
  | .frame r rest => c.process h r rest
  | .nothing | .begun _ _ => some (h, .inl c)
  | .refused e => some (c.finish h (.failed e))

/-- Why a channel ends where it has met nothing that is no request. -/
inductive Reason (c : Channel) (h : Host) : ChannelEnd → Prop where
  | closed (answered : c.answer = none) (nothing : c.arrival h.server = .nothing)
      (ended : h.stream.Exhausted) : Reason c h .closed
  | shutDown (answered : c.answer = none) (down : c.isShutDown h.server = true) :
      Reason c h .shutDown
  | cut (context : String) (missing : Nat) (answered : c.answer = none)
      (begun : c.arrival h.server = .begun context missing) (ended : h.stream.Exhausted) :
      Reason c h (.failed (.endOfStream context))
  | unread (f : StreamFault) (context : String) (answered : c.answer = none)
      (lacking : c.arrival h.server = .nothing ∨ ∃ missing, c.arrival h.server =
        .begun context missing)
      (broken : h.stream.faults.read = some f) : Reason c h (.failed (f.toError context))
  | unwritten (f : StreamFault) (answering : c.answer ≠ none) (broken : h.stream.Unwritable f) :
      Reason c h (.failed (f.toError "frame"))

theorem Reason.unbroken {ending : ChannelEnd} (why : c.Reason h ending) :
    ∀ e, ending = .failed e → e.isBreach = false := by
  rintro e rfl
  cases why with
  | cut context missing answered begun ended => rfl
  | unread f context answered lacking broken => exact f.isBreach_toError context
  | unwritten f answering broken => exact f.isBreach_toError "frame"

/-- A step of the service, up to its end. -/
inductive Service (c : Channel) (h : Host) : Host × (Channel ⊕ ChannelSummary) → Prop where
  /-- A part of the answer is written. -/
  | respond (answer : Option (List UInt8)) (given : List UInt8) (stream : Endpoint)
      (answering : c.answer ≠ none) (octets : c.answer.getD [] = given ++ answer.getD [])
      (moved : h.stream.Moved stream [] given) :
      Service c h ({ h with stream }, .inl { c with answer })
  | digest (bytes : List UInt8) (stream : Endpoint) (answered : c.answer = none)
      (moved : h.stream.Moved stream bytes [])
      (result : Host × (Channel ⊕ ChannelSummary))
      (digested : digest { c with received := c.received ++ bytes } { h with stream } =
        some result) : Service c h result
  /-- The session is over, or the stream fails or ends. -/
  | finish (ending : ChannelEnd) (given lost : List UInt8) (stream : Endpoint)
      (why : c.Reason h ending) (octets : c.answer.getD [] = given ++ lost)
      (moved : h.stream.Moved stream [] given) : Service c h (c.finish { h with stream } ending)

theorem service_of_respond {rest : List UInt8} {result : Host × (Channel ⊕ ChannelSummary)}
    (answering : c.answer = some rest) (step : c.respond h rest = some result) :
    Service c h result := by
  have pending : c.answer.getD [] = rest := by rw [answering]; rfl
  have unanswered : c.answer ≠ none := by rw [answering]; exact Option.some_ne_none rest
  rw [respond] at step
  split at step
  · next f failed =>
    cases step
    exact .finish _ [] rest h.stream (.unwritten f unanswered (Endpoint.unwritable_of_write failed))
      pending h.stream.moved_refl
  · cases step
  · next written =>
    obtain ⟨given, octets, moved⟩ := Endpoint.moved_write written
    split at step
    · next f fault =>
      cases step
      have broken := Endpoint.unwritable_of_flush written fault
      exact .finish _ given [] _ (.unwritten f unanswered broken) (pending.trans octets) moved
    · cases step
      exact .respond none given _ unanswered (pending.trans octets) moved
  · next left _ written =>
    obtain ⟨given, octets, moved⟩ := Endpoint.moved_write written
    cases step
    exact .respond (some left) given _ unanswered (pending.trans octets) moved

theorem service_of_receive {context : String} {missing : Nat} {atEnd : ChannelEnd}
    {result : Host × (Channel ⊕ ChannelSummary)} (answered : c.answer = none)
    (lacking : c.arrival h.server = .nothing ∨ ∃ missing, c.arrival h.server =
      .begun context missing)
    (ending : h.stream.Exhausted → c.Reason h atEnd)
    (step : c.receive h context missing atEnd = some result) : Service c h result := by
  have nothing : c.answer.getD [] = [] ++ [] := by rw [answered]; rfl
  rw [receive] at step
  split at step
  · next f failed =>
    cases step
    have broken := Endpoint.fault_of_read failed
    exact .finish _ [] [] h.stream (.unread f context answered lacking broken) nothing
      h.stream.moved_refl
  · cases step
  · next ended =>
    cases step
    exact .finish atEnd [] [] h.stream (ending (Endpoint.exhausted_of_read ended)) nothing
      h.stream.moved_refl
  · next stream bytes got =>
    exact .digest bytes stream answered (Endpoint.moved_read got) result step

theorem service_of_step {result : Host × (Channel ⊕ ChannelSummary)}
    (step : c.step h = some result) : Service c h result := by
  rw [Channel.step] at step
  split at step
  · next rest answering => exact service_of_respond answering step
  · next answered =>
    have nothing : c.answer.getD [] = [] ++ [] := by rw [answered]; rfl
    have now : ∀ result, digest { c with received := c.received ++ [] } h = some result →
        Service c h result :=
      fun result => .digest [] h.stream answered h.stream.moved_refl result
    rw [List.append_nil, digest] at now
    split at step
    · next down =>
      cases step
      exact .finish .shutDown [] [] h.stream (.shutDown answered down) nothing h.stream.moved_refl
    · split at step
      · cases step
      · split at step
        · next found =>
          rw [found] at now
          exact now result step
        · next found =>
          exact service_of_receive answered (.inl found) (.closed answered found) step
        · next context missing found =>
          exact service_of_receive answered (.inr ⟨missing, found⟩)
            (.cut context missing answered found) step
        · next found =>
          rw [found] at now
          exact now result step

/-- A channel that cannot go on, though it is its turn and it has no answer to write, has no request
left among the octets that it has. -/
theorem lacking_of_step_none (present : h.server.registry.session? c.session ≠ none)
    (answered : c.answer = none) (turn : h.stream.allowance ≠ 0) (idle : c.step h = none) :
    c.arrival h.server = .nothing ∨ ∃ context missing, c.arrival h.server =
      .begun context missing := by
  rw [Channel.step, answered] at idle
  dsimp only at idle
  split at idle
  · cases idle
  · split at idle
    · exact absurd idle (process_of_present present _ _)
    · next found => exact .inl found
    · next context missing found => exact .inr ⟨context, missing, found⟩
    · cases idle

end Channel

end CacheCoherence
