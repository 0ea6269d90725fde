import CacheCoherence.Proofs.ChannelSteps
import CacheCoherence.Proofs.FrameSequence

/-!
The service of a channel on a stream that does not fail, for a session that is
not shut down. A step writes some of the answer, takes in octets, processes the
next request of the stream, or ends with what the stream has come to; and where
there is no step, it waits for the other side to read or to write.
-/

namespace CacheCoherence

/-- What lasts until something else comes about, and no longer than up to a certain turn, makes the
other thing come about. -/
theorem of_turn {P : Nat → Prop} {Q : Prop} {k turn : Nat} (later : k ≤ turn) (now : P k)
    (next : ∀ n, k ≤ n → P n → Q ∨ P (n + 1) ∧ n ≠ turn) : Q := by
  by_contra never
  have lasts : ∀ n, k ≤ n → P n := by
    intro n since
    induction n, since using Nat.le_induction with
    | base => exact now
    | succ n since ih => exact ((next n since ih).resolve_left never).1
  exact ((next turn later (lasts turn later)).resolve_left never).2 rfl

/-- The requests that octets consist of, for the limits of a server, and why there are no more. -/
def Server.readAll (s : Server) (bytes : List UInt8) : List Request × Except ChannelError Unit :=
  Frame.readAll (Request.read s.settings.limits) bytes

/-- How a channel ends that has read its stream to the end, or to where it cannot be read. -/
def ChannelEnd.ofRead : Except ChannelError Unit → ChannelEnd
  | .ok () => .closed
  | .error e => .failed e

namespace Channel

theorem octets_finish (c : Channel) (h : Host) (ending : ChannelEnd) :
    (c.finish h ending).1.stream.outgoing.octets = h.stream.outgoing.octets :=
  h.stream.moved_refl.finish.drop.outgoing.trans (List.append_nil _)

/-- A step of the service while nothing goes wrong, up to the end of the stream. -/
inductive Turn (c : Channel) (h : Host) : Host × (Channel ⊕ ChannelSummary) → Prop where
  | respond (answer : Option (List UInt8)) (rest given : List UInt8) (stream : Endpoint)
      (answering : c.answer = some rest) (octets : rest = given ++ answer.getD [])
      (less : given = [] → answer = none) (moved : h.stream.Moved stream [] given)
      (alike : h.stream.Alike stream) :
      Turn c h ({ h with stream }, .inl { c with answer })
  | take (bytes : List UInt8) (stream : Endpoint) (answered : c.answer = none) (some : bytes ≠ [])
      (moved : h.stream.Moved stream bytes []) (alike : h.stream.Alike stream) :
      Turn c h ({ h with stream }, .inl { c with received := c.received ++ bytes })
  /-- The request is the first one of what has been received, whatever comes behind. -/
  | process (bytes rest : List UInt8) (r : Request) (p : Server × Processed) (stream : Endpoint)
      (answered : c.answer = none) (moved : h.stream.Moved stream bytes [])
      (alike : h.stream.Alike stream) (shorter : rest.length < c.received.length + bytes.length)
      (first : ∀ more, h.server.readAll (c.received ++ (bytes ++ more)) =
        (r :: (h.server.readAll (rest ++ more)).1, (h.server.readAll (rest ++ more)).2))
      (processed : h.server.process c.session r = some p) :
      Turn c h ({ h with server := p.1, stream }.report p.2.log,
        .inl { c with
          processed := c.processed + 1
          received := rest
          answer := some (Response.ofOutcome p.2.outcome).frame
          handled := c.handled.append [(r, p.2.outcome)] })
  /-- No request is to come any more, with what may still come. -/
  | finish (bytes : List UInt8) (stream : Endpoint) (result : Except ChannelError Unit)
      (answered : c.answer = none) (moved : h.stream.Moved stream bytes [])
      (alike : h.stream.Alike stream)
      (last : ∀ more, (h.stream.incoming.closed = true → more = []) →
        h.server.readAll (c.received ++ (h.stream.incoming.octets ++ more)) = ([], result)) :
      Turn c h (c.finish { h with stream } (.ofRead result))

variable {c : Channel} {h : Host} {result : Host × (Channel ⊕ ChannelSummary)}

section Answered

variable (answered : c.answer = none) {bytes : List UInt8} {stream : Endpoint}
  (moved : h.stream.Moved stream bytes []) (alike : h.stream.Alike stream)

include answered moved alike

theorem turn_of_frame {r : Request} {rest : List UInt8}
    (arrived : arrival { c with received := c.received ++ bytes } h.server = .frame r rest)
    (step : process { c with received := c.received ++ bytes } { h with stream } r rest =
      some result) : Turn c h result := by
  obtain ⟨p, processed, rfl⟩ := Option.map_eq_some_iff.mp step
  have divides := Request.divides h.server.settings.limits
  refine .process bytes rest r p stream answered moved alike ?_ (fun more => ?_) processed
  · rw [← List.length_append]
    exact divides.length_lt_of_arrival arrived
  · rw [← List.append_assoc]
    exact divides.readAll_frame arrived more

theorem turn_of_refused {e : ChannelError}
    (arrived : arrival { c with received := c.received ++ bytes } h.server = .refused e) :
    Turn c h (c.finish { h with stream } (.failed e)) := by
  refine .finish bytes stream (.error e) answered moved alike fun more _ => ?_
  rw [moved.incoming, List.append_assoc, ← List.append_assoc]
  exact (Request.divides h.server.settings.limits).readAll_refused arrived _

end Answered

/-- A session that is not shut down is there, so its requests are processed. -/
theorem process_ne_none (served : c.isShutDown h.server = false) (r : Request)
    (rest : List UInt8) : c.process h r rest ≠ none := by
  refine process_of_present (fun absent => ?_) r rest
  rw [isShutDown, absent] at served
  cases served

section Quiet

variable (quiet : h.stream.faults = {})

include quiet

theorem turn_of_receive (answered : c.answer = none) {context : String} {missing : Nat}
    {last : Except ChannelError Unit} (ending : h.server.readAll c.received = ([], last))
    (step : c.receive h context missing (.ofRead last) = some result) : Turn c h result := by
  rw [receive] at step
  split at step
  · next failed => exact absurd failed (Endpoint.read_ne_failed quiet _ _)
  · cases step
  · next ended =>
    obtain ⟨empty, closed⟩ := Endpoint.exhausted_of_read ended
    cases step
    refine .finish [] h.stream last answered h.stream.moved_refl h.stream.alike_refl ?_
    intro more none
    rw [empty, none closed, List.append_nil, List.append_nil]
    exact ending
  · next stream bytes got =>
    have some := Endpoint.ne_nil_of_readAhead got
    have moved := Endpoint.moved_read got
    have alike := Endpoint.alike_read got
    dsimp only at step
    split at step
    · next arrived => exact turn_of_frame answered moved alike arrived step
    · cases step
      exact .take bytes stream answered some moved alike
    · cases step
      exact .take bytes stream answered some moved alike
    · next arrived =>
      cases step
      exact turn_of_refused answered moved alike arrived

theorem turn_of_respond (unclosed : h.stream.outgoing.closed = false) {rest : List UInt8}
    (answering : c.answer = some rest) (step : c.respond h rest = some result) :
    Turn c h result := by
  rw [respond] at step
  split at step
  · next failed => exact absurd failed (Endpoint.write_ne_failed quiet unclosed _ _)
  · cases step
  · next stream written =>
    obtain ⟨given, octets, -, moved, alike⟩ := Endpoint.exists_given_of_write written
    have flush : stream.faults.flush = none := by rw [alike.faults, quiet]
    rw [flush] at step
    cases step
    exact .respond none rest given stream answering octets (fun _ => rfl) moved alike
  · next stream left some written =>
    obtain ⟨given, octets, less, moved, alike⟩ := Endpoint.exists_given_of_write written
    cases step
    exact .respond _ rest given stream answering octets (fun none => absurd (less none) some)
      moved alike

theorem turn_of_step (unclosed : h.stream.outgoing.closed = false)
    (served : c.isShutDown h.server = false) (step : c.step h = some result) : Turn c h result := by
  have divides := Request.divides h.server.settings.limits
  rw [Channel.step] at step
  cases answer : c.answer with
  | some rest =>
      rw [answer] at step
      exact turn_of_respond quiet unclosed answer step
  | none =>
      -- A frame may be there already. It is taken as one that came with no more octets.
      have nothing : { c with received := c.received ++ [] } = c := by rw [List.append_nil]
      rw [answer, served] at step
      dsimp only at step
      rw [if_neg Bool.false_ne_true] at step
      split at step
      · cases step
      · split at step
        · next arrived =>
          rw [← nothing] at arrived step
          exact turn_of_frame answer h.stream.moved_refl h.stream.alike_refl arrived step
        · next arrived =>
          exact turn_of_receive quiet answer (divides.readAll_nothing arrived) step
        · next arrived =>
          exact turn_of_receive quiet answer (divides.readAll_begun arrived) step
        · next arrived =>
          cases step
          rw [← nothing] at arrived
          exact turn_of_refused answer h.stream.moved_refl h.stream.alike_refl arrived

end Quiet

section Waits

variable (ready : h.stream.allowance ≠ 0)

include ready

theorem waits_of_receive (served : c.isShutDown h.server = false) {context : String}
    {missing : Nat} {atEnd : ChannelEnd} (waiting : c.receive h context missing atEnd = none) :
    h.stream.incoming.octets = [] ∧ h.stream.incoming.closed = false := by
  rw [receive] at waiting
  split at waiting
  · cases waiting
  · next read => exact (Endpoint.waiting_of_read read).resolve_left ready
  · cases waiting
  · next stream bytes _ =>
    dsimp only at waiting
    split at waiting
    · refine absurd waiting (process_ne_none (h := { h with stream }) ?_ _ _)
      exact served
    · cases waiting
    · cases waiting
    · cases waiting

theorem waits_of_respond {rest : List UInt8} (waiting : c.respond h rest = none) :
    h.stream.outgoing.room = 0 := by
  rw [respond] at waiting
  split at waiting
  · cases waiting
  · next blocked => exact ((Endpoint.blocked_of_write blocked).resolve_left ready).2.2
  · split at waiting <;> cases waiting
  · cases waiting

/-- While the service has calls left, it waits for room or for octets only. -/
theorem waits_of_step (served : c.isShutDown h.server = false) (waiting : c.step h = none) :
    (c.answer ≠ none ∧ h.stream.outgoing.room = 0) ∨
      (c.answer = none ∧ h.stream.incoming.octets = [] ∧ h.stream.incoming.closed = false) := by
  rw [Channel.step] at waiting
  cases answer : c.answer with
  | some rest =>
      rw [answer] at waiting
      exact .inl ⟨Option.some_ne_none rest, waits_of_respond ready waiting⟩
  | none =>
      rw [answer, served] at waiting
      dsimp only at waiting
      rw [if_neg Bool.false_ne_true, if_neg ready] at waiting
      split at waiting
      · exact absurd waiting (process_ne_none served _ _)
      · exact .inr ⟨rfl, waits_of_receive ready served waiting⟩
      · exact .inr ⟨rfl, waits_of_receive ready served waiting⟩
      · cases waiting

end Waits

end Channel

end CacheCoherence
