import CacheCoherence.Frame.Response
import CacheCoherence.Server.Report
import CacheCoherence.Stream.Endpoint

/-!
The service of one session's channel: read a request, process it, write the
answer, and again. Between two steps the task waits for the stream, and a step
is nothing while it has to wait. The channel ends when the node closes the
stream between frames, when the session is shut down, or by a failure; its
session is closed then.
-/

namespace CacheCoherence

open Logging

inductive ChannelEnd where
  | closed
  | shutDown
  | failed (e : ChannelError)
  deriving DecidableEq

structure ChannelSummary where
  node : NodeId
  processed : Nat
  ending : ChannelEnd
  deriving DecidableEq

structure Channel where
  session : SessionId
  node : NodeId
  processed : Nat := 0
  /-- Octets received and not yet made into requests. -/
  received : List UInt8 := []
  /-- What is left to write of the answer to the last request. -/
  answer : Option (List UInt8) := none
  /-- Every request processed, with what came of it, in order. -/
  handled : Journal (Request × Outcome) := {}

structure Host where
  server : Server
  stream : Endpoint
  log : List Event := []

namespace Host

def report (h : Host) (events : List Event) : Host :=
  { h with log := h.log ++ events }

def closeSession (h : Host) (id : SessionId) : Host :=
  let r := h.server.closeSession id
  { h with server := r.1 }.report (r.2.map Released.log)

end Host

/-- The state after a step of a task: it goes on, or it is done. -/
abbrev Progress (τ ρ : Type) := Option (Host × (τ ⊕ ρ))

namespace Channel

def endLog (c : Channel) (ending : ChannelEnd) : Event :=
  let fields := [nodeField c.node, number "processed" c.processed]
  match ending with
  | .closed => ⟨.info, "Channel closed by node", fields⟩
  | .shutDown => ⟨.info, "Channel shut down", fields⟩
  | .failed e => ⟨.error, "Channel failed", fields ++ [text "error" e.message]⟩

def shutdownFaultLog (n : NodeId) : Option StreamFault → List Event
  | none => []
  | some f => [⟨.debug, "Stream shutdown failed", [nodeField n, text "error" f.text]⟩]

def finish (c : Channel) (h : Host) (ending : ChannelEnd) : Host × (Channel ⊕ ChannelSummary) :=
  let finished := h.stream.finish
  let h := (h.report (c.endLog ending :: shutdownFaultLog c.node finished.2)).closeSession c.session
  ({ h with stream := finished.1.drop }, .inr ⟨c.node, c.processed, ending⟩)

def respond (c : Channel) (h : Host) (rest : List UInt8) : Progress Channel ChannelSummary :=
  match h.stream.write rest with
  | .failed f => some (c.finish h (.failed (f.toError "frame")))
  | .blocked => none
  | .wrote stream [] =>
    match stream.faults.flush with
    | some f => some (c.finish { h with stream } (.failed (f.toError "frame")))
    | none => some ({ h with stream }, .inl { c with answer := none })
  | .wrote stream rest => some ({ h with stream }, .inl { c with answer := some rest })

def process (c : Channel) (h : Host) (r : Request) (rest : List UInt8) :
    Progress Channel ChannelSummary :=
  (h.server.process c.session r).map fun p =>
    ({ h with server := p.1 }.report p.2.log,
      .inl { c with
        processed := c.processed + 1
        received := rest
        answer := some (Response.ofOutcome p.2.outcome).frame
        handled := c.handled.append [(r, p.2.outcome)] })

def arrival (c : Channel) (s : Server) : Frame.Arrival Request :=
  (Request.read s.settings.limits).arrival c.received

/-- Takes in more octets, for the field that is being read. A request that they complete is
processed at once. -/
def receive (c : Channel) (h : Host) (context : String) (missing : Nat) (atEnd : ChannelEnd) :
    Progress Channel ChannelSummary :=
  match h.stream.readAhead missing with
  | .failed f => some (c.finish h (.failed (f.toError context)))
  | .waiting => none
  | .ended => some (c.finish h atEnd)
  | .got stream bytes =>
    let h := { h with stream }
    let c := { c with received := c.received ++ bytes }
    match c.arrival h.server with
    | .frame r rest => c.process h r rest
    | .nothing | .begun _ _ => some (h, .inl c)
    | .refused e => some (c.finish h (.failed e))

def isShutDown (c : Channel) (s : Server) : Bool :=
  match s.registry.session? c.session with
  | some session => session.shutDown
  | none => true

def step (c : Channel) (h : Host) : Progress Channel ChannelSummary :=
  match c.answer with
  | some rest => c.respond h rest
  | none =>
    if c.isShutDown h.server then some (c.finish h .shutDown)
    else if h.stream.allowance = 0 then none
    else
      match c.arrival h.server with
      | .frame r rest => c.process h r rest
      | .nothing => c.receive h "frame" 1 .closed
      | .begun context missing => c.receive h context missing (.failed (.endOfStream context))
      | .refused e => some (c.finish h (.failed e))

/-- Claims a session for a new channel. A session that has one already keeps it, and the stream is
let go. -/
def attach (id : SessionId) (h : Host) : Option (Host × (Channel ⊕ Error)) :=
  (h.server.registry.session? id).map fun session =>
    match session.attach with
    | .ok attached =>
      let registry := h.server.registry.modify id fun _ => attached
      ({ h with server := { h.server with registry } }.report
          [⟨.debug, "Channel attached", [nodeField session.node]⟩],
        .inl { session := id, node := session.node })
    | .error e => ({ h with stream := h.stream.drop }, .inr (.input e))

end Channel

end CacheCoherence
