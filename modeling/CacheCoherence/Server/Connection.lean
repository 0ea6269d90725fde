import CacheCoherence.Frame.Hello
import CacheCoherence.Server.Channel

/-!
A connection from its first octet. The node says who it is; the server registers
it and says so, or refuses it; then the stream is the channel of the new
session. The greeting takes no octet beyond its own, so the channel begins with
the octet after it.
-/

namespace CacheCoherence

inductive Connection where
  /-- Reading the node's identifier, of which these octets are there. -/
  | greeting (received : List UInt8)
  | refusing (rest : List UInt8) (e : Error)
  | welcoming (rest : List UInt8) (session : SessionId)
  | starting (session : SessionId)
  | serving (channel : Channel)

abbrev ConnectionResult := Except Error ChannelSummary

namespace Connection

def fail (h : Host) (e : Error) : Host × (Connection ⊕ ConnectionResult) :=
  ({ h with stream := h.stream.drop }, .inr (.error e))

def welcome (h : Host) (n : NodeId) : Host × Connection :=
  match h.server.register n with
  | .ok (server, id) =>
    ({ h with server }.report [Server.registrationLog n], .welcoming Response.ok.frame id)
  | .error e => (h, .refusing (Response.ofOutcome (.error (.input e))).frame (.input e))

def greet (h : Host) (received : List UInt8) : Progress Connection ConnectionResult :=
  match (Hello.read.attempt received).1 with
  | .ok n =>
    let r := welcome h n
    some (r.1, .inl r.2)
  | .error (.short context missing) =>
    match h.stream.read missing with
    | .failed f => some (fail h (.channel (f.toError context)))
    | .waiting => none
    | .ended => some (fail h (.channel (.endOfStream context)))
    | .got stream bytes => some ({ h with stream }, .inl (.greeting (received ++ bytes)))
  | .error (.refused e) => some (fail h (.channel e))

def refuse (h : Host) (rest : List UInt8) (e : Error) : Progress Connection ConnectionResult :=
  match h.stream.write rest with
  | .failed f => some (fail h (.channel (f.toError "frame")))
  | .blocked => none
  | .wrote stream [] =>
    match stream.faults.flush with
    | some f => some (fail { h with stream } (.channel (f.toError "frame")))
    | none => some (fail { h with stream } e)
  | .wrote stream rest => some ({ h with stream }, .inl (.refusing rest e))

/-- Goes on writing the welcome; the session is closed where that fails. -/
def confirm (h : Host) (rest : List UInt8) (id : SessionId) :
    Progress Connection ConnectionResult :=
  match h.stream.write rest with
  | .failed f => some (fail (h.closeSession id) (.channel (f.toError "frame")))
  | .blocked => none
  | .wrote stream [] =>
    match stream.faults.flush with
    | some f => some (fail ({ h with stream }.closeSession id) (.channel (f.toError "frame")))
    | none => some ({ h with stream }, .inl (.starting id))
  | .wrote stream rest => some ({ h with stream }, .inl (.welcoming rest id))

def start (h : Host) (id : SessionId) : Progress Connection ConnectionResult :=
  (Channel.attach id h).map fun r => (r.1, r.2.map .serving .error)

def serve (h : Host) (c : Channel) : Progress Connection ConnectionResult :=
  (c.step h).map fun r => (r.1, r.2.map .serving .ok)

def step (c : Connection) (h : Host) : Progress Connection ConnectionResult :=
  match c with
  | .greeting received => greet h received
  | .refusing rest e => refuse h rest e
  | .welcoming rest id => confirm h rest id
  | .starting id => start h id
  | .serving channel => serve h channel

end Connection

end CacheCoherence
