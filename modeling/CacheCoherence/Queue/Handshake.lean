import CacheCoherence.Frame.Hello
import CacheCoherence.Queue.Tasks

/-!
How a node comes to have an update queue on a new stream: it says who it is,
waits for the server's answer, and takes no octet beyond that answer from the
stream.
-/

namespace CacheCoherence.Handshake

open Logging

def greet (n : NodeId) (stream : Endpoint) : Except Error Endpoint :=
  match stream.write (Hello.frame n) with
  | .failed f => .error (.channel (f.toError "frame"))
  | .blocked => .ok stream
  | .wrote stream _ =>
    match stream.faults.flush with
    | some f => .error (.channel (f.toError "frame"))
    | none => .ok stream

/-- The stream behind the answer, or why there is no connection; nothing while the answer is on its
way. -/
def answer (stream : Endpoint) : Option (Except Error Endpoint) :=
  let atEnd (context : String) : Option (Except Error Endpoint) :=
    if stream.incoming.closed then some (.error (.channel (.endOfStream context))) else none
  match Response.read.arrival stream.incoming.buffer.toList with
  | .frame r rest =>
    match r.toOutcome with
    | .ok () =>
      some (.ok { stream with incoming := { stream.incoming with buffer := .ofList rest } })
    | .error e => some (.error e)
  | .nothing => atEnd "handshake"
  | .begun context _ => atEnd context
  | .refused e => some (.error (.channel e))

def connectedLog (n : NodeId) : Event :=
  ⟨.info, "Update queue connected", [number "node_id" n.value]⟩

end CacheCoherence.Handshake
