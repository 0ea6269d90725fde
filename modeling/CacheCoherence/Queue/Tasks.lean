import CacheCoherence.Queue.Basic
import CacheCoherence.Stream.Endpoint

/-!
The two tasks of an update queue. The sending task takes requests in order,
notes each as in flight and writes its frame; the receiving task matches the
responses with the requests in flight, the oldest first. Each step is what the
task does between two waits, and is nothing while it has to wait.
-/

namespace CacheCoherence.UpdateQueue

open Logging

/-- Frames shorter than this are gathered before they are written. -/
def bufferSize : Nat := 8192

/-- Notes a request as in flight; a queue that has failed completes it with the failure. -/
def launch (q : UpdateQueue) (s : Submission) : UpdateQueue × Bool :=
  match q.failure with
  | some e => (q.deliver s.sequence s.completion (.error (.channel e)), false)
  | none =>
    ({ q with inFlight := q.inFlight ++ [s.toInFlight], sent := q.sent ++ [s] }, true)

/-- What is told to requests that were never sent. -/
def unsentError (q : UpdateQueue) : ChannelError :=
  q.failure.getD (.shutDown "update queue closed")

def leave (q : UpdateQueue) (buffered : List UInt8) : UpdateQueue :=
  let unsent := q.waiting
  let e := q.unsentError
  unsent.foldl (fun q s => q.deliver s.sequence s.completion (.error (.channel e)))
    { q with waiting := [], sending := .closing buffered }

def take (q : UpdateQueue) : Option UpdateQueue :=
  match q.failure, q.waiting with
  | some _, _ => some (q.leave [])
  | none, [] => if q.held then none else some ({ q with draining := true }.leave [])
  | none, s :: waiting =>
    match launch { q with waiting } s with
    | (q, true) =>
      let frame := s.request.frame
      some { q with sending :=
        if isShorter frame bufferSize then .writing [] frame else .writing frame [] }
    | (q, false) => some (q.leave [])

def failSending (q : UpdateQueue) (f : StreamFault) (buffered : List UInt8) : UpdateQueue :=
  (q.fail (f.toError "frame")).leave buffered

/-- Goes on writing a frame. What is left of a long one is gathered once it is short enough. -/
def transmit (q : UpdateQueue) (stream : Endpoint) (rest buffered : List UInt8) :
    Option (UpdateQueue × Endpoint) :=
  if rest.isEmpty then
    match stream.write buffered with
    | .failed f => some (q.failSending f buffered, stream)
    | .blocked => none
    | .wrote stream [] =>
      match stream.faults.flush with
      | some f => some (q.failSending f [], stream)
      | none => some ({ q with sending := .idle }, stream)
    | .wrote stream left => some ({ q with sending := .writing [] left }, stream)
  else if isShorter rest bufferSize then
    some ({ q with sending := .writing [] rest }, stream)
  else
    match stream.write rest with
    | .failed f => some (q.failSending f [], stream)
    | .blocked => none
    | .wrote stream left => some ({ q with sending := .writing left buffered }, stream)

def stopSending (q : UpdateQueue) (fault : Option StreamFault) : UpdateQueue :=
  let q := { q with sending := .stopped }
  match fault with
  | none => q
  | some f => q.report [⟨.debug, "Stream shutdown failed", [q.nodeField, text "error" f.text]⟩]

def conclude (q : UpdateQueue) (stream : Endpoint) (buffered : List UInt8) :
    Option (UpdateQueue × Endpoint) :=
  match stream.write buffered with
  | .failed f => some (q.stopSending (some f), stream)
  | .blocked => none
  | .wrote stream [] =>
    let r := stream.finish
    some (q.stopSending r.2, r.1)
  | .wrote stream left => some ({ q with sending := .closing left }, stream)

def send (q : UpdateQueue) (stream : Endpoint) : Option (UpdateQueue × Endpoint) :=
  match q.sending with
  | .idle =>
    if q.failure.isNone && stream.allowance = 0 then none
    else q.take.map fun q => (q, stream.spend)
  | .writing rest buffered => q.transmit stream rest buffered
  | .closing buffered => q.conclude stream buffered
  | .stopped => none

def answeredLog (q : UpdateQueue) (f : InFlight) : Event :=
  ⟨.debug, "Request completed",
    [q.nodeField, number "sequence" f.sequence, text "kind" f.kind.text]⟩

def failReceiving (q : UpdateQueue) (e : ChannelError) : UpdateQueue :=
  { q.fail e with receiving := .stopped }

def answer (q : UpdateQueue) (r : Response) (rest : List UInt8) : UpdateQueue :=
  match q.inFlight with
  | [] => q.failReceiving .unexpectedResponse
  | f :: inFlight =>
    { q with inFlight, receiving := .running rest }.report [q.answeredLog f]
      |>.deliver f.sequence f.completion r.toOutcome

/-- Why the queue is over when the responses end between frames. -/
def endError (q : UpdateQueue) : ChannelError :=
  if q.inFlight.isEmpty && q.draining then .shutDown "update queue closed"
  else .endOfStream "response stream"

/-- Takes in more octets, for the field that is being read. A response that they complete is dealt
with at once. -/
def collect (q : UpdateQueue) (stream : Endpoint) (received : List UInt8) (context : String)
    (missing : Nat) (atEnd : ChannelError) : Option (UpdateQueue × Endpoint) :=
  match stream.readAhead missing with
  | .failed f => some (q.failReceiving (f.toError context), stream)
  | .waiting => none
  | .ended => some (q.failReceiving atEnd, stream)
  | .got stream bytes =>
    let received := received ++ bytes
    match Response.read.arrival received with
    | .frame r rest => some (q.answer r rest, stream)
    | .nothing | .begun _ _ => some ({ q with receiving := .running received }, stream)
    | .refused e => some (q.failReceiving e, stream)

def receive (q : UpdateQueue) (stream : Endpoint) : Option (UpdateQueue × Endpoint) :=
  match q.receiving, q.failure with
  | .stopped, _ => none
  | .running _, some _ => some ({ q with receiving := .stopped }, stream)
  | .running received, none =>
    if stream.allowance = 0 then none
    else
      match Response.read.arrival received with
      | .frame r rest => some (q.answer r rest, stream)
      | .nothing => q.collect stream received "frame" 1 q.endError
      | .begun context missing => q.collect stream received context missing (.endOfStream context)
      | .refused e => some (q.failReceiving e, stream)

end CacheCoherence.UpdateQueue
