import CacheCoherence.Proofs.Stream
import CacheCoherence.Queue.Tasks

/-!
An update queue among threads. Its callers and its two tasks run at the same
time, and between any two accesses of a thread to what they share the others
come in: the lock, the counter, the channel, the signal to stop, the node's own
record, the stream, and each completion that is invoked. A thread does one such
access after the other; left alone it does what the queue does in one piece.
-/

namespace CacheCoherence

open Logging

inductive Thread where
  | caller (n : Nat)
  | sender
  | receiver
  deriving DecidableEq

/-- One access of a thread to what it shares with the others, or a part of its log. -/
inductive Act where
  /-- A call begins: a key that is given up is given up in the node's own record. -/
  | ask (a : Ask) (c : Completion)
  /-- The request gets its number and is measured against the limits. -/
  | number (r : Request) (c : Completion)
  /-- The caller looks for a failure. -/
  | look (s : Submission)
  /-- The request goes into the channel to the sending task. -/
  | hand (s : Submission)
  /-- The channel is closed, and the caller looks for the reason. -/
  | excuse (s : Submission)
  /-- The call fails, and its completion is invoked with the error. -/
  | refuse (s : Submission) (e : Error)
  | shutdown
  | release
  | record (h : Holdings)
  /-- The first failure is noted, and what is in flight taken out. -/
  | fail (e : ChannelError)
  | signal
  | clear
  /-- A completion that was in flight is invoked with the failure. -/
  | abandon (e : ChannelError) (f : InFlight)
  /-- A completion that was never in flight is invoked with the failure. -/
  | tell (e : ChannelError) (sequence : Nat) (c : Completion)
  | report (events : List Event)

/-- Whether the act belongs to a call that has begun; its caller has the queue until it is over. -/
def Act.isCall : Act → Bool
  | .number _ _ | .look _ | .hand _ | .excuse _ | .refuse _ _ => true
  | _ => false

def Act.isSignal : Act → Bool
  | .signal => true
  | _ => false

namespace Completion

/-- The calls that a completion makes on the queue. -/
def calls : Completion → List Act
  | .ignore | .notify _ | .callback _ _ => []
  | .asking a c later => .ask a c :: later.calls
  | .closing later => .shutdown :: later.calls
  | .releasing later => .release :: later.calls
  | .recording h later => .record h :: later.calls

/-- What is still to be done once a completion has been invoked. -/
def acts (c : Completion) (sequence : Nat) : List Act :=
  c.calls ++ if c.panics then [.fail (.completionPanicked sequence)] else []

end Completion

namespace UpdateQueue

/-- What an act does, and what its thread has to do next because of it. -/
def perform (q : UpdateQueue) : Act → UpdateQueue × List Act
  | .ask a c => if q.held then (q.forgo a, [.number a.request c]) else (q, [])
  | .number r c =>
    let s : Submission := ⟨q.issued + 1, r, c⟩
    ({ q with issued := s.sequence },
      match r.check q.limits with
      | .error e => [.refuse s (.input e)]
      | .ok () => [.look s])
  | .look s =>
    (q, match q.failure with
      | some e => [.refuse s (.channel e)]
      | none => [.hand s])
  | .hand s =>
    if q.isTaking then
      ({ q with
          waiting := q.waiting ++ [s]
          calls := q.calls ++ [⟨s.sequence, s.request, s.completion, .ok s.sequence⟩] },
        [.report [q.enqueuedLog s]])
    else (q, [.excuse s])
  | .excuse s =>
    (q, [.refuse s (.channel (q.failure.getD (.shutDown "update queue writer stopped")))])
  | .refuse s e =>
    let called : Enqueued := ⟨s.sequence, s.request, s.completion, .error e⟩
    ({ q with calls := q.calls ++ [called] }.invoke s.sequence s.completion (.error e),
      s.completion.acts s.sequence)
  | .shutdown => (q, if q.held then [.fail shutDownByNode] else [])
  | .release => (q.release, [])
  | .record h => (if q.held then { q with holdings := h } else q, [])
  | .fail e =>
    match q.failure with
    | some _ => (q, [])
    | none =>
      ({ q with failure := some e, inFlight := [] },
        [.signal, .clear, .report [q.failureLog e]] ++ q.inFlight.map (.abandon e))
  | .signal => (q, [])
  | .clear => ({ q with holdings := {} }, [])
  | .abandon e f =>
    (q.invoke f.sequence f.completion (.error (.channel e)),
      f.completion.calls ++ if f.completion.panics then [.report [q.panicLog f]] else [])
  | .tell e sequence c => (q.invoke sequence c (.error (.channel e)), c.acts sequence)
  | .report events => (q.report events, [])

end UpdateQueue

/-- Where the sending task stands, besides how far it is with a frame. -/
inductive Sender where
  /-- It looks for the signal to stop, or goes on with a frame. -/
  | ready
  /-- It has seen no signal, and looks for a request. -/
  | polling
  /-- It has a request that is not noted as in flight yet. -/
  | taken (s : Submission)
  /-- Nobody has the queue, and nothing waits. -/
  | deserted
  /-- It takes no more requests, and is about to close the channel. -/
  | leaving
  /-- It has closed the channel, and is about to look for the reason. -/
  | closed
  /-- It tells what is left in the channel that it is not sent. -/
  | refusing (e : ChannelError)

/-- Where the receiving task stands, besides the octets that it has. -/
inductive Receiver where
  /-- It looks for the signal to stop. -/
  | ready
  /-- It has seen no signal, and looks for a response. -/
  | polling
  /-- It has a response, and no request for it yet. -/
  | matching (r : Response)
  /-- It has the request that is answered, and is about to invoke its completion. -/
  | answering (f : InFlight) (outcome : Outcome)
  /-- The responses have ended, and it looks for requests in flight. -/
  | ended
  /-- The responses have ended with nothing in flight. -/
  | bare
  | halting

/-- What a look at the stream gives the receiving task. -/
inductive Reading where
  | more (received : List UInt8)
  | response (r : Response) (rest : List UInt8)
  | ended
  | failed (e : ChannelError)

namespace Reading

def make (received : List UInt8) : Reading :=
  match Response.read.arrival received with
  | .frame r rest => .response r rest
  | .nothing | .begun _ _ => .more received
  | .refused e => .failed e

def collect (stream : Endpoint) (received : List UInt8) (context : String) (missing : Nat)
    (atEnd : Reading) : Option (Reading × Endpoint) :=
  match stream.readAhead missing with
  | .failed f => some (.failed (f.toError context), stream)
  | .waiting => none
  | .ended => some (atEnd, stream)
  | .got stream bytes => some (make (received ++ bytes), stream)

def next (stream : Endpoint) (received : List UInt8) : Option (Reading × Endpoint) :=
  match Response.read.arrival received with
  | .nothing => collect stream received "frame" 1 .ended
  | .begun context missing =>
    collect stream received context missing (.failed (.endOfStream context))
  | .frame _ _ | .refused _ => some (make received, stream)

end Reading

namespace Sending

/-- How far a frame is once it has been begun. -/
def beginning (s : Submission) : Sending :=
  let frame := s.request.frame
  if isShorter frame UpdateQueue.bufferSize then .writing [] frame else .writing frame []

/-- How far a frame is after a call on the stream, with the fault of the stream if there was one. -/
def further (stream : Endpoint) (rest buffered : List UInt8) :
    Option ((Sending × Option StreamFault) × Endpoint) :=
  if rest.isEmpty then
    match stream.write buffered with
    | .failed f => some ((.writing rest buffered, some f), stream)
    | .blocked => none
    | .wrote stream [] =>
      match stream.faults.flush with
      | some f => some ((.writing [] [], some f), stream)
      | none => some ((.idle, none), stream)
    | .wrote stream left => some ((.writing [] left, none), stream)
  else if isShorter rest UpdateQueue.bufferSize then some ((.writing [] rest, none), stream)
  else
    match stream.write rest with
    | .failed f => some ((.writing rest [], some f), stream)
    | .blocked => none
    | .wrote stream left => some ((.writing left buffered, none), stream)

/-- What the buffer still holds when no more frames are written. -/
def buffer : Sending → List UInt8
  | .writing _ buffered | .closing buffered => buffered
  | .idle | .stopped => []

end Sending

structure Threads where
  queue : UpdateQueue
  stream : Endpoint
  /-- Whether the tasks have been told to stop. -/
  signalled : Bool := false
  /-- What each thread has to do before it goes on with its task. -/
  work : Thread → List Act := fun _ => []
  sender : Sender := .ready
  receiver : Receiver := .ready
  /-- Calls so far that were made from outside, each by a thread of its own. -/
  callers : Nat := 0
  /-- What the sending task has written, in order. -/
  written : List UInt8 := []
  /-- What the receiving task has taken off the stream, in order. -/
  taken : List UInt8 := []

namespace Threads

/-- A call from outside. To submit a request is to enqueue it for a waiting caller. -/
inductive Call where
  | ask (a : Ask) (c : Completion)
  | shutdown
  | release

def Call.act : Call → Act
  | .ask a c => .ask a c
  | .shutdown => .shutdown
  | .release => .release

inductive Event where
  | call (c : Call)
  /-- The thread goes on, for one access. -/
  | go (t : Thread)
  /-- The other side leaves the stream like that. -/
  | peer (stream : Endpoint)

def start (node : NodeId) (limits : Limits) (stream : Endpoint) : Threads :=
  { queue := { node, limits }, stream }

def assign (w : Threads) (t : Thread) (acts : List Act) : Threads :=
  { w with work := fun u => if u = t then acts else w.work u }

/-- A task has had a call on the stream. -/
def pass (w : Threads) (stream : Endpoint) (given taken : List UInt8) : Threads :=
  { w with stream, written := w.written ++ given, taken := w.taken ++ taken }

def threads (w : Threads) : List Thread :=
  .sender :: .receiver :: (List.range w.callers).map .caller

/-- Whether somebody is in the middle of a call. -/
def isCalled (w : Threads) : Bool :=
  w.threads.any fun t => (w.work t).any Act.isCall

/-- The sending task looks into the channel. It hears that the channel has ended once nobody has
the queue any more. -/
def poll (w : Threads) : Threads :=
  let q := w.queue
  if w.stream.allowance = 0 then { w with sender := .ready }
  else
    match q.waiting with
    | s :: waiting =>
      { w with queue := { q with waiting }, stream := w.stream.spend, sender := .taken s }
    | [] =>
      if q.held || w.isCalled then { w with sender := .ready }
      else { w with stream := w.stream.spend, sender := .deserted }

/-- The sending task notes a request as in flight and begins its frame, unless there is a
failure. -/
def note (w : Threads) (s : Submission) : Threads :=
  let q := w.queue
  match q.failure with
  | some e => { w with sender := .leaving }.assign .sender [.tell e s.sequence s.completion]
  | none =>
    { w with
      queue :=
        { q with
          inFlight := q.inFlight ++ [s.toInFlight]
          sent := q.sent ++ [s]
          sending := .beginning s }
      sender := .ready }

/-- The sending task goes on with a frame. -/
def write (w : Threads) (rest buffered : List UInt8) : Threads :=
  match Sending.further w.stream rest buffered with
  | none => w
  | some ((sending, fault), stream) =>
    let passed := { w with queue := { w.queue with sending } }.pass stream
      (w.stream.given stream) []
    match fault with
    | none => passed
    | some f => { passed with sender := .leaving }.assign .sender [.fail (f.toError "frame")]

def conclude (w : Threads) (buffered : List UInt8) : Threads :=
  match w.queue.conclude w.stream buffered with
  | none => w
  | some (queue, stream) => { w with queue }.pass stream (w.stream.given stream) []

/-- A step of the sending task. -/
def send (w : Threads) : Threads :=
  let q := w.queue
  match w.sender with
  | .ready =>
    match q.sending with
    | .idle =>
      if w.signalled then { w with stream := w.stream.spend, sender := .leaving }
      else { w with sender := .polling }
    | .writing rest buffered => w.write rest buffered
    | .closing buffered => w.conclude buffered
    | .stopped => w
  | .polling => w.poll
  | .taken s => w.note s
  | .deserted => { w with queue := { q with draining := true }, sender := .leaving }
  | .leaving =>
    { w with queue := { q with sending := .closing q.sending.buffer }, sender := .closed }
  | .closed => { w with sender := .refusing q.unsentError }
  | .refusing e =>
    match q.waiting with
    | [] => { w with sender := .ready }
    | s :: waiting =>
      { w with queue := { q with waiting } }.assign .sender [.tell e s.sequence s.completion]

/-- The receiving task is about to fail the queue, and to stop then. -/
def breakOff (w : Threads) (e : ChannelError) : Threads :=
  { w with receiver := .halting }.assign .receiver [.fail e]

def digest (w : Threads) : Reading → Threads
  | .more received =>
    { w with queue := { w.queue with receiving := .running received }, receiver := .ready }
  | .response r rest =>
    { w with queue := { w.queue with receiving := .running rest }, receiver := .matching r }
  | .ended => { w with receiver := .ended }
  | .failed e => w.breakOff e

def read (w : Threads) (received : List UInt8) : Threads :=
  if w.stream.allowance = 0 then { w with receiver := .ready }
  else
    match Reading.next w.stream received with
    | none => { w with receiver := .ready }
    | some (reading, stream) => (w.pass stream [] (w.stream.taken stream)).digest reading

/-- A step of the receiving task. -/
def receive (w : Threads) : Threads :=
  let q := w.queue
  match q.receiving with
  | .stopped => w
  | .running received =>
    match w.receiver with
    | .ready => { w with receiver := if w.signalled then .halting else .polling }
    | .polling => w.read received
    | .matching r =>
      match q.inFlight with
      | [] => w.breakOff .unexpectedResponse
      | f :: inFlight =>
        { w with
          queue := { q with inFlight }.report [q.answeredLog f]
          receiver := .answering f r.toOutcome }
    | .answering f outcome =>
      { w with queue := q.invoke f.sequence f.completion outcome, receiver := .ready }.assign
        .receiver (f.completion.acts f.sequence)
    | .ended =>
      if q.inFlight.isEmpty then { w with receiver := .bare }
      else w.breakOff (.endOfStream "response stream")
    | .bare =>
      w.breakOff <|
        if q.draining then .shutDown "update queue closed" else .endOfStream "response stream"
    | .halting => { w with queue := { q with receiving := .stopped }, receiver := .ready }

/-- A thread does what it has to do next; what follows from that comes before the rest. -/
def act (w : Threads) (t : Thread) (a : Act) (rest : List Act) : Threads :=
  let done := w.queue.perform a
  { w with queue := done.1, signalled := w.signalled || a.isSignal }.assign t (done.2 ++ rest)

def go (w : Threads) (t : Thread) : Threads :=
  match w.work t with
  | a :: rest => w.act t a rest
  | [] =>
    match t with
    | .caller _ => w
    | .sender => w.send
    | .receiver => w.receive

def step (w : Threads) : Event → Threads
  | .call c => { w with callers := w.callers + 1 }.assign (.caller w.callers) [c.act]
  | .go t => w.go t
  | .peer stream => { w with stream }

def after (w : Threads) (run : List Event) : Threads :=
  run.foldl step w

end Threads

end CacheCoherence
