import CacheCoherence.Frame.Response
import CacheCoherence.Logging
import CacheCoherence.Queue.Completion
import CacheCoherence.Queue.Holdings

/-!
A node's update queue and what its callers do with it. A request waits until the
sending task takes it, is in flight until its answer comes, and is then
completed with the answer. The first failure closes the queue for good: what is
in flight is completed with it at once, and so is everything that still waits or
comes later.
-/

namespace CacheCoherence

open Logging

structure Submission where
  sequence : Nat
  request : Request
  completion : Completion
  deriving DecidableEq

/-- A request that has been admitted for sending and is not answered yet. -/
structure InFlight where
  sequence : Nat
  kind : RequestKind
  completion : Completion
  deriving DecidableEq

def Submission.toInFlight (s : Submission) : InFlight :=
  ⟨s.sequence, s.request.kind, s.completion⟩

/-- A request as it was handed in, with what the caller was told. -/
structure Enqueued where
  sequence : Nat
  request : Request
  completion : Completion
  answer : Except Error Nat

structure Delivery where
  sequence : Nat
  completion : Completion
  outcome : Outcome

inductive Sending where
  | idle
  /-- In the middle of a frame: octets that are next, and octets held back in the buffer. -/
  | writing (rest buffered : List UInt8)
  /-- Taking no more requests; ending the stream once the buffer is empty. -/
  | closing (buffered : List UInt8)
  | stopped
  deriving DecidableEq

/-- Where the receiving task stands: octets not yet made into responses, while it runs. -/
inductive Receiving where
  | running (received : List UInt8)
  | stopped
  deriving DecidableEq

structure UpdateQueue where
  node : NodeId
  limits : Limits
  /-- Sequence numbers given so far. The program has words of 64 bits for them; that these begin
  again at zero after 2 ^ 64 requests is left out. -/
  issued : Nat := 0
  held : Bool := true
  waiting : List Submission := []
  inFlight : List InFlight := []
  failure : Option ChannelError := none
  /-- Whether all that was queued has been sent and no more will come. -/
  draining : Bool := false
  holdings : Holdings := {}
  /-- Every request handed in, in order. -/
  calls : List Enqueued := []
  /-- Every request whose frame has been begun, in order. -/
  sent : List Submission := []
  /-- Every completion invoked, in order. -/
  completed : List Delivery := []
  log : List Event := []
  sending : Sending := .idle
  receiving : Receiving := .running []

namespace UpdateQueue

def report (q : UpdateQueue) (events : List Event) : UpdateQueue :=
  { q with log := q.log ++ events }

def nodeField (q : UpdateQueue) : String × Field :=
  number "node_id" q.node.value

def isTaking (q : UpdateQueue) : Bool :=
  match q.sending with
  | .idle | .writing _ _ => true
  | .closing _ | .stopped => false

def invoke (q : UpdateQueue) (sequence : Nat) (c : Completion) (outcome : Outcome) : UpdateQueue :=
  { q with completed := q.completed ++ [⟨sequence, c, outcome⟩] }

def failureLog (q : UpdateQueue) (e : ChannelError) : Event :=
  let fields := [q.nodeField, number "pending" q.inFlight.length]
  match e with
  | .shutDown reason => ⟨.info, "Update queue shut down", fields ++ [text "reason" reason]⟩
  | _ => ⟨.error, "Update queue failed", fields ++ [text "error" e.message]⟩

def panicLog (q : UpdateQueue) (f : InFlight) : Event :=
  ⟨.warn, "Completion panicked while failing queue",
    [q.nodeField, number "sequence" f.sequence, text "kind" f.kind.text]⟩

def refusal? (q : UpdateQueue) (r : Request) : Option Error :=
  match r.check q.limits with
  | .error e => some (.input e)
  | .ok () =>
    match q.failure with
    | some e => some (.channel e)
    | none => if q.isTaking then none else some (.channel (.shutDown "update queue writer stopped"))

def issue (q : UpdateQueue) (r : Request) (c : Completion) (answer : Except Error Nat) :
    UpdateQueue :=
  { q with issued := q.issued + 1, calls := q.calls ++ [⟨q.issued + 1, r, c, answer⟩] }

def enqueuedLog (q : UpdateQueue) (s : Submission) : Event :=
  ⟨.debug, "Enqueued request",
    [q.nodeField, number "sequence" s.sequence, text "kind" s.request.kind.text]⟩

def accept (q : UpdateQueue) (r : Request) (c : Completion) : UpdateQueue :=
  let s : Submission := ⟨q.issued + 1, r, c⟩
  { q.issue r c (.ok s.sequence) with waiting := q.waiting ++ [s] }.report [q.enqueuedLog s]

/-- Refuses a request: its completion gets the error that the caller gets. -/
def refuse (q : UpdateQueue) (r : Request) (c : Completion) (e : Error) : UpdateQueue :=
  (q.issue r c (.error e)).invoke (q.issued + 1) c (.error e)

/-- A key that is given up is given up in the node's own record at once. -/
def forgo (q : UpdateQueue) : Ask → UpdateQueue
  | .enqueue _ => q
  | .evict k => { q with holdings := q.holdings.evicted k }
  | .downgrade k => { q with holdings := q.holdings.downgraded k }

/-- The caller lets go of the queue: what waits is still sent. -/
def release (q : UpdateQueue) : UpdateQueue :=
  { q with held := false }

def shutDownByNode : ChannelError := .shutDown "shut down by node"

/-- What a completion does once it has been invoked; `fail` is how the queue fails meanwhile. A
callback can call the queue as long as someone has it. -/
def react (fail : UpdateQueue → ChannelError → UpdateQueue) (sequence : Nat) :
    Completion → UpdateQueue → UpdateQueue
  | .ignore, q | .notify _, q => q
  | .callback _ panics, q => if panics then fail q (.completionPanicked sequence) else q
  | .asking a c later, q =>
    if q.held then
      let q := q.forgo a
      react fail sequence later <|
        match q.refusal? a.request with
        | none => q.accept a.request c
        | some e => react fail (q.issued + 1) c (q.refuse a.request c e)
    else react fail sequence later q
  | .closing later, q => react fail sequence later (if q.held then fail q shutDownByNode else q)
  | .releasing later, q => react fail sequence later q.release
  | .recording h later, q =>
    react fail sequence later (if q.held then { q with holdings := h } else q)

/-- Completes with a failure what was in flight. The queue has failed and does not fail again; a
callback that panics is only noted. -/
def abandon (e : ChannelError) (q : UpdateQueue) (f : InFlight) : UpdateQueue :=
  let q := react (fun q _ => q) f.sequence f.completion
    (q.invoke f.sequence f.completion (.error (.channel e)))
  if f.completion.panics then q.report [q.panicLog f] else q

/-- The queue at the moment of its failure, before what was in flight is completed. -/
def close (q : UpdateQueue) (e : ChannelError) : UpdateQueue :=
  { q.report [q.failureLog e] with
    failure := some e
    inFlight := []
    holdings := {} }

def fail (q : UpdateQueue) (e : ChannelError) : UpdateQueue :=
  match q.failure with
  | some _ => q
  | none => q.inFlight.foldl (abandon e) (q.close e)

def deliver (q : UpdateQueue) (sequence : Nat) (c : Completion) (outcome : Outcome) :
    UpdateQueue :=
  react fail sequence c (q.invoke sequence c outcome)

/-- Queues a request behind those before it, and gives its sequence number. A request that is
refused is completed before the caller hears of it. -/
def enqueue (q : UpdateQueue) (r : Request) (c : Completion) : UpdateQueue × Except Error Nat :=
  match q.refusal? r with
  | none => (q.accept r c, .ok (q.issued + 1))
  | some e => (react fail (q.issued + 1) c (q.refuse r c e), .error e)

/-- Queues a request for a waiting caller; a refusal reaches it through the completion. -/
def submit (q : UpdateQueue) (r : Request) (caller : Nat) : UpdateQueue :=
  match q.enqueue r (.notify caller) with
  | (q, .ok _) => q
  | (q, .error e) =>
    q.report [⟨.debug, "Request refused", [q.nodeField, text "error" e.message]⟩]

def ask (q : UpdateQueue) (a : Ask) (c : Completion) : UpdateQueue × Except Error Nat :=
  (q.forgo a).enqueue a.request c

def evict (q : UpdateQueue) (k : Key) (c : Completion) : UpdateQueue × Except Error Nat :=
  q.ask (.evict k) c

def downgrade (q : UpdateQueue) (k : Key) (c : Completion) : UpdateQueue × Except Error Nat :=
  q.ask (.downgrade k) c

def shutdown (q : UpdateQueue) : UpdateQueue :=
  q.fail shutDownByNode

def debugText (q : UpdateQueue) : String :=
  let failure := match q.failure with
    | none => "None"
    | some e => "Some(" ++ e.debugText ++ ")"
  "UpdateQueue \x7b node_id: NodeId(" ++ q.node.value.repr ++ "), failure: " ++ failure ++ ", .. \x7d"

def isDone (q : UpdateQueue) : Bool :=
  q.sending = .stopped && q.receiving = .stopped

end UpdateQueue

end CacheCoherence
