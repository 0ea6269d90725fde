import CacheCoherence.Journal
import CacheCoherence.Queue.Handshake
import CacheCoherence.Server.Connection

/-!
A server, its connections, the update queues of nodes, and callers that wait for
outcomes, joined by streams and run by one scheduler. The tasks that can go on
stand in a line. The first of them takes its turn: it runs until it has to wait;
whatever it makes possible for another task puts that one at the end of the
line, unless it stands there already. A task that has used up its allowance of
calls stands aside until the round is over, which is after so many turns or when
nobody stands in line. An end of a stream that no task owns belongs to whoever
uses the cluster.
-/

namespace CacheCoherence

open Logging

inductive Side where
  | server
  | node
  deriving DecidableEq

structure Link where
  up : Pipe
  down : Pipe
  serverFaults : Faults := {}
  nodeFaults : Faults := {}
  deriving DecidableEq

namespace Link

def capacity : Nat := 1048576

def new : Link := ⟨⟨capacity, .ofList [], false⟩, ⟨capacity, .ofList [], false⟩, {}, {}⟩

def endpoint (l : Link) (allowance : Nat) : Side → Endpoint
  | .server => ⟨l.up, l.down, l.serverFaults, allowance⟩
  | .node => ⟨l.down, l.up, l.nodeFaults, allowance⟩

def update (l : Link) (side : Side) (e : Endpoint) : Link :=
  match side with
  | .server => { l with up := e.incoming, down := e.outgoing, serverFaults := e.faults }
  | .node => { l with up := e.outgoing, down := e.incoming, nodeFaults := e.faults }

end Link

/-- A connection that the server handles, or how it ended. -/
structure ConnectionTask where
  link : Nat
  stage : Connection ⊕ ConnectionResult

structure NodeQueue where
  link : Nat
  queue : UpdateQueue

/-- A task by its kind and its place among those of the kind, or the caller's number. -/
inductive Task where
  | connection (i : Nat)
  | sending (i : Nat)
  | receiving (i : Nat)
  | caller (n : Nat)
  deriving DecidableEq

/-- Calls that a task may make in one turn. -/
def Task.allowance : Nat := 128

structure Cluster where
  server : Server
  links : List Link := []
  connections : List ConnectionTask := []
  queues : List NodeQueue := []
  /-- The callers that wait for an outcome, by number, and the label of each. -/
  callers : List (Nat × String) := []
  arrived : List (Nat × Outcome) := []
  ready : List Task := []
  /-- Tasks that stand aside, the latest first. -/
  aside : List Task := []
  /-- What is left of its allowance to the first task in line. -/
  allowance : Nat := Task.allowance
  /-- Turns taken in this round. -/
  turns : Nat := 0
  log : Journal Event := {}
  callbacks : Journal (String × Outcome) := {}
  resolved : Journal (String × Outcome) := {}

namespace Cluster

def wake (c : Cluster) (t : Task) : Cluster :=
  if c.ready.contains t || c.aside.contains t then c else { c with ready := c.ready ++ [t] }

def wakeAll (c : Cluster) (ts : List Task) : Cluster :=
  ts.foldl wake c

def report (c : Cluster) (events : List Event) : Cluster :=
  { c with log := c.log.append events }

/-- The running connections on a stream that pass the test. -/
def connectionsOn (c : Cluster) (link : Nat) (p : Connection → Bool) : List Task :=
  (c.connections.zipIdx.filter fun t =>
    t.1.link = link && match t.1.stage with
      | .inl stage => p stage
      | .inr _ => false).map fun t => .connection t.2

def queuesOn (c : Cluster) (link : Nat) (p : UpdateQueue → Bool) : List Nat :=
  (c.queues.zipIdx.filter fun t => t.1.link = link && p t.1.queue).map Prod.snd

def isWriting : Connection → Bool
  | .refusing _ _ | .welcoming _ _ => true
  | .serving channel => channel.answer.isSome
  | .greeting _ | .starting _ => false

def isSending (q : UpdateQueue) : Bool :=
  match q.sending with
  | .writing _ _ | .closing _ => true
  | .idle | .stopped => false

def isReceiving (q : UpdateQueue) : Bool :=
  match q.receiving with
  | .running _ => true
  | .stopped => false

/-- Records a change that was made at one end of a stream, and wakes who waits for it at the other:
readers if there is more to read, writers if there is more room. -/
def updateLink (c : Cluster) (i : Nat) (side : Side) (e : Endpoint) : Cluster :=
  match c.links[i]? with
  | none => c
  | some old =>
    let link := old.update side e
    let c := { c with links := c.links.set i link }
    match side with
    | .server =>
      let readers := if link.down.isUnchanged old.down then [] else c.queuesOn i isReceiving
      let writers := if link.up.isUnchanged old.up then [] else c.queuesOn i isSending
      c.wakeAll (readers.map .receiving ++ writers.map .sending)
    | .node =>
      let readers := if link.up.isUnchanged old.up then [] else c.connectionsOn i (!isWriting ·)
      let writers := if link.down.isUnchanged old.down then [] else c.connectionsOn i isWriting
      c.wakeAll (readers ++ writers)

/-- Brings an outcome to where it belongs. A caller that waits for it can go on. -/
def deliver (c : Cluster) (completion : Completion) (outcome : Outcome) : Cluster :=
  match completion with
  | .ignore => c
  | .asking _ _ later | .closing later | .releasing later | .recording _ later =>
    c.deliver later outcome
  | .callback name _ => { c with callbacks := c.callbacks.append [(name, outcome)] }
  | .notify n =>
    let c := { c with arrived := (n, outcome) :: c.arrived }
    if (c.callers.lookup n).isSome then c.wake (.caller n) else c

/-- Records a change of a queue, with what it has logged and delivered since. When it has just
failed, its tasks hear of it, but for a sending task that is in the middle of writing; an idle one
hears of a new request, and of the queue being let go. -/
def updateQueue (c : Cluster) (i : Nat) (q : UpdateQueue) : Cluster :=
  match c.queues[i]? with
  | none => c
  | some old =>
    let c := { c with
      queues := c.queues.set i { old with
        queue := { q with log := [], calls := [], sent := [], completed := [] } }
      log := c.log.append q.log }
    let running : List Task := if isReceiving q then [.receiving i] else []
    let c :=
      if old.queue.failure.isNone && q.failure.isSome then
        c.wakeAll (if q.sending = .idle then .sending i :: running else running)
      else c
    let c := q.completed.foldl (fun c d => c.deliver d.completion d.outcome) c
    let isNews := old.queue.waiting.length < q.waiting.length || q.held ≠ old.queue.held
    if q.sending = .idle && isNews then c.wake (.sending i) else c

def stepConnection (c : Cluster) (i : Nat) : Option Cluster := do
  let task ← c.connections[i]?
  let link ← c.links[task.link]?
  match task.stage with
  | .inr _ => none
  | .inl stage =>
    let stream := link.endpoint c.allowance .server
    let (host, next) ← stage.step { server := c.server, stream }
    let c := { c with
      server := host.server
      allowance := host.stream.allowance
      connections := c.connections.set i { task with stage := next } }
    return (c.report host.log).updateLink task.link .server host.stream

/-- A step of one of the tasks of a queue. The stream is let go when both are done. -/
def stepQueue (c : Cluster) (i : Nat)
    (step : UpdateQueue → Endpoint → Option (UpdateQueue × Endpoint)) : Option Cluster := do
  let task ← c.queues[i]?
  let link ← c.links[task.link]?
  let (queue, after) ← step task.queue (link.endpoint c.allowance .node)
  let stream := if queue.isDone then after.drop else after
  let c := { c with allowance := after.allowance }
  return (c.updateQueue i queue).updateLink task.link .node stream

def stepCaller (c : Cluster) (n : Nat) : Option Cluster := do
  let label ← c.callers.lookup n
  let outcome ← c.arrived.lookup n
  return { c with
    callers := c.callers.filter (·.1 ≠ n)
    arrived := c.arrived.filter (·.1 ≠ n)
    resolved := c.resolved.append [(label, outcome)] }

def stepTask (c : Cluster) : Task → Option Cluster
  | .connection i => c.stepConnection i
  | .sending i => c.stepQueue i UpdateQueue.send
  | .receiving i => c.stepQueue i UpdateQueue.receive
  | .caller n => c.stepCaller n

def isDone (c : Cluster) : Task → Bool
  | .connection i => (c.connections[i]?.map fun t => t.stage.isRight).getD true
  | .sending i => (c.queues[i]?.map fun t => decide (t.queue.sending = .stopped)).getD true
  | .receiving i => !(c.queues[i]?.map fun t => isReceiving t.queue).getD false
  | .caller n => (c.callers.lookup n).isNone

/-- Ends the turn of the first task in line, which cannot go on. One that has no allowance left
stands aside. -/
def endTurn (c : Cluster) (t : Task) (rest : List Task) : Cluster :=
  { c with
    ready := rest
    aside := if c.allowance = 0 && !c.isDone t then t :: c.aside else c.aside
    allowance := Task.allowance
    turns := c.turns + 1 }

/-- A step of the first task in line; a task that cannot go on leaves the line. -/
def step (c : Cluster) : Cluster :=
  match c.ready with
  | [] => c
  | t :: rest => (c.stepTask t).getD (c.endTurn t rest)

/-- The turns of a round, unless nobody stands in line before. -/
def round : Nat := 61

/-- Those who stood aside go to the end of the line, the latest first. -/
def nextRound (c : Cluster) : Cluster :=
  { c with ready := c.ready ++ c.aside, aside := [], turns := 0 }

def isIdle (c : Cluster) : Bool :=
  c.ready.isEmpty && c.aside.isEmpty

def finishRound : Nat → Cluster → Cluster
  | 0, c => c
  | n + 1, c =>
    if c.ready.isEmpty || c.turns = round then c.nextRound else finishRound n c.step

/-- Runs rounds, each in at most `limit` steps, until there is enough or no task can go on. -/
def run (limit : Nat) (enough : Cluster → Bool) : Nat → Cluster → Cluster
  | 0, c => c
  | n + 1, c => if enough c || c.isIdle then c else run limit enough n (finishRound limit c)

def ConnectionTask.backlog (t : ConnectionTask) : Nat :=
  match t.stage with
  | .inl (.serving channel) => channel.received.length
  | _ => 0

/-- Octets that a queue has still to send or to make into responses. -/
def queueBacklog (t : NodeQueue) : Nat :=
  let received := match t.queue.receiving with
    | .running bytes => bytes.length
    | .stopped => 0
  let writing := match t.queue.sending with
    | .writing rest buffered => rest.length + buffered.length
    | .closing buffered => buffered.length
    | .idle | .stopped => 0
  t.queue.waiting.foldl (fun n s => n + s.request.frame.length) (received + writing)

/-- A bound on the steps that all tasks together can take: a few for each octet on the way and for
each task. -/
def work (c : Cluster) : Nat :=
  let arrived := c.links.foldl (fun n l => n + l.up.buffer.size + l.down.buffer.size) 0
  let received := c.connections.foldl (fun n t => n + ConnectionTask.backlog t) arrived
  let bytes := c.queues.foldl (fun n t => n + queueBacklog t) received
  64 * (bytes + c.connections.length + c.queues.length + c.callers.length + c.ready.length + 16)

def runRound (c : Cluster) : Cluster :=
  finishRound c.work c

/-- Lets the tasks run until there is enough at the end of a round, or none can go on. -/
def settleUntil (c : Cluster) (enough : Cluster → Bool) : Cluster :=
  run c.work enough c.work c

def settle (c : Cluster) : Cluster :=
  c.settleUntil fun _ => false

end Cluster

end CacheCoherence
