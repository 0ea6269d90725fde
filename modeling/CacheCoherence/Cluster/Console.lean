import CacheCoherence.Cluster.Actions

/-!
A console on a cluster. Its user has ends of streams, connections and update
queues at hand by name, waits for outcomes by name, and hears after each action
what has become known. A name that is given again lets go of what it stood for.
-/

namespace CacheCoherence

/-- Values by name, the latest first. -/
abbrev Named (α : Type) := List (String × α)

namespace Named

variable {α : Type}

def drop (l : Named α) (name : String) : Named α :=
  l.filter fun e => e.1 ≠ name

def put (l : Named α) (name : String) (x : α) : Named α :=
  (name, x) :: l.drop name

end Named

structure Console where
  cluster : Cluster
  /-- Sessions in the order in which the user came to know them. -/
  sessions : List SessionId := []
  ends : Named (Nat × Side) := []
  /-- The tasks' ends of streams, whose faults the user decides. -/
  faulty : Named (Nat × Side) := []
  connections : Named Nat := []
  queues : Named Nat := []
  issued : Nat := 0
  /-- Calls that the user may make on streams before the tasks get to run. -/
  allowance : Nat := Task.allowance

/-- What has become known since the last report. -/
structure Report where
  callbacks : List (String × Outcome)
  /-- Outcomes that had been waited for, in the order of their labels; those of one label in the
  order in which they were taken. -/
  resolved : List (String × Outcome)
  log : List Logging.Event

namespace Console

def server (w : Console) : Server := w.cluster.server

def withServer (w : Console) (s : Server) : Console :=
  { w with cluster := { w.cluster with server := s } }

def settle (w : Console) : Console :=
  { w with cluster := w.cluster.settle, allowance := Task.allowance }

def pause (w : Console) : Console :=
  { w with cluster := w.cluster.runRound, allowance := Task.allowance }

def waitFor (w : Console) (enough : Cluster → Bool) : Console :=
  if enough w.cluster then w
  else { w with cluster := w.cluster.settleUntil enough, allowance := Task.allowance }

/-- Makes so many calls, with a pause where the allowance does not last for them. -/
def spend (w : Console) (calls : Nat) : Console :=
  if calls ≤ w.allowance then { w with allowance := w.allowance - calls }
  else { w.pause with allowance := Task.allowance - (calls - w.allowance) }

def number? (w : Console) (id : SessionId) : Option Nat :=
  w.sessions.findIdx? (· = id)

/-- Gives a session the next number, which is one more for a session that has been met before. -/
def meet (w : Console) (id : SessionId) : Console :=
  { w with sessions := w.sessions ++ [id] }

/-! ### Ends of streams -/

def dropEnd (w : Console) (name : String) : Console :=
  match w.ends.lookup name with
  | none => w
  | some (link, side) =>
    { w with cluster := w.cluster.dropEnd link side, ends := w.ends.drop name }

def holdEnd (w : Console) (name : String) (link : Nat) (side : Side) : Console :=
  let w := w.dropEnd name
  { w with ends := w.ends.put name (link, side) }

/-- Starts a connection on a new stream, whose other end the user holds under the same name. -/
def openStream (w : Console) (name : String) (stage : Connection) : Console :=
  let (c, link) := w.cluster.newLink
  let (c, task) := c.startConnection link stage
  let w := { w with cluster := c }.holdEnd name link .node
  { w with
    faulty := w.faulty.put name (link, .server)
    connections := w.connections.put name task }

/-- Writes all octets, with pauses where there is no room, for as long as a pause helps. -/
def sendOn (link : Nat) (side : Side) : Nat → Console → List UInt8 →
    Except ChannelError Unit × Console
  | 0, w, _ => (.ok (), w)
  | fuel + 1, w, bytes =>
    if bytes.isEmpty then (.ok (), w)
    else if w.allowance = 0 then sendOn link side fuel w.pause bytes
    else
      let spent := { w with allowance := w.allowance - 1 }
      match w.cluster.write link side bytes with
      | .error e => (.error e, spent)
      | .ok (cluster, rest) =>
        let w := { spent with cluster }
        if rest.isEmpty || cluster.isIdle then (.ok (), w) else sendOn link side fuel w.pause rest

def send (w : Console) (name : String) (bytes : List UInt8) :
    Option (Except ChannelError Unit × Console) :=
  (w.ends.lookup name).map fun e =>
    sendOn e.1 e.2 (bytes.length + w.cluster.work) w bytes

def finish (w : Console) (name : String) : Option Console :=
  (w.ends.lookup name).map fun e => { w with cluster := w.cluster.finish e.1 e.2 }

def read (w : Console) (name : String) : Option ((List UInt8 × Bool) × Console) :=
  (w.ends.lookup name).map fun e =>
    let (cluster, r) := w.cluster.readAll e.1 e.2
    (r, { w with cluster })

/-- Changes the faults of a task's end, also when the user has let the other end go. -/
def setFaults (w : Console) (name : String) (f : Faults → Faults) : Option Console :=
  (w.faulty.lookup name).map fun e => { w with cluster := w.cluster.setFaults e.1 e.2 f }

/-- How a connection ended, if it has; its name is forgotten then. -/
def result (w : Console) (name : String) : Option (Option ConnectionResult × Console) :=
  (w.connections.lookup name).map fun i =>
    match w.cluster.result? i with
    | none => (none, w)
    | some r => (some r, { w with connections := w.connections.drop name })

/-! ### Update queues -/

def queue? (w : Console) (name : String) : Option (Nat × UpdateQueue) := do
  let i ← w.queues.lookup name
  return (i, ← w.cluster.queue? i)

def putQueue (w : Console) (i : Nat) (q : UpdateQueue) : Console :=
  { w with cluster := w.cluster.updateQueue i q }

def dropQueue (w : Console) (name : String) : Console :=
  match w.queue? name with
  | none => w
  | some (i, q) =>
    let w := w.putQueue i q.release
    { w with queues := w.queues.drop name }

def holdQueue (w : Console) (name : String) (i : Nat) : Console :=
  let w := w.dropQueue name
  { w with queues := w.queues.put name i }

/-- A queue on a new stream, whose server's end the user holds. -/
def newQueue (w : Console) (name stream : String) (n : NodeId) (limits : Limits) : Console :=
  let (c, link) := w.cluster.newLink
  let (c, i) := c.startQueue link n limits
  let w := ({ w with cluster := c }.holdQueue name i).holdEnd stream link .server
  { w with faulty := w.faulty.put stream (link, .node) }

/-- Introduces a node on a stream, and lets the tasks run until the answer is there. The queue if
the node is accepted, the error if it is not, and nothing if there is no answer; in both latter
cases the node's end is let go. The introduction and an acceptance are one call each, a refusal
comes in three: for its tag, for the length of its reason, and for the reason. -/
def attempt (w : Console) (link : Nat) (n : NodeId) (limits : Limits) :
    Option (Except Error Nat) × Console :=
  let gone (w : Console) : Console := { w with cluster := w.cluster.dropEnd link .node }
  let w := w.spend 1
  match w.cluster.greet link n with
  | .error e => (some (.error e), gone w)
  | .ok cluster =>
    let w := { w with cluster }.waitFor fun c => (c.connect link n limits).isSome
    let calls := match w.cluster.connect link n limits with
      | none => 0
      | some (.ok _) => 1
      | some (.error _) => 3
    let w := w.spend calls
    match w.cluster.connect link n limits with
    | none => (none, gone w)
    | some (.error e) => (some (.error e), gone w)
    | some (.ok (cluster, i)) => (some (.ok i), { w with cluster })

def connect (w : Console) (name : String) (n : NodeId) (limits : Limits) :
    Option (Except Error Unit) × Console :=
  let (c, link) := w.cluster.newLink
  let (c, task) := c.startConnection link (.greeting [])
  let (r, w) := { w with cluster := c }.attempt link n limits
  let w := { w with connections := w.connections.put name task }
  match r with
  | some (.ok i) => (some (.ok ()), w.holdQueue name i)
  | some (.error e) => (some (.error e), w)
  | none => (none, w)

/-- Connects a node to an end that the user holds and on which the reply is there already. -/
def connectTo (w : Console) (name stream : String) (n : NodeId) (limits : Limits)
    (reply : List UInt8) (finished : Bool) : Option (Except Error Unit) × Console :=
  let (c, link) := w.cluster.newLink
  let c := match c.write link .server reply with
    | .ok (c, _) => c
    | .error _ => c
  let c := if finished then c.finish link .server else c
  match { w with cluster := c }.attempt link n limits with
  | (some (.ok i), w) => (some (.ok ()), (w.holdEnd stream link .server).holdQueue name i)
  | (some (.error e), w) => (some (.error e), w.holdEnd stream link .server)
  | (none, w) => (none, { w with cluster := w.cluster.dropEnd link .server })

def await (w : Console) (label : String) : Completion × Console :=
  (.notify w.issued,
    { w with cluster := w.cluster.await w.issued label, issued := w.issued + 1 })

/-- Waits for the outcome of a completion that goes away at once. -/
def lose (w : Console) (label : String) : Console :=
  let (completion, w) := w.await label
  { w with cluster := w.cluster.deliver completion droppedOutcome }

def submit (w : Console) (i : Nat) (q : UpdateQueue) (r : Request) (label : String) : Console :=
  (w.putQueue i (q.submit r w.issued)).await label |>.2

/-- Commits a batch, and lets the tasks run until the outcome is there; the outcome, if there is one
then. -/
def commit (w : Console) (i : Nat) (q : UpdateQueue) (b : Batch) : Option Outcome × Console :=
  let n := w.issued
  let w := { w with issued := n + 1 }.putQueue i (q.submit (.commit b) n)
  let w := w.waitFor fun c => (c.arrived.lookup n).isSome
  match w.cluster.arrived.lookup n with
  | some outcome => (some outcome, w.spend 1)
  | none => (none, w)

def report (w : Console) : Report × Console :=
  ({ callbacks := w.cluster.callbacks.toList
     resolved := w.cluster.resolved.toList.mergeSort fun a b => (compare a.1 b.1).isLE
     log := w.cluster.log.toList },
    { w with cluster := { w.cluster with callbacks := {}, resolved := {}, log := {} } })

end Console

end CacheCoherence
