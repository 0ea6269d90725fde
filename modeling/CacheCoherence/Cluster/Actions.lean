import CacheCoherence.Cluster.Basic

/-!
What is done to a cluster from outside, between the runs of its tasks: calls on
the server, the ends of streams that no task owns, and the life of update
queues.
-/

namespace CacheCoherence.Cluster

open Logging

/-! ### The server -/

def wakeSession (c : Cluster) (id : SessionId) : Cluster :=
  let serves (t : ConnectionTask) : Bool :=
    match t.stage with
    | .inl (.serving channel) => channel.session = id && channel.answer.isNone
    | _ => false
  c.wakeAll ((c.connections.zipIdx.filter fun t => serves t.1).map fun t => .connection t.2)

/-- The server after sessions have ended. -/
def ended (c : Cluster) (r : Server × List Released) (log : List Event) : Cluster :=
  (r.2.map Released.session).foldl wakeSession ({ c with server := r.1 }.report log)

def register (c : Cluster) (n : NodeId) : Except InputError (Cluster × SessionId) :=
  match c.server.register n with
  | .ok (server, id) => .ok ({ c with server }.report [Server.registrationLog n], id)
  | .error e => .error e

def unregister (c : Cluster) (n : NodeId) : Except InputError Cluster :=
  match c.server.unregister n with
  | .ok r => .ok (c.ended r (r.2.map Released.log))
  | .error e => .error e

def closeSession (c : Cluster) (id : SessionId) : Cluster :=
  let r := c.server.closeSession id
  (c.ended r (r.2.map Released.log)).wakeSession id

def shutDownSession (c : Cluster) (id : SessionId) : Cluster :=
  { c with server := { c.server with registry := c.server.registry.shutDown id } }.wakeSession id

def shutdown (c : Cluster) : Cluster :=
  let r := c.server.shutdown
  c.ended r (Server.shutdownLog r.2)

def process (c : Cluster) (id : SessionId) (r : Request) : Option (Cluster × Processed) :=
  (c.server.process id r).map fun p => ({ c with server := p.1 }.report p.2.log, p.2)

def call (c : Cluster) (n : NodeId) (r : Request) : Outcome × Cluster :=
  match c.server.call n r with
  | .ok (server, p) => (p.outcome, { c with server }.report p.log)
  | .error e => (.error (.input e), c)

/-- A call that brings a batch as arrays; arrays that are no batch never reach the session. -/
def callArrays (c : Cluster) (n : NodeId) (a : BatchArrays) : Outcome × Cluster :=
  match Batch.ofArrays a with
  | .ok b => c.call n (.commit b)
  | .error e => (.error (.input e), c)

/-! ### Ends of streams -/

def newLink (c : Cluster) : Cluster × Nat :=
  ({ c with links := c.links ++ [Link.new] }, c.links.length)

def endpoint? (c : Cluster) (i : Nat) (side : Side) : Option Endpoint :=
  c.links[i]?.map fun l => l.endpoint Task.allowance side

def write (c : Cluster) (i : Nat) (side : Side) (bytes : List UInt8) :
    Except ChannelError (Cluster × List UInt8) :=
  match c.endpoint? i side with
  | none => .ok (c, bytes)
  | some e =>
    match e.write bytes with
    | .failed f => .error (f.toError "frame")
    | .blocked => .ok (c, bytes)
    | .wrote e rest => .ok (c.updateLink i side e, rest)

def finish (c : Cluster) (i : Nat) (side : Side) : Cluster :=
  match c.endpoint? i side with
  | none => c
  | some e => c.updateLink i side e.finish.1

def dropEnd (c : Cluster) (i : Nat) (side : Side) : Cluster :=
  match c.endpoint? i side with
  | none => c
  | some e => c.updateLink i side e.drop

/-- Takes everything that has arrived at an end; also whether no more will come. -/
def readAll (c : Cluster) (i : Nat) (side : Side) : Cluster × List UInt8 × Bool :=
  match c.endpoint? i side with
  | none => (c, [], true)
  | some e =>
    let emptied := { e with incoming := { e.incoming with buffer := Buffer.ofList [] } }
    (c.updateLink i side emptied, e.incoming.buffer.toList, e.incoming.closed)

def setFaults (c : Cluster) (i : Nat) (side : Side) (f : Faults → Faults) : Cluster :=
  let set (l : Link) : Link :=
    match side with
    | .server => { l with serverFaults := f l.serverFaults }
    | .node => { l with nodeFaults := f l.nodeFaults }
  { c with links := c.links.modify i set }

/-! ### Connections and queues -/

def startConnection (c : Cluster) (link : Nat) (stage : Connection) : Cluster × Nat :=
  let i := c.connections.length
  let task : ConnectionTask := ⟨link, .inl stage⟩
  ({ c with connections := c.connections ++ [task] }.wake (.connection i), i)

def result? (c : Cluster) (i : Nat) : Option ConnectionResult :=
  match c.connections[i]? with
  | some ⟨_, .inr r⟩ => some r
  | _ => none

def startQueue (c : Cluster) (link : Nat) (n : NodeId) (limits : Limits) : Cluster × Nat :=
  let i := c.queues.length
  let task : NodeQueue := ⟨link, { node := n, limits }⟩
  ({ c with queues := c.queues ++ [task] }.wakeAll [.sending i, .receiving i], i)

def queue? (c : Cluster) (i : Nat) : Option UpdateQueue :=
  c.queues[i]?.map NodeQueue.queue

def greet (c : Cluster) (link : Nat) (n : NodeId) : Except Error Cluster :=
  match c.endpoint? link .node with
  | none => .ok c
  | some e =>
    match Handshake.greet n e with
    | .ok e => .ok (c.updateLink link .node e)
    | .error e => .error e

def await (c : Cluster) (n : Nat) (label : String) : Cluster :=
  { c with callers := (n, label) :: c.callers }.wake (.caller n)

/-- Makes a queue of a stream on which a node has introduced itself, if the answer is there and
accepts it. -/
def connect (c : Cluster) (link : Nat) (n : NodeId) (limits : Limits) :
    Option (Except Error (Cluster × Nat)) :=
  match (c.endpoint? link .node).bind Handshake.answer with
  | none => none
  | some (.error e) => some (.error e)
  | some (.ok e) =>
    let c := (c.updateLink link .node e).report [Handshake.connectedLog n]
    some (.ok (c.startQueue link n limits))

end CacheCoherence.Cluster
