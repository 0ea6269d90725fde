import CacheCoherence.Directory
import CacheCoherence.Feed
import CacheCoherence.Store

/-!
The coherence authority: directory, store, registrations and feed. A request is
processed on behalf of a session. It is applied, given the session's next
sequence number, counted, and published; a request that fails changes neither
directory nor store. Grants are made on the directory directly.
-/

namespace CacheCoherence

structure Server where
  settings : Settings
  directory : Directory
  store : Store
  registry : Registry
  feed : Feed

structure Processed where
  event : Applied
  outcome : Outcome
  receivers : Nat

structure Released where
  session : SessionId
  node : NodeId
  keys : Nat
  deriving DecidableEq

namespace Server

/-- A server without any registration, for settings that are usable. -/
def new (settings : Settings) (place : Key → Nat) : Except SettingError Server := do
  settings.check
  return {
    settings
    directory := Directory.new place settings.shards
    store := {}
    registry := {}
    feed := Feed.new settings.feedCapacity }

/-- The same, or nothing where the program ends because there can be no such directory or feed. -/
def new? (settings : Settings) (place : Key → Nat) : Option (Except SettingError Server) :=
  match new settings place with
  | .error e => some (.error e)
  | .ok s => do
    let directory ← Directory.new? place settings.shards
    let feed ← Feed.new? settings.feedCapacity
    return .ok { s with directory, feed }

/-- Takes everything from the node of a session that ends, and notes it. -/
def release : Registry.Release (Directory × List Released) := fun registry id acc =>
  match registry.session? id with
  | some s =>
    let released := acc.1.releaseNode s.node
    (released.1, acc.2 ++ [⟨id, s.node, released.2⟩])
  | none => acc

def ended (s : Server) (r : Registry × Directory × List Released) : Server × List Released :=
  ({ s with registry := r.1, directory := r.2.1 }, r.2.2)

def register (s : Server) (n : NodeId) : Except InputError (Server × SessionId) :=
  match s.registry.register n with
  | .ok (registry, id) => .ok ({ s with registry }, id)
  | .error e => .error e

def unregister (s : Server) (n : NodeId) : Except InputError (Server × List Released) :=
  match s.registry.unregister n release (s.directory, []) with
  | .ok (_, r) => .ok (s.ended r)
  | .error e => .error e

/-- Ends a session if it is live, and leaves a newer registration of its node alone. -/
def closeSession (s : Server) (id : SessionId) : Server × List Released :=
  s.ended (s.registry.close id release (s.directory, []))

def shutdown (s : Server) : Server × List Released :=
  s.ended (s.registry.unregisterAll release (s.directory, [])).2

def checkBatch (s : Server) (b : Batch) : Except InputError Unit :=
  let length := max b.objects.length b.bindings.length
  if s.settings.maxBatch < length then
    .error (.limitExceeded "commit batch" length s.settings.maxBatch)
  else .ok ()

/-- Writes a batch to the store; a store in disorder keeps what it has. -/
def applyBatch (b : Batch) : StateM Store Outcome := fun store =>
  match store.apply b with
  | .ok store => (.ok (), store)
  | .error e => (.error (.store e), store)

def commit (s : Server) (n : NodeId) (b : Batch) : Outcome × Server :=
  match s.checkBatch b with
  | .error e => (.error (.input e), s)
  | .ok () =>
    let r := (s.directory.commit n b.keys (applyBatch b)).run s.store
    (r.1, { s with store := r.2 })

/-- The directory after a change, or as it was with the fault that stopped the change. -/
def changeDirectory (s : Server) : Except ConsistencyFault Directory → Outcome × Server
  | .ok directory => (.ok (), { s with directory })
  | .error e => (.error (.consistency e), s)

def apply (s : Server) (n : NodeId) : Request → Outcome × Server
  | .commit b => s.commit n b
  | .evictObject o => s.changeDirectory (s.directory.evict (.object o) n)
  | .downgradeObject o => s.changeDirectory (s.directory.downgrade (.object o) n)
  | .evictBinding k => s.changeDirectory (s.directory.evict (.binding k) n)
  | .downgradeBinding k => s.changeDirectory (s.directory.downgrade (.binding k) n)

def countOutcome (outcome : Outcome) (s : Session) : Session :=
  match outcome with
  | .ok () => { s with processed := s.processed + 1 }
  | .error (.consistency _) => { s with processed := s.processed + 1, faults := s.faults + 1 }
  | .error _ => { s with processed := s.processed + 1, rejected := s.rejected + 1 }

def process (s : Server) (id : SessionId) (r : Request) : Option (Server × Processed) := do
  let session ← s.registry.session? id
  let applied := s.apply session.node r
  let event : Applied := {
    node := session.node
    session := id
    sequence := session.processed + 1
    kind := r.kind
    keys := r.keys
    status := .ofOutcome applied.1 }
  return ({ applied.2 with
      registry := applied.2.registry.modify id (countOutcome applied.1)
      feed := applied.2.feed.publish event },
    ⟨event, applied.1, s.feed.receivers⟩)

/-- Processes a request that is made in the server's own process, on the node's live session. -/
def call (s : Server) (n : NodeId) (r : Request) : Except InputError (Server × Processed) :=
  match s.registry.liveSession n with
  | .error e => .error e
  | .ok id =>
    match s.process id r with
    | some done => .ok done
    | none => .error (.notRegistered n)

end Server

end CacheCoherence
