import CacheCoherence.Error

/-!
Registrations of nodes. Each one is a session, and a node has at most one that
is live. A session that ends is first shut down, then what it held is released
while its node still counts as registered, so that the node cannot come back
before the release is done. Ended sessions are remembered, since there may be
calls under way on them.
-/

namespace CacheCoherence

/-- A registration, and what has been counted on it. The program counts in words of 64 bits; that
these begin again at zero after 2 ^ 64 requests is left out. -/
structure Session where
  node : NodeId
  /-- Requests processed, which is also the last sequence number given. -/
  processed : Nat := 0
  faults : Nat := 0
  rejected : Nat := 0
  /-- Whether a channel serves the session. -/
  attached : Bool := false
  shutDown : Bool := false
  deriving DecidableEq

/-- Claims the session for one channel. -/
def Session.attach (s : Session) : Except InputError Session :=
  if s.attached then .error (.invalidValue "node_id" s!"node {s.node} already has a channel")
  else .ok { s with attached := true }

/-- A session by its place in the order of registrations. -/
abbrev SessionId := Nat

structure Registry where
  sessions : List Session := []
  live : SortedMap NodeId SessionId := SortedMap.empty
  deriving DecidableEq

namespace Registry

def session? (r : Registry) (id : SessionId) : Option Session :=
  r.sessions[id]?

def modify (r : Registry) (id : SessionId) (f : Session → Session) : Registry :=
  { r with sessions := r.sessions.modify id f }

def register (r : Registry) (n : NodeId) : Except InputError (Registry × SessionId) :=
  if r.live.contains n then .error (.alreadyRegistered n)
  else
    let id := r.sessions.length
    .ok (⟨r.sessions ++ [⟨n, 0, 0, 0, false, false⟩], r.live.insert n id⟩, id)

def liveSession (r : Registry) (n : NodeId) : Except InputError SessionId :=
  match r.live.get? n with
  | some id => .ok id
  | none => .error (.notRegistered n)

def attach? (r : Registry) (id : SessionId) : Option (Except InputError Registry) :=
  (r.session? id).map fun s => s.attach.map fun attached => r.modify id fun _ => attached

def shutDown (r : Registry) (id : SessionId) : Registry :=
  r.modify id fun s => { s with shutDown := true }

/-- What is done with a session that ends, seeing the registry while it is still live. -/
abbrev Release (σ : Type) := Registry → SessionId → σ → σ

variable {σ : Type}

def endSession (r : Registry) (n : NodeId) (id : SessionId) (release : Release σ) (s : σ) :
    Registry × σ :=
  let ending := r.shutDown id
  ({ ending with live := ending.live.erase n }, release ending id s)

def unregister (r : Registry) (n : NodeId) (release : Release σ) (s : σ) :
    Except InputError (SessionId × Registry × σ) :=
  match r.live.get? n with
  | some id => .ok (id, r.endSession n id release s)
  | none => .error (.notRegistered n)

def isLive (r : Registry) (id : SessionId) : Bool :=
  match r.session? id with
  | some s => r.live.get? s.node = some id
  | none => false

/-- Ends the session if it is live; otherwise it is only shut down. -/
def close (r : Registry) (id : SessionId) (release : Release σ) (s : σ) : Registry × σ :=
  match r.session? id with
  | some session =>
    if r.live.get? session.node = some id then r.endSession session.node id release s
    else (r.shutDown id, s)
  | none => (r, s)

def unregisterAll (r : Registry) (release : Release σ) (s : σ) : List SessionId × Registry × σ :=
  r.live.entries.foldl
    (fun acc e =>
      let ended := acc.2.1.endSession e.1 e.2 release acc.2.2
      (acc.1 ++ [e.2], ended))
    ([], r, s)

def nodes (r : Registry) : List NodeId :=
  r.live.keys

end Registry

end CacheCoherence
