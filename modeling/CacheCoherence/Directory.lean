import CacheCoherence.Settings

/-!
The directory is the authority on who holds which key. Its table is divided
into shards, each key lying in the shard that its placement gives, and it has an
entry for held keys only. A refused operation leaves the directory as it was,
and a commit never changes it.
-/

namespace CacheCoherence

structure Directory where
  place : Key → Nat
  shards : List (SortedMap Key Access.State)

/-- Spreads objects by their number and bindings by the octets of their name. -/
def Key.place : Key → Nat
  | .object o => o.value
  | .binding .upper => 1
  | .binding (.name s) =>
    (Text.Utf8.encode s).foldl (fun n b => (n * 31 + b.toNat) % 0x100000000) 7

namespace Directory

def new (place : Key → Nat) (shards : Nat) : Directory :=
  ⟨place, List.replicate (max shards 1) SortedMap.empty⟩

/-- Octets that a shard takes in the table: eight of its lock, eight with the mark that the lock is
poisoned, and 48 of its map. -/
def shardSize : Nat := 64

/-- Whether a table of so many shards can be asked for, which may take half of the greatest size; to
ask for a larger one ends the program. -/
def isTableSize (shards : Nat) : Bool :=
  shards * shardSize ≤ Settings.maxSize / 2

/-- The directory, or nothing where the program ends instead. -/
def new? (place : Key → Nat) (shards : Nat) : Option Directory :=
  if isTableSize (max shards 1) then some (new place shards) else none

def shardIndex (d : Directory) (k : Key) : Nat :=
  d.place k % d.shards.length

def shard (d : Directory) (i : Nat) : SortedMap Key Access.State :=
  (d.shards[i]?).getD SortedMap.empty

def state (d : Directory) (k : Key) : Access.State :=
  ((d.shard (d.shardIndex k)).get? k).getD .unheld

/-- Records a state, unheld as the absence of an entry. -/
def record (d : Directory) (k : Key) (s : Access.State) : Directory :=
  let i := d.shardIndex k
  let entry := if s.isUnheld then none else some s
  { d with shards := d.shards.set i ((d.shard i).alter k entry) }

def holders (d : Directory) (k : Key) : List NodeId :=
  (d.state k).holders

def entryCount (d : Directory) : Nat :=
  d.shards.foldl (fun n m => n + m.size) 0

/-- Every held key with its state, in the order of keys. -/
def entries (d : Directory) : List (Key × Access.State) :=
  (d.shards.flatMap SortedMap.entries).mergeSort fun a b => (compare a.1 b.1).isLE

def grant (d : Directory) (k : Key) (n : NodeId) (level : Access.Level) :
    Except DirectoryError Directory :=
  match (d.state k).allow n level with
  | .ok s => .ok (d.record k s)
  | .error holder => .error (.accessConflict k level n holder)

def evict (d : Directory) (k : Key) (n : NodeId) : Except ConsistencyFault Directory :=
  match (d.state k).release? n with
  | some s => .ok (d.record k s)
  | none => .error (.notHeld n k (d.state k))

def downgrade (d : Directory) (k : Key) (n : NodeId) : Except ConsistencyFault Directory :=
  match (d.state k).weaken? n with
  | some s => .ok (d.record k s)
  | none => .error (.notWriter n k (d.state k))

/-- A state after `n` is gone; absent where nobody is left. -/
def withoutNode (n : NodeId) (s : Access.State) : Option Access.State :=
  match s.release? n with
  | some left => if left.isUnheld then none else some left
  | none => some s

def releaseShard (n : NodeId) (m : SortedMap Key Access.State) : SortedMap Key Access.State :=
  m.filterMapValues (withoutNode n)

/-- Takes all access from `n`; also the number of keys it held. -/
def releaseNode (d : Directory) (n : NodeId) : Directory × Nat :=
  ({ d with shards := d.shards.map (releaseShard n) },
    d.shards.foldl (fun total m => total + (m.entries.filter fun e => e.2.holds n).length) 0)

/-- The shards that some keys lie in, each under its index. -/
def lockedShards (d : Directory) (keys : List Key) : SortedMap Nat (SortedMap Key Access.State) :=
  (SortedSet.ofList (keys.map d.shardIndex)).toList.foldl (fun m i => m.insert i (d.shard i))
    SortedMap.empty

/-- The state of a key by the shards that have been locked. -/
def lockedState (d : Directory) (locked : SortedMap Nat (SortedMap Key Access.State)) (k : Key) :
    Access.State :=
  ((locked.get? (d.shardIndex k)).bind fun m => m.get? k).getD .unheld

/-- Locks the shards of the keys and runs `apply` if `n` is the writer of every key; otherwise the
first key that it does not write decides the fault. -/
def commit {σ α : Type} (d : Directory) (n : NodeId) (keys : List Key)
    (apply : StateM σ (Except Error α)) : StateM σ (Except Error α) :=
  let locked := d.lockedShards keys
  match keys.find? fun k => (d.lockedState locked k).writer? ≠ some n with
  | some k => pure (.error (.consistency (.commitNotWriter n k (d.lockedState locked k))))
  | none => apply

end Directory

end CacheCoherence
