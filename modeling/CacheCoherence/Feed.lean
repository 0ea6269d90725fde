import CacheCoherence.Frame.Request
import CacheCoherence.Journal
import CacheCoherence.Registry

/-!
The feed of processed requests. Whoever subscribes sees what is published from
then on. The feed keeps a bounded number of events, so a reader that falls
behind misses the oldest and is told how many; what is published while nobody
is subscribed is gone.
-/

namespace CacheCoherence

/-- How a request ended, as the feed tells it. -/
inductive Applied.Status where
  | applied
  | fault (message : String)
  | rejected (message : String)
  deriving DecidableEq

def Applied.Status.ofOutcome : Outcome → Status
  | .ok () => .applied
  | .error (.consistency e) => .fault e.message
  | .error e => .rejected e.message

structure Applied where
  node : NodeId
  session : SessionId
  sequence : Nat
  kind : RequestKind
  keys : List Key
  status : Applied.Status
  deriving DecidableEq

structure Feed where
  capacity : Nat
  /-- All events sent to at least one reader. -/
  sent : Journal Applied := {}
  /-- For each reader the number of events it is done with; none once it is gone. -/
  readers : List (Option Nat) := []
  deriving DecidableEq

namespace Feed

/-- The least power of two that is not below `n`. -/
def powerAbove (n : Nat) : Nat :=
  if n ≤ 1 then 1 else 1 <<< ((n - 1).log2 + 1)

/-- A feed that keeps the least power of two of events not below `wanted` and one. -/
def new (wanted : Nat) : Feed :=
  ⟨powerAbove (max wanted 1), {}, []⟩

/-- Whether a ring of so many events can be asked for; to ask for another one ends the program. -/
def isRingSize (events : Nat) : Bool :=
  0 < events && events ≤ Settings.maxSize / 2

/-- The feed, or nothing where the program ends instead. -/
def new? (wanted : Nat) : Option Feed :=
  if isRingSize (max wanted 1) then some (new wanted) else none

def receivers (f : Feed) : Nat :=
  (f.readers.filter Option.isSome).length

def publish (f : Feed) (e : Applied) : Feed :=
  if f.receivers = 0 then f else { f with sent := f.sent.append [e] }

def subscribe (f : Feed) : Feed × Nat :=
  ({ f with readers := f.readers ++ [some f.sent.size] }, f.readers.length)

def unsubscribe (f : Feed) (reader : Nat) : Feed :=
  { f with readers := f.readers.set reader none }

/-- What a reader receives at once. -/
structure Delivery where
  missed : Nat
  events : List Applied
  deriving DecidableEq

/-- All that waits for a reader; nothing if there is no such reader. -/
def drain? (f : Feed) (reader : Nat) : Option (Feed × Delivery) :=
  match f.readers[reader]? with
  | some (some done) =>
    let oldest := f.sent.size - f.capacity
    some ({ f with readers := f.readers.set reader (some f.sent.size) },
      ⟨oldest - done, f.sent.toList.drop (max oldest done)⟩)
  | _ => none

end Feed

end CacheCoherence
