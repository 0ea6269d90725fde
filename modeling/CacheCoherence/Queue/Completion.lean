import CacheCoherence.Frame.Request
import CacheCoherence.Queue.Holdings

/-!
What happens with the outcome of a request: nothing, or it goes to a waiting
caller, or a callback runs with it. A callback may itself make calls on the
queue that runs it, and it may panic.
-/

namespace CacheCoherence

/-- How a request is handed in: as it is, or as the giving up of a key. -/
inductive Ask where
  | enqueue (r : Request)
  | evict (k : Key)
  | downgrade (k : Key)
  deriving DecidableEq

def Ask.request : Ask → Request
  | .enqueue r => r
  | .evict (.object o) => .evictObject o
  | .evict (.binding k) => .evictBinding k
  | .downgrade (.object o) => .downgradeObject o
  | .downgrade (.binding k) => .downgradeBinding k

inductive Completion where
  | ignore
  /-- For the caller of this number. -/
  | notify (caller : Nat)
  | callback (name : String) (panics : Bool)
  /-- Hands in another request, and goes on as `later`. -/
  | asking (a : Ask) (completion later : Completion)
  /-- Shuts the queue down, and goes on as `later`. -/
  | closing (later : Completion)
  /-- Lets go of the queue, and goes on as `later`. -/
  | releasing (later : Completion)
  /-- Changes the record of what the node holds, and goes on as `later`. -/
  | recording (h : Holdings) (later : Completion)
  deriving DecidableEq

namespace Completion

def panics : Completion → Bool
  | .callback _ p => p
  | .asking _ _ later | .closing later | .releasing later | .recording _ later => later.panics
  | .ignore | .notify _ => false

def debugText : Completion → String
  | .ignore => "Completion::Ignore"
  | .notify _ => "Completion::Notify"
  | .callback _ _ | .asking _ _ _ | .closing _ | .releasing _ | .recording _ _ =>
    "Completion::Callback"

end Completion

/-- What a waiting caller gets when its completion goes away without being invoked. -/
def droppedOutcome : Outcome :=
  .error (.channel (.shutDown "completion dropped before delivery"))

end CacheCoherence
