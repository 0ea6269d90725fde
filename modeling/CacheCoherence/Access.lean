import CacheCoherence.SortedMap
import CacheCoherence.Key

/-!
Who holds a key, and how. A key is unheld, shared by any number of readers, or
exclusive to one writer, so a writer beside another holder has no
representation. A transition that may not happen answers with nothing, or with
a holder that stands in its way.
-/

namespace CacheCoherence.Access

inductive Level where
  | read
  | write
  deriving DecidableEq

inductive State where
  | unheld
  | shared (readers : SortedSet NodeId)
  | exclusive (writer : NodeId)
  deriving DecidableEq

namespace Level

def text : Level → String
  | .read => "read"
  | .write => "write"

instance : ToString Level := ⟨text⟩

structure Unknown where
  text : String
  deriving DecidableEq

def Unknown.message (u : Unknown) : String :=
  s!"Invalid access level: {u.text}"

/-- The level that a text names, in letters of either case. -/
def ofText (s : String) : Except Unknown Level :=
  if s.map Char.toLower = "read" then .ok .read
  else if s.map Char.toLower = "write" then .ok .write
  else .error ⟨s⟩

end Level

namespace State

def levelOf : State → NodeId → Option Level
  | .unheld, _ => none
  | .shared readers, n => if readers.contains n then some .read else none
  | .exclusive writer, n => if writer = n then some .write else none

def holds (s : State) (n : NodeId) : Bool :=
  (s.levelOf n).isSome

def isUnheld : State → Bool
  | .unheld => true
  | _ => false

def writer? : State → Option NodeId
  | .exclusive w => some w
  | _ => none

def holders : State → List NodeId
  | .unheld => []
  | .shared readers => readers.toList
  | .exclusive w => [w]

/-- The state shared by `readers`, unheld if there are none. -/
def ofReaders (readers : SortedSet NodeId) : State :=
  if readers.toList.isEmpty then .unheld else .shared readers

/-- `n` gives up all access; nothing if it has none. -/
def release? : State → NodeId → Option State
  | .unheld, _ => none
  | .shared readers, n =>
    if readers.contains n then some (ofReaders (readers.erase n)) else none
  | .exclusive writer, n => if writer = n then some .unheld else none

/-- The writer `n` keeps read access only; nothing if it is not the writer. -/
def weaken? : State → NodeId → Option State
  | .exclusive writer, n =>
    if writer = n then some (.shared (SortedSet.singleton n)) else none
  | _, _ => none

/-- `n` gets read access, and a writer keeps what it has; refused in favour of another writer. -/
def allowReader : State → NodeId → Except NodeId State
  | .unheld, n => .ok (.shared (SortedSet.singleton n))
  | .shared readers, n => .ok (.shared (readers.insert n))
  | .exclusive writer, n => if writer = n then .ok (.exclusive writer) else .error writer

/-- `n` becomes the writer; refused in favour of the least other holder. -/
def allowWriter : State → NodeId → Except NodeId State
  | .unheld, n => .ok (.exclusive n)
  | .shared readers, n =>
    match readers.toList.find? (· ≠ n) with
    | some other => .error other
    | none => .ok (.exclusive n)
  | .exclusive writer, n => if writer = n then .ok (.exclusive writer) else .error writer

def allow (s : State) (n : NodeId) : Level → Except NodeId State
  | .read => s.allowReader n
  | .write => s.allowWriter n

/-- No state shared by nobody. -/
def isCoherent : State → Bool
  | .shared readers => !readers.toList.isEmpty
  | _ => true

instance : ToString State where
  toString
    | .unheld => "unheld"
    | .shared readers =>
      "read-shared by [" ++ ", ".intercalate (readers.toList.map toString) ++ "]"
    | .exclusive w => s!"write-exclusive by {w}"

end State

end CacheCoherence.Access
