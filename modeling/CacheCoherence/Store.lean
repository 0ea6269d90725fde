import CacheCoherence.Frame.Batch

/-!
The values that commits have written: objects by identifier, and bindings by
name. A batch takes effect write by write, later writes over earlier ones. A
store that is out of order refuses every batch.
-/

namespace CacheCoherence

structure Store where
  objects : SortedMap ObjectId (List UInt8) := SortedMap.empty
  bindings : SortedMap String ObjectId := SortedMap.empty
  /-- Why batches are refused, while they are. -/
  disorder : Option String := none
  deriving DecidableEq

namespace Store

def write (s : Store) (b : Batch) : Store :=
  { s with
    objects := b.objects.foldl (fun m w => m.alter w.oid w.value) s.objects
    bindings := b.bindings.foldl (fun m w => m.alter w.name w.target) s.bindings }

def apply (s : Store) (b : Batch) : Except StoreError Store :=
  match s.disorder with
  | some reason => .error (.applyFailed reason)
  | none => .ok (s.write b)

def object (s : Store) (oid : ObjectId) : Option (List UInt8) :=
  s.objects.get? oid

def binding (s : Store) (name : String) : Option ObjectId :=
  s.bindings.get? name

/-- The first bound name after the key, or the upper bound if there is none. -/
def nextBinding (s : Store) : BindingKey → BindingKey
  | .upper => .upper
  | .name text =>
    match s.bindings.nextKey? text with
    | some next => .name next
    | none => .upper

/-- The names met on the way from a key to the upper bound, in at most `fuel` steps. -/
def walkFrom (s : Store) : Nat → BindingKey → List String
  | 0, _ => []
  | fuel + 1, k =>
    match s.nextBinding k with
    | .upper => []
    | .name next => next :: s.walkFrom fuel (.name next)

/-- The bound names after a key. One step for each binding and one more reach the upper bound. -/
def walk (s : Store) (k : BindingKey) : List String :=
  s.walkFrom (s.bindings.size + 1) k

end Store

end CacheCoherence
