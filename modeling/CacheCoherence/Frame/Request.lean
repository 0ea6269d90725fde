import CacheCoherence.Frame.Batch

/-!
What a node asks of the server. A frame is the octet of the request's kind and
then its fields; the upper bound travels as an absent name. A node refuses what
a server with the same limits would not be able to read.
-/

namespace CacheCoherence

inductive RequestKind where
  | commit
  | evictObject
  | downgradeObject
  | evictBinding
  | downgradeBinding
  deriving DecidableEq

inductive Request where
  | commit (batch : Batch)
  | evictObject (oid : ObjectId)
  | downgradeObject (oid : ObjectId)
  | evictBinding (key : BindingKey)
  | downgradeBinding (key : BindingKey)
  deriving DecidableEq

namespace RequestKind

def all : List RequestKind :=
  [.commit, .evictObject, .downgradeObject, .evictBinding, .downgradeBinding]

def tag : RequestKind → UInt8
  | .commit => 1
  | .evictObject => 2
  | .downgradeObject => 3
  | .evictBinding => 4
  | .downgradeBinding => 5

def ofTag? (tag : UInt8) : Option RequestKind :=
  all.find? fun k => k.tag = tag

def text : RequestKind → String
  | .commit => "commit"
  | .evictObject => "evict_object"
  | .downgradeObject => "downgrade_object"
  | .evictBinding => "evict_binding"
  | .downgradeBinding => "downgrade_binding"

instance : ToString RequestKind := ⟨text⟩

end RequestKind

namespace Request

def kind : Request → RequestKind
  | .commit _ => .commit
  | .evictObject _ => .evictObject
  | .downgradeObject _ => .downgradeObject
  | .evictBinding _ => .evictBinding
  | .downgradeBinding _ => .downgradeBinding

def keys : Request → List Key
  | .commit b => b.keys
  | .evictObject o | .downgradeObject o => [.object o]
  | .evictBinding k | .downgradeBinding k => [.binding k]

/-- A commit is about the objects that it writes and behind them the names that it writes, each in
the order of the batch; any other request is about one key. -/
theorem keys_eq (r : Request) :
    r.keys = match r with
      | .commit b =>
        b.objects.map (fun w => .object w.oid) ++ b.bindings.map (fun w => .binding (.name w.name))
      | .evictObject o | .downgradeObject o => [.object o]
      | .evictBinding k | .downgradeBinding k => [.binding k] := by
  cases r <;> rfl

open CacheCoherence.Frame in
def fields : Request → List Field
  | .commit b =>
    let a := b.toArrays
    [.longs a.oids, .blobs a.oidValues, .strings a.names, .longs a.nameValues]
  | .evictObject o | .downgradeObject o => [.long o.toInt64]
  | .evictBinding k | .downgradeBinding k => [.string k.name?]

def frame (r : Request) : List UInt8 :=
  r.kind.tag :: r.fields.flatMap Frame.Field.write

def malformed {α : Type} : Except InputError α → Frame.Reader α
  | .ok x => pure x
  | .error e => Frame.Reader.malformed e.message

def readObject : Frame.Reader ObjectId := do
  malformed (ObjectId.ofInt64 (← Frame.Reader.long "oid"))

def readBinding (limits : Limits) : Frame.Reader BindingKey := do
  match ← Frame.Reader.string limits "name" with
  | some name => return .name name
  | none => return .upper

def readBatch (limits : Limits) : Frame.Reader Batch := do
  let oids ← Frame.Reader.longs limits "oids"
  let oidValues ← Frame.Reader.blobs limits "oid_values"
  let names ← Frame.Reader.strings limits "names"
  let nameValues ← Frame.Reader.longs limits "name_values"
  malformed (Batch.ofArrays ⟨oids, oidValues, names, nameValues⟩)

def read (limits : Limits) : Frame.Reader (Option Request) := do
  match ← Frame.Reader.start with
  | none => return none
  | some tag =>
    match RequestKind.ofTag? tag with
    | none => throw (.refused (.unknownTag tag))
    | some .commit => return some (.commit (← readBatch limits))
    | some .evictObject => return some (.evictObject (← readObject))
    | some .downgradeObject => return some (.downgradeObject (← readObject))
    | some .evictBinding => return some (.evictBinding (← readBinding limits))
    | some .downgradeBinding => return some (.downgradeBinding (← readBinding limits))

def checkLength (field : String) (length limit : Nat) : Except InputError Unit :=
  if limit < length then .error (.limitExceeded field length limit) else .ok ()

def checkBindingKey (limits : Limits) (k : BindingKey) : Except InputError Unit :=
  match k.name? with
  | some name => checkLength "name" (Text.Utf8.size name) limits.name
  | none => .ok ()

def checkValue (limits : Limits) (w : ObjectWrite) : Except InputError Unit :=
  match w.value with
  | some bytes => checkLength "oid_values" bytes.length limits.value
  | none => .ok ()

/-- Whether a server with these limits can read the request. -/
def check (limits : Limits) : Request → Except InputError Unit
  | .commit b => do
    checkLength "oids" b.objects.length limits.batch
    checkLength "names" b.bindings.length limits.batch
    b.objects.forM (checkValue limits)
    b.bindings.forM fun w => checkLength "names" (Text.Utf8.size w.name) limits.name
  | .evictObject _ | .downgradeObject _ => .ok ()
  | .evictBinding k | .downgradeBinding k => checkBindingKey limits k

end Request

end CacheCoherence
