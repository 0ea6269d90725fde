import CacheCoherence.Feed
import CacheCoherence.Frame.Response
import CacheCoherence.Json.Value

/-!
Identifiers, keys, access, directory entries, kinds of requests, settings and the
events of the feed as JSON. Reading refuses an identifier that is negative,
wherever it stands.
-/

namespace CacheCoherence

open Json (Value)

namespace NodeId

def toJson (n : NodeId) : Value := .integer n.value

def ofJson? (v : Value) : Option NodeId := do
  NodeId.ofInt64? (← v.word?)

end NodeId

namespace ObjectId

def toJson (o : ObjectId) : Value := .integer o.value

def ofJson? (v : Value) : Option ObjectId := do
  ObjectId.ofInt64? (← v.word?)

end ObjectId

namespace BindingKey

def toJson : BindingKey → Value
  | .name s => .caseOf "Name" (.string s)
  | .upper => .string "Upper"

def ofJson? (v : Value) : Option BindingKey := do
  match ← v.case? with
  | ("Name", some content) => return .name (← content.string?)
  | ("Upper", content) => if Value.isEmptyContent content then some .upper else none
  | _ => none

end BindingKey

namespace Key

def toJson : Key → Value
  | .object o => .caseOf "Object" o.toJson
  | .binding k => .caseOf "Binding" k.toJson

def ofJson? (v : Value) : Option Key := do
  match ← v.case? with
  | ("Object", some content) => return .object (← ObjectId.ofJson? content)
  | ("Binding", some content) => return .binding (← BindingKey.ofJson? content)
  | _ => none

end Key

namespace Access

def Level.caseName : Level → String
  | .read => "Read"
  | .write => "Write"

def Level.toJson (l : Level) : Value := .string l.caseName

def Level.ofJson? (v : Value) : Option Level := do
  match ← v.bare? with
  | "Read" => some .read
  | "Write" => some .write
  | _ => none

def State.toJson : State → Value
  | .unheld => .string "Unheld"
  | .shared readers => .caseOf "ReadShared" (.array (readers.toList.map NodeId.toJson))
  | .exclusive w => .caseOf "WriteExclusive" w.toJson

/-- Readers may come in any order and more than once, and there may be none. -/
def State.ofJson? (v : Value) : Option State := do
  match ← v.case? with
  | ("Unheld", content) => if Value.isEmptyContent content then some .unheld else none
  | ("ReadShared", some content) =>
    return .shared (SortedSet.ofList (← (← content.array?).mapM NodeId.ofJson?))
  | ("WriteExclusive", some content) => return .exclusive (← NodeId.ofJson? content)
  | _ => none

structure Entry where
  key : Key
  state : State
  deriving DecidableEq

def Entry.fieldNames : List String := ["key", "state"]

def Entry.toJson (e : Entry) : Value :=
  .object (fieldNames.zip [e.key.toJson, e.state.toJson])

def Entry.ofJson? (v : Value) : Option Entry := do
  match ← v.record? fieldNames with
  | [key, state] => return ⟨← Key.ofJson? key, ← State.ofJson? state⟩
  | _ => none

end Access

namespace RequestKind

def caseName : RequestKind → String
  | .commit => "Commit"
  | .evictObject => "EvictObject"
  | .downgradeObject => "DowngradeObject"
  | .evictBinding => "EvictBinding"
  | .downgradeBinding => "DowngradeBinding"

def toJson (k : RequestKind) : Value := .string k.caseName

def ofJson? (v : Value) : Option RequestKind := do
  let name ← v.bare?
  all.find? fun k => k.caseName = name

end RequestKind

namespace Settings

def fieldNames : List String :=
  ["directory_shards", "max_batch_len", "max_value_len", "max_name_len", "applied_feed_capacity",
    "listen_addr"]

def toJson (s : Settings) : Value :=
  .object (fieldNames.zip
    [.integer s.shards, .integer s.maxBatch, .integer s.maxValue, .integer s.maxName,
      .integer s.feedCapacity, .string s.listenAddress])

def ofJson? (v : Value) : Option Settings := do
  match ← v.record? fieldNames with
  | [shards, maxBatch, maxValue, maxName, feedCapacity, listenAddress] =>
    return {
      shards := ← shards.size?
      maxBatch := ← maxBatch.size?
      maxValue := ← maxValue.size?
      maxName := ← maxName.size?
      feedCapacity := ← feedCapacity.size?
      listenAddress := ← listenAddress.string? }
  | _ => none

end Settings

namespace Applied

def Status.text : Status → String
  | .applied => "applied"
  | .fault _ => "consistency_fault"
  | .rejected _ => "rejected"

def Status.toJson (s : Status) : Value :=
  let status := ("status", .string s.text)
  match s with
  | .applied => .object [status]
  | .fault m | .rejected m => .object [status, ("message", .string m)]

def toJson (e : Applied) : Value :=
  .object [("node_id", e.node.toJson), ("sequence", .integer e.sequence), ("kind", e.kind.toJson),
    ("keys", .array (e.keys.map Key.toJson)), ("outcome", e.status.toJson)]

end Applied

/-- A response by the status of what it answers. -/
def Response.status : Response → String
  | .ok => (Applied.Status.applied).text
  | .fault m => (Applied.Status.fault m).text
  | .rejected m => (Applied.Status.rejected m).text

end CacheCoherence
