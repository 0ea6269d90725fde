import CacheCoherence.Access

/-!
What can go wrong, by cause. A consistency fault is a request beyond the access
that its node holds, invalid input breaks a rule of the caller's, a channel
failure ends the connection it happens on, and the rest belongs to the
directory, the store and the settings. Every cause has one wording.
-/

namespace CacheCoherence

inductive ConsistencyFault where
  | notHeld (node : NodeId) (key : Key) (recorded : Access.State)
  | notWriter (node : NodeId) (key : Key) (recorded : Access.State)
  | commitNotWriter (node : NodeId) (key : Key) (recorded : Access.State)
  /-- A fault that the server reported to the node. -/
  | reported (message : String)
  deriving DecidableEq

inductive InputError where
  | notRegistered (node : NodeId)
  | alreadyRegistered (node : NodeId)
  | negativeId (field : String) (value : Int64)
  | lengthMismatch (leftField : String) (left : Nat) (rightField : String) (right : Nat)
  | invalidValue (field reason : String)
  | limitExceeded (field : String) (length limit : Nat)
  /-- A rejection that the server reported to the node. -/
  | rejected (message : String)
  deriving DecidableEq

inductive ChannelError where
  | endOfStream (context : String)
  | unknownTag (tag : UInt8)
  | unknownStatus (status : UInt8)
  | malformed (reason : String)
  | transport (reason : String)
  | unexpectedResponse
  | completionPanicked (sequence : Nat)
  | shutDown (reason : String)
  deriving DecidableEq

inductive DirectoryError where
  | lockPoisoned
  | accessConflict (key : Key) (requested : Access.Level) (node holder : NodeId)
  deriving DecidableEq

inductive StoreError where
  | lockPoisoned
  | applyFailed (reason : String)
  deriving DecidableEq

inductive SettingError where
  | invalidValue (field value reason : String)
  deriving DecidableEq

inductive Error where
  | consistency (fault : ConsistencyFault)
  | input (error : InputError)
  | channel (error : ChannelError)
  | directory (error : DirectoryError)
  | store (error : StoreError)
  | setting (error : SettingError)
  deriving DecidableEq

abbrev Outcome := Except Error Unit

def ConsistencyFault.message : ConsistencyFault → String
  | .notHeld n k s => s!"Node {n} evicted {k} but the directory records it as {s}"
  | .notWriter n k s => s!"Node {n} downgraded {k} without write access; directory records {s}"
  | .commitNotWriter n k s =>
    s!"Node {n} committed {k} without write access; directory records {s}"
  | .reported m => s!"Server reported consistency fault: {m}"

def InputError.message : InputError → String
  | .notRegistered n => s!"Node not registered: {n}"
  | .alreadyRegistered n => s!"Node already registered: {n}"
  | .negativeId field value => s!"Negative value for {field}: {value.toInt}"
  | .lengthMismatch leftField left rightField right =>
    s!"Length mismatch: {leftField} has {left} entries, {rightField} has {right}"
  | .invalidValue field reason => s!"Invalid value for {field}: {reason}"
  | .limitExceeded field length limit => s!"Length of {field} is {length}, limit is {limit}"
  | .rejected m => s!"Server rejected request: {m}"

def ChannelError.message : ChannelError → String
  | .endOfStream context => s!"End of stream while reading {context}"
  | .unknownTag tag => s!"Unknown request type: {tag.toNat}"
  | .unknownStatus status => s!"Unknown response status: {status.toNat}"
  | .malformed reason => s!"Malformed frame: {reason}"
  | .transport reason => s!"I/O error: {reason}"
  | .unexpectedResponse => "Response received with no request outstanding"
  | .completionPanicked sequence => s!"Completion handler for request {sequence} panicked"
  | .shutDown reason => s!"Channel shut down: {reason}"

/-- The cause and what belongs to it, as shown to whoever debugs a channel. -/
def ChannelError.debugText : ChannelError → String
  | .endOfStream context => "EndOfStream \x7b context: " ++ Text.quoted context ++ " \x7d"
  | .unknownTag tag => "UnknownTag \x7b tag: " ++ tag.toNat.repr ++ " \x7d"
  | .unknownStatus status => "UnknownStatus \x7b status: " ++ status.toNat.repr ++ " \x7d"
  | .malformed reason => "Malformed \x7b reason: " ++ Text.quoted reason ++ " \x7d"
  | .transport reason => "Io \x7b reason: " ++ Text.quoted reason ++ " \x7d"
  | .unexpectedResponse => "UnexpectedResponse"
  | .completionPanicked sequence =>
    "CompletionPanicked \x7b sequence: " ++ sequence.repr ++ " \x7d"
  | .shutDown reason => "ShutDown \x7b reason: " ++ Text.quoted reason ++ " \x7d"

def DirectoryError.message : DirectoryError → String
  | .lockPoisoned => "Directory lock poisoned"
  | .accessConflict key requested node holder =>
    s!"Cannot grant {requested} access on {key} to node {node}: held by node {holder}"

def StoreError.message : StoreError → String
  | .lockPoisoned => "Storage lock poisoned"
  | .applyFailed reason => s!"Apply failed: {reason}"

def SettingError.message : SettingError → String
  | .invalidValue field value reason => s!"Invalid value for {field}: {value} - {reason}"

namespace Error

def message : Error → String
  | .consistency e => s!"Consistency fault: {e.message}"
  | .input e => s!"Validation error: {e.message}"
  | .channel e => s!"Channel error: {e.message}"
  | .directory e => s!"Directory error: {e.message}"
  | .store e => s!"Storage error: {e.message}"
  | .setting e => s!"Config error: {e.message}"

def isConsistencyFault : Error → Bool
  | .consistency _ => true
  | _ => false

def endsChannel : Error → Bool
  | .channel _ => true
  | _ => false

end Error

def NodeId.ofInt64 (raw : Int64) : Except InputError NodeId :=
  match NodeId.ofInt64? raw with
  | some n => .ok n
  | none => .error (.negativeId "node_id" raw)

def ObjectId.ofInt64 (raw : Int64) : Except InputError ObjectId :=
  match ObjectId.ofInt64? raw with
  | some o => .ok o
  | none => .error (.negativeId "oid" raw)

end CacheCoherence
