import CacheCoherence.Frame.Request

/-!
The server's answer to one request: an octet for how it ended, and a message
unless it succeeded. A message may quote a name as long as the limits allow, so
it is cut to a length of its own, between characters.
-/

namespace CacheCoherence

inductive Response where
  | ok
  | fault (message : String)
  | rejected (message : String)
  deriving DecidableEq

namespace Response

def maxMessage : Nat := 4096

/-- The longest beginning of a text whose characters take at most `room` octets. -/
def clipChars (room : Nat) : List Char → List Char
  | [] => []
  | c :: r => if c.utf8Size ≤ room then c :: clipChars (room - c.utf8Size) r else []

def clip (message : String) : String :=
  String.ofList (clipChars maxMessage message.toList)

def ofOutcome : Outcome → Response
  | .ok () => .ok
  | .error (.consistency e) => .fault e.message
  | .error e => .rejected e.message

def toOutcome : Response → Outcome
  | .ok => .ok ()
  | .fault m => .error (.consistency (.reported m))
  | .rejected m => .error (.input (.rejected m))

def frame : Response → List UInt8
  | .ok => [0]
  | .fault m => 1 :: Frame.writeString (some (clip m))
  | .rejected m => 2 :: Frame.writeString (some (clip m))

def readMessage : Frame.Reader String := do
  return (← Frame.Reader.text "message" maxMessage).getD ""

def read : Frame.Reader (Option Response) := do
  match ← Frame.Reader.start with
  | none => return none
  | some 0 => return some .ok
  | some 1 => return some (.fault (← readMessage))
  | some 2 => return some (.rejected (← readMessage))
  | some status => throw (.refused (.unknownStatus status))

end Response

end CacheCoherence
