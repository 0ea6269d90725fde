import CacheCoherence.Frame.Word
import CacheCoherence.Length
import CacheCoherence.Settings

/-!
Reading fields off the front of the octets received. A reader gives back what it
leaves unread, after a failure too. Running out of octets consumes them all and
names the field that was being read, so the same reader tells a sender that has
stopped from one whose next octets are still on their way.
-/

namespace CacheCoherence.Frame

inductive ReadFailure where
  /-- The octets end before the field does, by so many. -/
  | short (context : String) (missing : Nat)
  | refused (e : ChannelError)
  deriving DecidableEq

/-- What a failure means when no more octets will come. -/
def ReadFailure.error : ReadFailure → ChannelError
  | .short context _ => .endOfStream context
  | .refused e => e

abbrev Reader := ExceptT ReadFailure (StateM (List UInt8))

namespace Reader

variable {α : Type}

def attempt (r : Reader α) (bytes : List UInt8) : Except ReadFailure α × List UInt8 :=
  StateT.run (ExceptT.run r) bytes

def on (r : Reader α) (bytes : List UInt8) : Except ChannelError α × List UInt8 :=
  let (answer, rest) := r.attempt bytes
  (answer.mapError ReadFailure.error, rest)

def malformed (reason : String) : Reader α :=
  throw (.refused (.malformed reason))

def octets (context : String) (n : Nat) : Reader (List UInt8) := fun bytes =>
  if isShorter bytes n then (.error (.short context (n - bytes.length)), [])
  else (.ok (bytes.take n), bytes.drop n)

/-- The first octet of a frame, or nothing at the end of the stream. -/
def start : Reader (Option UInt8) := fun bytes =>
  match bytes with
  | [] => (.ok none, [])
  | b :: r => (.ok (some b), r)

def octet (context : String) : Reader UInt8 := do
  let bytes ← octets context 1
  return UInt8.ofNat (toNat bytes)

def long (context : String) : Reader Int64 := do
  let bytes ← octets context 8
  return Int64.ofInt (signed 8 (toNat bytes))

def length (context : String) : Reader Int := do
  let bytes ← octets context 4
  return signed 4 (toNat bytes)

def count (limits : Limits) (context : String) : Reader Nat := do
  let n ← length context
  if n < 0 then
    malformed s!"negative count {n} for {context}"
  if limits.batch < n.toNat then
    malformed s!"{context} has {n} entries, limit is {limits.batch}"
  return n.toNat

/-- The octets of a blob of at most `limit` octets, absent where the length is -1. -/
def body (context : String) (limit : Nat) : Reader (Option (List UInt8)) := do
  let n ← length context
  if n = -1 then
    return none
  if n < 0 then
    malformed s!"negative length {n} for {context}"
  if limit < n.toNat then
    malformed s!"{context} is {n} bytes, limit is {limit}"
  return some (← octets context n.toNat)

/-- Reads `n` items behind those already read, which come in reverse. -/
def manyAfter (item : Reader α) : Nat → List α → Reader (List α)
  | 0, read => return read.reverse
  | n + 1, read => do
    let x ← item
    manyAfter item n (x :: read)

def many (item : Reader α) (n : Nat) : Reader (List α) :=
  manyAfter item n []

def text (context : String) (limit : Nat) : Reader (Option String) := do
  match ← body context limit with
  | none => return none
  | some bytes =>
    match Text.Utf8.decode bytes with
    | .ok s => return some s
    | .error fault => malformed s!"{context} is not valid UTF-8: {fault.message}"

def longs (limits : Limits) (context : String) : Reader (List Int64) := do
  many (long context) (← count limits context)

def blob (limits : Limits) (context : String) : Reader (Option (List UInt8)) :=
  body context limits.value

def blobs (limits : Limits) (context : String) : Reader (List (Option (List UInt8))) := do
  many (blob limits context) (← count limits context)

def string (limits : Limits) (context : String) : Reader (Option String) :=
  text context limits.name

def strings (limits : Limits) (context : String) : Reader (List (Option String)) := do
  many (string limits context) (← count limits context)

end Reader

/-- What the octets received so far amount to, for a reader of frames. -/
inductive Arrival (α : Type) where
  | frame (x : α) (rest : List UInt8)
  | nothing
  /-- In the middle of a field, which lacks that many octets. -/
  | begun (context : String) (missing : Nat)
  | refused (e : ChannelError)

def Reader.arrival {α : Type} (r : Reader (Option α)) (bytes : List UInt8) : Arrival α :=
  match r.attempt bytes with
  | (.ok (some x), rest) => .frame x rest
  | (.ok none, _) => .nothing
  | (.error (.short context missing), _) => .begun context missing
  | (.error (.refused e), _) => .refused e

end CacheCoherence.Frame
