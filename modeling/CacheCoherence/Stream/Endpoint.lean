import CacheCoherence.Error
import CacheCoherence.Stream.Pipe

/-!
One end of a byte stream with its two pipes, as the task that owns it sees them.
Each kind of call on it may be faulty, and then fails every time.
-/

namespace CacheCoherence

inductive StreamFault where
  | unexpectedEnd
  | other (text : String)
  deriving DecidableEq

namespace StreamFault

def text : StreamFault → String
  | .unexpectedEnd => "unexpected end of file"
  | .other t => t

def brokenPipe : StreamFault := .other "broken pipe"

/-- The channel error of a fault met while reading or writing `context`. -/
def toError (context : String) : StreamFault → ChannelError
  | .unexpectedEnd => .endOfStream context
  | .other t => .transport t

end StreamFault

structure Faults where
  read : Option StreamFault := none
  write : Option StreamFault := none
  flush : Option StreamFault := none
  shutdown : Option StreamFault := none
  deriving DecidableEq

structure Endpoint where
  incoming : Pipe
  outgoing : Pipe
  faults : Faults := {}
  /-- Calls that may succeed before the owner has to let others go on. -/
  allowance : Nat
  deriving DecidableEq

namespace Endpoint

inductive Written where
  | failed (fault : StreamFault)
  /-- No room until the other side reads, or no allowance. -/
  | blocked
  | wrote (e : Endpoint) (rest : List UInt8)

inductive Received where
  | failed (fault : StreamFault)
  /-- Nothing there until the other side writes, or no allowance. -/
  | waiting
  | ended
  | got (e : Endpoint) (bytes : List UInt8)

def spend (e : Endpoint) : Endpoint :=
  { e with allowance := e.allowance - 1 }

def write (e : Endpoint) (bytes : List UInt8) : Written :=
  if bytes.isEmpty then .wrote e []
  else
    match e.faults.write with
    | some f => .failed f
    | none =>
      if e.allowance = 0 then .blocked
      else if e.outgoing.closed then .failed .brokenPipe
      else if e.outgoing.room = 0 then .blocked
      else
        let r := e.outgoing.accept bytes
        .wrote { e.spend with outgoing := r.1 } r.2

def read (e : Endpoint) (limit : Nat) : Received :=
  match e.faults.read with
  | some f => .failed f
  | none =>
    let buffer := e.incoming.buffer
    if e.allowance = 0 then .waiting
    else if buffer.isEmpty then
      if e.incoming.closed then .ended else .waiting
    else
      .got { e.spend with incoming := { e.incoming with buffer := buffer.drop limit } }
        (buffer.toList.take limit)

/-- Octets that a task asks for at a time, unless a single field lacks more. -/
def portion : Nat := 8192

/-- Takes octets ahead for a field that lacks some. -/
def readAhead (e : Endpoint) (missing : Nat) : Received :=
  e.read (max portion missing)

def finish (e : Endpoint) : Endpoint × Option StreamFault :=
  match e.faults.shutdown with
  | some f => (e, some f)
  | none => ({ e with outgoing := e.outgoing.close }, none)

def drop (e : Endpoint) : Endpoint :=
  { e with incoming := e.incoming.close, outgoing := e.outgoing.close }

end Endpoint

end CacheCoherence
