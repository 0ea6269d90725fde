import CacheCoherence.Stream.Buffer

/-!
One direction of a byte stream: octets in order, no more than a capacity of them
on the way at a time. A pipe is closed when the writer is done or the reader is
gone; what is in it can still be read, and nothing more can be written.
-/

namespace CacheCoherence

structure Pipe where
  capacity : Nat
  buffer : Buffer := {}
  closed : Bool := false
  deriving DecidableEq

namespace Pipe

def room (p : Pipe) : Nat :=
  p.capacity - p.buffer.size

/-- Takes in what fits; the rest is left to the writer. -/
def accept (p : Pipe) (bytes : List UInt8) : Pipe × List UInt8 :=
  ({ p with buffer := p.buffer.append (bytes.take p.room) }, bytes.drop p.room)

def close (p : Pipe) : Pipe :=
  { p with closed := true }

def isUnchanged (p q : Pipe) : Bool :=
  p.buffer.size = q.buffer.size && p.closed = q.closed

theorem accept_conserves (p : Pipe) (bytes : List UInt8) :
    (p.accept bytes).1.buffer.toList ++ (p.accept bytes).2 = p.buffer.toList ++ bytes := by
  simp [accept]

end Pipe

end CacheCoherence
