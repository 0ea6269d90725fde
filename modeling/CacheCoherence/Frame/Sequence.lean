import CacheCoherence.Frame.Reader

/-!
A stream read to its end, frame by frame. What comes before the first failure is
kept, and the failure is why the stream could not be read further.
-/

namespace CacheCoherence.Frame

variable {α : Type}

/-- Reads at most `fuel` frames behind those already read, which come in reverse. -/
def readAfter (reader : Reader (Option α)) (read : List α) :
    Nat → List UInt8 → List α × Except ChannelError Unit
  | 0, _ => (read.reverse, .ok ())
  | fuel + 1, bytes =>
    match reader.on bytes with
    | (.ok (some x), rest) => readAfter reader (x :: read) fuel rest
    | (.ok none, _) => (read.reverse, .ok ())
    | (.error e, _) => (read.reverse, .error e)

/-- Reads frames to the end of the octets or the first failure. Every frame takes an octet, so
there are no more frames than octets. -/
def readAll (reader : Reader (Option α)) (bytes : List UInt8) : List α × Except ChannelError Unit :=
  readAfter reader [] (bytes.length + 1) bytes

end CacheCoherence.Frame
