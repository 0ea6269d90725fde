import CacheCoherence.Frame.Request

/-!
What a node sends before its first request: its identifier, as a long.
-/

namespace CacheCoherence.Hello

def frame (n : NodeId) : List UInt8 :=
  Frame.writeLong n.toInt64

def read : Frame.Reader NodeId := do
  Request.malformed (NodeId.ofInt64 (← Frame.Reader.long "node_id"))

end CacheCoherence.Hello
