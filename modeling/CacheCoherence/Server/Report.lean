import CacheCoherence.Logging
import CacheCoherence.Server.Basic

/-!
What the server says about its work: the log events of each operation, and the
text that shows a server to whoever debugs it.
-/

namespace CacheCoherence

open Logging

def nodeField (n : NodeId) : String × Field :=
  number "node_id" n.value

namespace Processed

def describe (p : Processed) : Event :=
  let fields := [nodeField p.event.node, number "sequence" p.event.sequence,
    text "kind" p.event.kind.text]
  match p.outcome with
  | .ok () => ⟨.debug, "Applied request", fields ++ [number "keys" p.event.keys.length]⟩
  | .error (.consistency e) => ⟨.warn, "Consistency fault", fields ++ [text "error" e.message]⟩
  | .error e => ⟨.warn, "Request rejected", fields ++ [text "error" e.message]⟩

def log (p : Processed) : List Event :=
  p.describe ::
    if p.receivers = 0 then []
    else [⟨.trace, "Published applied request",
      [nodeField p.event.node, number "sequence" p.event.sequence, number "receivers" p.receivers]⟩]

end Processed

def Released.log (r : Released) : Event :=
  ⟨.info, "Node unregistered", [nodeField r.node, number "released" r.keys]⟩

namespace Server

def registrationLog (n : NodeId) : Event :=
  ⟨.info, "Node registered", [nodeField n]⟩

def shutdownLog (released : List Released) : List Event :=
  released.map Released.log ++
    [⟨.info, "Coherence server shut down", [number "sessions" released.length]⟩]

def debugText (s : Server) : String :=
  "CoherenceServer \x7b config: CoherenceConfig \x7b directory_shards: " ++ s.settings.shards.repr ++
    ", max_batch_len: " ++ s.settings.maxBatch.repr ++
    ", max_value_len: " ++ s.settings.maxValue.repr ++
    ", max_name_len: " ++ s.settings.maxName.repr ++
    ", applied_feed_capacity: " ++ s.settings.feedCapacity.repr ++
    ", listen_addr: " ++ Text.quoted s.settings.listenAddress ++
    " \x7d, nodes: " ++ s.registry.live.size.repr ++ ", .. \x7d"

end Server

end CacheCoherence
