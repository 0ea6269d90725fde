import CacheCoherence.Environment
import CacheCoherence.Error

/-!
What a server and its nodes are configured with. Settings that pass `check` are
usable everywhere: sizes are positive, and the limits of the frame format fit
the signed 32-bit lengths that frames carry.
-/

namespace CacheCoherence

structure Limits where
  batch : Nat
  value : Nat
  name : Nat
  deriving DecidableEq

structure Settings where
  shards : Nat := 64
  maxBatch : Nat := 65536
  maxValue : Nat := 16777216
  maxName : Nat := 65536
  feedCapacity : Nat := 1024
  listenAddress : String := "127.0.0.1:44540"
  deriving DecidableEq

namespace Settings

def limits (s : Settings) : Limits :=
  ⟨s.maxBatch, s.maxValue, s.maxName⟩

/-- A size that is missing from the environment, or is no number there, keeps its default. -/
def ofEnvironment (env : Environment) : Settings :=
  let defaults : Settings := {}
  { shards := (env.size? "COHERENCE_DIRECTORY_SHARDS").getD defaults.shards
    maxBatch := (env.size? "COHERENCE_MAX_BATCH_LEN").getD defaults.maxBatch
    maxValue := (env.size? "COHERENCE_MAX_VALUE_LEN").getD defaults.maxValue
    maxName := (env.size? "COHERENCE_MAX_NAME_LEN").getD defaults.maxName
    feedCapacity := (env.size? "COHERENCE_APPLIED_FEED_CAPACITY").getD defaults.feedCapacity
    listenAddress := (env.text? "COHERENCE_LISTEN_ADDR").getD defaults.listenAddress }

def maxLength : Nat := 0x7fffffff

/-- The greatest size there is. -/
def maxSize : Nat := 0xffffffffffffffff

/-- The limits by the names that messages give them. -/
def limitFields (s : Settings) : List (String × Nat) :=
  [("max_batch_len", s.maxBatch), ("max_value_len", s.maxValue), ("max_name_len", s.maxName)]

def sizeFields (s : Settings) : List (String × Nat) :=
  ("directory_shards", s.shards) :: s.limitFields ++ [("applied_feed_capacity", s.feedCapacity)]

def checkSize (bad : Nat → Bool) (reason : String) (field : String × Nat) :
    Except SettingError Unit :=
  if bad field.2 then .error (.invalidValue field.1 field.2.repr reason) else .ok ()

def check (s : Settings) : Except SettingError Unit := do
  s.sizeFields.forM (checkSize (· = 0) "must be greater than zero")
  s.limitFields.forM (checkSize (maxLength < ·) "must fit in a 32-bit length prefix")
  if (Text.strip s.listenAddress.toList).isEmpty then
    throw (.invalidValue "listen_addr" s.listenAddress "must not be empty")

end Settings

end CacheCoherence
