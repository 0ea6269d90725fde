import CacheCoherence.Text.Blank
import CacheCoherence.Text.Decimal
import CacheCoherence.Text.Utf8

/-!
The variables that a process is started with. Their values are octets; one that
is not text counts as absent.
-/

namespace CacheCoherence

structure Environment where
  entries : List (String × List UInt8)

namespace Environment

def text? (env : Environment) (name : String) : Option String :=
  match env.entries.lookup name with
  | some value => (Text.Utf8.decode value).toOption
  | none => none

/-- A number below 2^64, between blanks. -/
def size? (env : Environment) (name : String) : Option Nat :=
  (env.text? name).bind fun s => Text.size? (Text.strip s.toList)

end Environment

end CacheCoherence
