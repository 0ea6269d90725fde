/-!
JSON values, and the shapes that types take in them. A choice is an object whose
one member is named for the case and holds its content; a case without content
is its name as a string, and is read as a member holding null as well. A record
is an object with a member for each field, or an array of its fields in order.
-/

namespace CacheCoherence.Json

inductive Value where
  | null
  | bool (b : Bool)
  | integer (n : Int)
  /-- A number that is not written as an integer. -/
  | fraction
  | string (s : String)
  | array (items : List Value)
  | object (members : List (String × Value))

namespace Value

def null? : Value → Option Unit
  | .null => some ()
  | _ => none

def string? : Value → Option String
  | .string s => some s
  | _ => none

def array? : Value → Option (List Value)
  | .array items => some items
  | _ => none

/-- A number that fits a signed 64-bit word. -/
def word? : Value → Option Int64
  | .integer n =>
    if -0x8000000000000000 ≤ n ∧ n < 0x8000000000000000 then some (Int64.ofInt n) else none
  | _ => none

/-- A number that fits an unsigned 64-bit word. -/
def size? : Value → Option Nat
  | .integer n => if 0 ≤ n ∧ n < 0x10000000000000000 then some n.toNat else none
  | _ => none

/-- The name of a case and its content, which a bare name does not have. -/
def case? : Value → Option (String × Option Value)
  | .string name => some (name, none)
  | .object [(name, content)] => some (name, some content)
  | _ => none

/-- Whether the content fits a case that has none. -/
def isEmptyContent : Option Value → Bool
  | none => true
  | some .null => true
  | some _ => false

/-- The name of a case that has no content. -/
def bare? (v : Value) : Option String := do
  let c ← v.case?
  if isEmptyContent c.2 then some c.1 else none

def caseOf (name : String) (content : Value) : Value :=
  .object [(name, content)]

/-- The content of the one member of that name. -/
def member? (name : String) (members : List (String × Value)) : Option Value :=
  match members.filter (·.1 = name) with
  | [m] => some m.2
  | _ => none

/-- The fields of a record in order. An object may have further members, but no field twice. -/
def record? (names : List String) : Value → Option (List Value)
  | .object members => names.mapM fun name => member? name members
  | .array items => if items.length = names.length then some items else none
  | _ => none

end Value

end CacheCoherence.Json
