import CacheCoherence.Frame.Field

/-!
A batch of writes that take effect together. A frame carries it as four arrays,
two for the objects and two for the bindings; an absent object value and a name
value of -1 stand for removal.
-/

namespace CacheCoherence

structure ObjectWrite where
  oid : ObjectId
  /-- The new value, or none to remove the object. -/
  value : Option (List UInt8)
  deriving DecidableEq

structure BindingWrite where
  name : String
  /-- The object to bind the name to, or none to remove the binding. -/
  target : Option ObjectId
  deriving DecidableEq

structure Batch where
  objects : List ObjectWrite := []
  bindings : List BindingWrite := []
  deriving DecidableEq

structure BatchArrays where
  oids : List Int64
  oidValues : List (Option (List UInt8))
  names : List (Option String)
  nameValues : List Int64
  deriving DecidableEq

namespace Batch

def store (b : Batch) (oid : ObjectId) (value : List UInt8) : Batch :=
  { b with objects := b.objects ++ [⟨oid, some value⟩] }

def remove (b : Batch) (oid : ObjectId) : Batch :=
  { b with objects := b.objects ++ [⟨oid, none⟩] }

def bind (b : Batch) (name : String) (oid : ObjectId) : Batch :=
  { b with bindings := b.bindings ++ [⟨name, some oid⟩] }

def unbind (b : Batch) (name : String) : Batch :=
  { b with bindings := b.bindings ++ [⟨name, none⟩] }

def isEmpty (b : Batch) : Bool :=
  b.objects.isEmpty && b.bindings.isEmpty

def keys (b : Batch) : List Key :=
  b.objects.map (fun w => .object w.oid) ++ b.bindings.map (fun w => .binding (.name w.name))

def toArrays (b : Batch) : BatchArrays where
  oids := b.objects.map fun w => w.oid.toInt64
  oidValues := b.objects.map fun w => w.value
  names := b.bindings.map fun w => some w.name
  nameValues := b.bindings.map fun w =>
    match w.target with
    | some oid => oid.toInt64
    | none => -1

def checkLengths (leftField : String) (left : Nat) (rightField : String) (right : Nat) :
    Except InputError Unit :=
  if left = right then .ok () else .error (.lengthMismatch leftField left rightField right)

def objectWrite (raw : Int64) (value : Option (List UInt8)) : Except InputError ObjectWrite := do
  return ⟨← ObjectId.ofInt64 raw, value⟩

def bindingWrite (name : Option String) (raw : Int64) : Except InputError BindingWrite :=
  match name with
  | none => .error (.invalidValue "names" "the upper sentinel cannot be bound")
  | some name =>
    if raw = -1 then .ok ⟨name, none⟩
    else
      match ObjectId.ofInt64? raw with
      | some oid => .ok ⟨name, some oid⟩
      | none => .error (.negativeId "name_values" raw)

/-- The batch that the arrays carry. Lengths are compared before any item is looked at, and
items are looked at in order, objects first. -/
def ofArrays (a : BatchArrays) : Except InputError Batch := do
  checkLengths "oids" a.oids.length "oid_values" a.oidValues.length
  checkLengths "names" a.names.length "name_values" a.nameValues.length
  let objects ← (a.oids.zip a.oidValues).mapM fun p => objectWrite p.1 p.2
  let bindings ← (a.names.zip a.nameValues).mapM fun p => bindingWrite p.1 p.2
  return ⟨objects, bindings⟩

end Batch

end CacheCoherence
