/-!
Identifiers of nodes and of stored objects. Both travel as signed 64-bit words
and are never negative, so an identifier is a number below 2^63.
-/

namespace CacheCoherence

structure NodeId where
  value : Nat
  value_lt : value < 0x8000000000000000
  deriving DecidableEq

structure ObjectId where
  value : Nat
  value_lt : value < 0x8000000000000000
  deriving DecidableEq

/-- Numerals wrap around at the bound, as those of `Fin` do. -/
instance (n : Nat) : OfNat NodeId n := ⟨⟨n % 0x8000000000000000, Nat.mod_lt n (by decide)⟩⟩

instance (n : Nat) : OfNat ObjectId n := ⟨⟨n % 0x8000000000000000, Nat.mod_lt n (by decide)⟩⟩

theorem toNat_lt_of_nonneg (raw : Int64) : raw.toInt.toNat < 0x8000000000000000 := by
  have := raw.toInt_lt
  omega

namespace NodeId

def ofInt64? (raw : Int64) : Option NodeId :=
  if 0 ≤ raw.toInt then some ⟨raw.toInt.toNat, toNat_lt_of_nonneg raw⟩ else none

def toInt64 (n : NodeId) : Int64 := Int64.ofNat n.value

instance : Ord NodeId := ⟨fun a b => compare a.value b.value⟩

instance : Std.TransOrd NodeId where
  eq_swap := Std.OrientedOrd.eq_swap (α := Nat)
  isLE_trans := Std.TransOrd.isLE_trans (α := Nat)

instance : Std.LawfulEqOrd NodeId where
  compare_self := Std.compare_self (α := Nat)
  eq_of_compare {a b} h := by
    cases a; cases b
    simpa using Std.LawfulEqOrd.eq_of_compare (α := Nat) h

instance : ToString NodeId := ⟨fun n => n.value.repr⟩

end NodeId

namespace ObjectId

def ofInt64? (raw : Int64) : Option ObjectId :=
  if 0 ≤ raw.toInt then some ⟨raw.toInt.toNat, toNat_lt_of_nonneg raw⟩ else none

def toInt64 (o : ObjectId) : Int64 := Int64.ofNat o.value

instance : Ord ObjectId := ⟨fun a b => compare a.value b.value⟩

instance : Std.TransOrd ObjectId where
  eq_swap := Std.OrientedOrd.eq_swap (α := Nat)
  isLE_trans := Std.TransOrd.isLE_trans (α := Nat)

instance : Std.LawfulEqOrd ObjectId where
  compare_self := Std.compare_self (α := Nat)
  eq_of_compare {a b} h := by
    cases a; cases b
    simpa using Std.LawfulEqOrd.eq_of_compare (α := Nat) h

instance : ToString ObjectId := ⟨fun o => o.value.repr⟩

end ObjectId

end CacheCoherence
