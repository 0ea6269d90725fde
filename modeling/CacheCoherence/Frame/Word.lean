/-!
Numbers as octets, most significant first. A width of `w` octets holds the
numbers below `bound w`; writing takes the number modulo that bound, and reading
undoes writing below it.
-/

namespace CacheCoherence.Frame

def ofNat (width n : Nat) : List UInt8 :=
  match width with
  | 0 => []
  | w + 1 => ofNat w (n / 256) ++ [UInt8.ofNat n]

/-- The number of words of so many octets. -/
def bound : Nat → Nat
  | 0 => 1
  | w + 1 => 256 * bound w

def toNat (bytes : List UInt8) : Nat :=
  bytes.foldl (fun n b => n * 256 + b.toNat) 0

theorem length_ofNat (w n : Nat) : (ofNat w n).length = w := by
  induction w generalizing n with
  | zero => rfl
  | succ w ih => simp [ofNat, ih]

theorem toNat_concat (bytes : List UInt8) (b : UInt8) :
    toNat (bytes ++ [b]) = toNat bytes * 256 + b.toNat := by
  simp [toNat]

theorem toNat_ofNat (w n : Nat) : toNat (ofNat w n) = n % bound w := by
  induction w generalizing n with
  | zero => exact (Nat.mod_one n).symm
  | succ w ih =>
    rw [ofNat, toNat_concat, ih, bound, Nat.mod_mul, UInt8.toNat_ofNat']
    omega

/-- The two's complement reading of a number of `width` octets. -/
def signed (width n : Nat) : Int :=
  if n < bound width / 2 then n else (n : Int) - bound width

end CacheCoherence.Frame
