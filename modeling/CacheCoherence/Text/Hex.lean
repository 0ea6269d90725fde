/-!
Octets as pairs of lower-case hexadecimal digits.
-/

namespace CacheCoherence.Text

def hexDigit (n : Nat) : Char :=
  if n < 10 then Char.ofNat (48 + n) else Char.ofNat (87 + n)

def hexPair (b : UInt8) : List Char :=
  [hexDigit (b.toNat / 16), hexDigit (b.toNat % 16)]

def hex (bytes : List UInt8) : String :=
  String.ofList (bytes.flatMap hexPair)

def hexValue? (digit : UInt8) : Option UInt8 :=
  if 48 ≤ digit ∧ digit ≤ 57 then some (digit - 48)
  else if 97 ≤ digit ∧ digit ≤ 102 then some (digit - 87)
  else none

/-- Reads the first `n` pairs of digits, which stand before octets already read. -/
def ofPairs (digits : ByteArray) : Nat → List UInt8 → Option (List UInt8)
  | 0, read => some read
  | n + 1, read =>
    match digits[2 * n]? >>= hexValue?, digits[2 * n + 1]? >>= hexValue? with
    | some x, some y => ofPairs digits n ((x * 16 + y) :: read)
    | _, _ => none

def ofHex? (s : String) : Option (List UInt8) :=
  let digits := s.toUTF8
  if digits.size % 2 = 0 then ofPairs digits (digits.size / 2) [] else none

end CacheCoherence.Text
