/-!
UTF-8. `decode` reads a sequence of octets as text; where that fails it reports
how many octets before the fault are sound, and the length of the longest
beginning of a character at the fault, or that the octets end inside one.
-/

namespace CacheCoherence.Text.Utf8

def encode (s : String) : List UInt8 :=
  s.toList.flatMap String.utf8EncodeChar

def size (s : String) : Nat :=
  s.utf8ByteSize

structure Fault where
  /-- Octets that are sound before the fault. -/
  index : Nat
  /-- Octets of the faulty beginning of a character; none if the input ends inside a character. -/
  length : Option Nat
  deriving DecidableEq

def Fault.message (f : Fault) : String :=
  match f.length with
  | some n => s!"invalid utf-8 sequence of {n} bytes from index {f.index}"
  | none => s!"incomplete utf-8 byte sequence from index {f.index}"

inductive Head where
  | char (c : Char) (width : Nat)
  | invalid (width : Nat)
  | incomplete

def isTail (b : UInt8) : Bool :=
  0x80 ≤ b && b ≤ 0xBF

/-- Whether `b` may follow the first octet `a` of a character of three or four octets. The
narrower ranges leave out longer spellings of shorter characters, surrogates, and numbers beyond
the last code point. -/
def isSecond (a b : UInt8) : Bool :=
  if a = 0xE0 then 0xA0 ≤ b && b ≤ 0xBF
  else if a = 0xED then 0x80 ≤ b && b ≤ 0x9F
  else if a = 0xF0 then 0x90 ≤ b && b ≤ 0xBF
  else if a = 0xF4 then 0x80 ≤ b && b ≤ 0x8F
  else isTail b

def headTwo (a : UInt8) : List UInt8 → Head
  | [] => .incomplete
  | b :: _ =>
    if isTail b then .char (Char.ofNat ((a.toNat - 0xC0) * 64 + (b.toNat - 0x80))) 2
    else .invalid 1

def headThree (a : UInt8) : List UInt8 → Head
  | [] => .incomplete
  | b :: r =>
    if isSecond a b then
      match r with
      | [] => .incomplete
      | c :: _ =>
        if isTail c then
          .char (Char.ofNat
            ((a.toNat - 0xE0) * 4096 + (b.toNat - 0x80) * 64 + (c.toNat - 0x80))) 3
        else .invalid 2
    else .invalid 1

def headFour (a : UInt8) : List UInt8 → Head
  | [] => .incomplete
  | b :: r =>
    if isSecond a b then
      match r with
      | [] => .incomplete
      | c :: r =>
        if isTail c then
          match r with
          | [] => .incomplete
          | d :: _ =>
            if isTail d then
              .char (Char.ofNat ((a.toNat - 0xF0) * 262144 + (b.toNat - 0x80) * 4096 +
                (c.toNat - 0x80) * 64 + (d.toNat - 0x80))) 4
            else .invalid 3
        else .invalid 2
    else .invalid 1

def head (a : UInt8) (rest : List UInt8) : Head :=
  if a < 0x80 then .char (Char.ofNat a.toNat) 1
  else if 0xC2 ≤ a && a ≤ 0xDF then headTwo a rest
  else if 0xE0 ≤ a && a ≤ 0xEF then headThree a rest
  else if 0xF0 ≤ a && a ≤ 0xF4 then headFour a rest
  else .invalid 1

/-- Reads characters, `skip` octets after which the next one begins, `index` octets from the
start of the text. -/
def decodeFrom (index skip : Nat) (read : List Char) : List UInt8 → Except Fault (List Char)
  | [] => .ok read.reverse
  | b :: r =>
    match skip with
    | k + 1 => decodeFrom (index + 1) k read r
    | 0 =>
      match head b r with
      | .char c width => decodeFrom (index + 1) (width - 1) (c :: read) r
      | .invalid n => .error ⟨index, some n⟩
      | .incomplete => .error ⟨index, none⟩

def decode (bytes : List UInt8) : Except Fault String :=
  (decodeFrom 0 0 [] bytes).map String.ofList

end CacheCoherence.Text.Utf8
