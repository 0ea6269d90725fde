import CacheCoherence.Frame.Reader

/-!
The fields that frames are made of. A long is eight octets. A blob and a string
are their length in four octets and then their octets, the length -1 standing
for an absent one; an array is its count in four octets and then its items.
-/

namespace CacheCoherence.Frame

def writeLong (v : Int64) : List UInt8 :=
  ofNat 8 v.toUInt64.toNat

def writeLength (n : Nat) : List UInt8 :=
  ofNat 4 n

/-- The four octets of the length -1. -/
def absent : List UInt8 := [0xFF, 0xFF, 0xFF, 0xFF]

def writeBlob : Option (List UInt8) → List UInt8
  | some bytes => writeLength bytes.length ++ bytes
  | none => absent

def writeString (s : Option String) : List UInt8 :=
  writeBlob (s.map Text.Utf8.encode)

def writeArray {α : Type} (item : α → List UInt8) (items : List α) : List UInt8 :=
  writeLength items.length ++ items.flatMap item

def writeLongs : List Int64 → List UInt8 := writeArray writeLong

def writeBlobs : List (Option (List UInt8)) → List UInt8 := writeArray writeBlob

def writeStrings : List (Option String) → List UInt8 := writeArray writeString

inductive Field where
  | long (v : Int64)
  | longs (vs : List Int64)
  | blob (v : Option (List UInt8))
  | blobs (vs : List (Option (List UInt8)))
  | string (v : Option String)
  | strings (vs : List (Option String))
  deriving DecidableEq

inductive FieldType where
  | long
  | longs
  | blob
  | blobs
  | string
  | strings
  deriving DecidableEq

namespace Field

def type : Field → FieldType
  | .long _ => .long
  | .longs _ => .longs
  | .blob _ => .blob
  | .blobs _ => .blobs
  | .string _ => .string
  | .strings _ => .strings

def write : Field → List UInt8
  | .long v => writeLong v
  | .longs vs => writeLongs vs
  | .blob v => writeBlob v
  | .blobs vs => writeBlobs vs
  | .string v => writeString v
  | .strings vs => writeStrings vs

end Field

def FieldType.read (limits : Limits) (context : String) : FieldType → Reader Field
  | .long => Field.long <$> Reader.long context
  | .longs => Field.longs <$> Reader.longs limits context
  | .blob => Field.blob <$> Reader.blob limits context
  | .blobs => Field.blobs <$> Reader.blobs limits context
  | .string => Field.string <$> Reader.string limits context
  | .strings => Field.strings <$> Reader.strings limits context

end CacheCoherence.Frame
