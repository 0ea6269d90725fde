/-!
Octets on their way, in the order of their arrival. They come in pieces and are
read off the front. Neither taking in a piece nor counting looks at the octets
that are there already.
-/

namespace CacheCoherence

structure Buffer where
  front : List UInt8 := []
  /-- Pieces behind the front, the latest first. -/
  back : List (List UInt8) := []
  size : Nat := 0
  size_eq : size = (front ++ back.reverse.flatten).length := by rfl
  deriving DecidableEq

namespace Buffer

def toList (b : Buffer) : List UInt8 :=
  if b.back.isEmpty then b.front else b.front ++ b.back.reverse.flatten

def ofList (bytes : List UInt8) : Buffer where
  front := bytes
  size := bytes.length
  size_eq := by simp

def isEmpty (b : Buffer) : Bool :=
  b.size = 0

def append (b : Buffer) (piece : List UInt8) : Buffer where
  front := b.front
  back := piece :: b.back
  size := b.size + piece.length
  size_eq := by simp [b.size_eq, Nat.add_assoc]

theorem toList_eq (b : Buffer) : b.toList = b.front ++ b.back.reverse.flatten := by
  cases h : b.back <;> simp [toList, h]

theorem length_toList (b : Buffer) : b.toList.length = b.size := by
  rw [toList_eq, b.size_eq]

def drop (b : Buffer) (n : Nat) : Buffer where
  front := b.toList.drop n
  size := b.size - n
  size_eq := by simp [length_toList]

@[simp] theorem toList_empty : ({} : Buffer).toList = [] := rfl

@[simp] theorem toList_ofList (bytes : List UInt8) : (ofList bytes).toList = bytes := by
  simp [toList_eq, ofList]

@[simp] theorem toList_append (b : Buffer) (piece : List UInt8) :
    (b.append piece).toList = b.toList ++ piece := by
  simp [toList_eq, append]

@[simp] theorem toList_drop (b : Buffer) (n : Nat) : (b.drop n).toList = b.toList.drop n := by
  simp [toList_eq, drop]

theorem isEmpty_iff (b : Buffer) : b.isEmpty = true ↔ b.toList = [] := by
  simp [isEmpty, ← length_toList]

end Buffer

end CacheCoherence
