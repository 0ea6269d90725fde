import CacheCoherence.Text.Regex.Symbol

/-!
Sets of characters between square brackets: members, ranges, named sets, sets
within sets, and operators between them. A set that would hold octets beyond
ASCII is refused, and so is a member that would need a table of cases.
-/

namespace CacheCoherence.Text.Regex

/-- The depth of what consists of parts with these depths; a single part is taken as it is. -/
def nested : List Nat → Nat
  | [] => 0
  | [depth] => depth
  | depths => depths.foldl max 0 + 1

def Symbol.code? : Symbol → Option Nat
  | .literal code | .octet code => some code
  | .kind _ | .anchor | .wordEdge => none

def Symbol.isMember (f : Flags) : Symbol → Bool
  | .literal code | .octet code => if f.unicode then !f.caseless else code < 0x80
  | .kind negated => !f.unicode && !negated
  | .anchor | .wordEdge => false

def member (f : Flags) : List Char → Option (Symbol × List Char)
  | [] => none
  | '\\' :: r => escaped f r
  | c :: r => some (.literal c.toNat, r)

/-- The character that decides about the hyphen before it: the first that is no blank, where blanks
do not count, but of a comment its first character that is no blank. -/
def afterHyphen? (f : Flags) (cs : List Char) : Option Char :=
  if f.spaced then
    match cs.dropWhile isBlank with
    | '#' :: r => (r.dropWhile isBlank).head?
    | r => r.head?
  else cs.head?

/-- What follows a member, or a range of characters in ascending order. A hyphen before the end of
the set or before another hyphen makes no range. -/
def afterMember? (f : Flags) (cs : List Char) : Option (List Char) := do
  let (first, rest) ← member f cs
  if !first.isMember f then none
  else
    match skip f false rest with
    | [] => none
    | '-' :: r =>
      if [some ']', some '-'].contains (afterHyphen? f r) then some ('-' :: r)
      else
        let (last, rest) ← member f (skip f false r)
        if last.isMember f && (← first.code?) ≤ (← last.code?) then some rest else none
    | rest => some rest

structure CharSet where
  members : List Nat := []
  /-- The depth of what stands before the operator. -/
  left : Option Nat := none

namespace CharSet

def add (s : CharSet) (depth : Nat) : CharSet :=
  { s with members := depth :: s.members }

def depth (s : CharSet) : Nat :=
  match s.left with
  | none => nested s.members
  | some left => max left (nested s.members) + 1

/-- Counts the hyphens at the beginning, with blanks and comments between them where those do not
count, and gives what follows. -/
def hyphens (f : Flags) (inComment : Bool) (count : Nat) : List Char → Nat × List Char
  | [] => (count, [])
  | c :: r =>
    if inComment then hyphens f (c ≠ '\n') count r
    else if c = '-' then hyphens f false (count + 1) r
    else if f.spaced && isBlank c then hyphens f false count r
    else if f.spaced && c = '#' then hyphens f true count r
    else (count, c :: r)

/-- The set behind an opening bracket, and what follows. Hyphens at the beginning are members, and
so is a closing bracket. No set of octets is negated. -/
def begin? (f : Flags) (cs : List Char) : Option (CharSet × List Char) :=
  let (negated, cs) := match skip f false cs with
    | '^' :: r => (true, r)
    | cs => (false, cs)
  let (members, rest) := match hyphens f false 0 cs with
    | (0, ']' :: r) => (1, r)
    | counted => counted
  if (negated && !f.unicode) || (members ≠ 0 && !(Symbol.literal '-'.toNat).isMember f) then none
  else some ({ members := List.replicate members 0 }, rest)

def names : List String :=
  ["alnum", "alpha", "ascii", "blank", "cntrl", "digit", "graph", "lower", "print", "punct", "space",
    "upper", "word", "xdigit"]

/-- Whether a named set is negated, and what follows it; its opening bracket has been read. -/
def named? : List Char → Option (Bool × List Char)
  | ':' :: r =>
    let (negated, r) := match r with
      | '^' :: r => (true, r)
      | r => (false, r)
    match r.dropWhile (· ≠ ':') with
    | ':' :: ']' :: rest =>
      if names.contains (String.ofList (r.takeWhile (· ≠ ':'))) then some (negated, rest) else none
    | _ => none
  | _ => none

/-- Reads on in a set and the sets around it. -/
def readWithin (f : Flags) : Nat → List CharSet → CharSet → List Char → Option (Nat × List Char)
  | 0, _, _, _ => none
  | fuel + 1, outer, s, cs =>
    match skip f false cs with
    | [] => none
    | '[' :: r =>
      match named? r with
      | some (negated, rest) =>
        if (if f.unicode then !f.caseless else !negated) then
          readWithin f fuel outer (s.add 0) rest
        else none
      | none => do
        let (inner, rest) ← begin? f r
        readWithin f fuel (s :: outer) inner rest
    | ']' :: r =>
      match outer with
      | [] => some (s.depth + 1, r)
      | o :: outer => readWithin f fuel outer (o.add (s.depth + 1)) r
    | '&' :: '&' :: r | '-' :: '-' :: r | '~' :: '~' :: r =>
      readWithin f fuel outer { left := some s.depth } r
    | cs => do readWithin f fuel outer (s.add 0) (← afterMember? f cs)

def read (f : Flags) (cs : List Char) : Option (Nat × List Char) := do
  let (s, rest) ← begin? f cs
  readWithin f (rest.length + 1) [] s rest

end CharSet

end CacheCoherence.Text.Regex
