import CacheCoherence.Text.Alphabetic
import CacheCoherence.Text.Regex.CharSet

/-!
Which texts are regular expressions. A count of repetitions is not among their
means: an opening brace is always refused. An expression is usable only if it
has no edge of words, which would need a table of Unicode properties.
-/

namespace CacheCoherence.Text.Regex

structure Part where
  depth : Nat := 0
  repeatable : Bool := true

/-- What has been read of an expression, or of a group. -/
structure Level where
  flags : Flags := {}
  /-- The parts of the sequence that is being read, the latest first. -/
  parts : List Part := []
  /-- The depths of the alternatives before that sequence. -/
  alternatives : List Nat := []

namespace Level

def sequenceDepth (l : Level) : Nat :=
  nested (l.parts.map Part.depth)

def depth (l : Level) : Nat :=
  nested (l.sequenceDepth :: l.alternatives)

def add (l : Level) (p : Part) : Level :=
  { l with parts := p :: l.parts }

def repeated? (l : Level) : Option Level :=
  match l.parts with
  | ⟨depth, true⟩ :: parts => some { l with parts := ⟨depth + 1, true⟩ :: parts }
  | _ => none

end Level

structure State where
  level : Level := {}
  /-- The levels around the groups that are open, the innermost first. -/
  outer : List Level := []
  names : List (List Char) := []
  hasWordEdge : Bool := false

namespace State

def add (s : State) (p : Part) : State :=
  { s with level := s.level.add p }

/-- Adds a symbol, unless it would need a table or would be an octet beyond ASCII. Characters beyond
ASCII are not refused where octets are meant: they are the octets of their encoding. -/
def addSymbol (s : State) (symbol : Symbol) : Option State :=
  let f := s.level.flags
  match symbol with
  | .literal _ => if !f.unicode || !f.caseless then some (s.add {}) else none
  | .octet code => if (if f.unicode then !f.caseless else code < 0x80) then some (s.add {}) else none
  | .kind negated => if !f.unicode && !negated then some (s.add {}) else none
  | .anchor => some (s.add {})
  | .wordEdge => some { s.add {} with hasWordEdge := s.hasWordEdge || f.unicode }

def openGroup (s : State) (f : Flags) : State :=
  { s with level := { flags := f }, outer := s.level :: s.outer }

def closeGroup? (s : State) : Option State :=
  match s.outer with
  | [] => none
  | l :: outer => some { s with level := l.add ⟨s.level.depth + 1, true⟩, outer }

def nextAlternative (s : State) : State :=
  { s with level := { s.level with
    parts := []
    alternatives := s.level.sequenceDepth :: s.level.alternatives } }

def name? (s : State) (cs : List Char) : Option (State × List Char) :=
  let name := cs.takeWhile (· ≠ '>')
  let isInner (c : Char) : Bool := c = '_' || c = '.' || c = '[' || c = ']' || isAlphanumeric c
  match name, cs.dropWhile (· ≠ '>') with
  | c :: inner, _ :: rest =>
    if (c = '_' || isAlphabetic c) && inner.all isInner && !s.names.contains name then
      some ({ s with names := name :: s.names }.openGroup s.level.flags, rest)
    else none
  | _, _ => none

end State

def setFlag (f : Flags) (c : Char) (value : Bool) : Option Flags :=
  match c with
  | 'i' => some { f with caseless := value }
  | 'u' => some { f with unicode := value }
  | 'x' => some { f with spaced := value }
  | 'm' | 's' | 'U' | 'R' => some f
  | _ => none

/-- Reads flags, each at most once, up to the end of the group or the colon before its contents.
Those behind a hyphen, which is not the last, are taken off. -/
def readFlags (f : Flags) (value : Bool) (seen : List Char) :
    List Char → Option (Flags × List Char × List Char)
  | [] => none
  | c :: r =>
    if c = ':' || c = ')' then if seen.head? = some '-' then none else some (f, seen, c :: r)
    else if seen.contains c then none
    else if c = '-' then readFlags f false (c :: seen) r
    else do readFlags (← setFlag f c value) value (c :: seen) r

/-- Reads what stands at the beginning of a group. There is no looking around. -/
def readGroup (s : State) (cs : List Char) : Option (State × List Char) :=
  match skip s.level.flags false cs with
  | '?' :: '=' :: _ | '?' :: '!' :: _ | '?' :: '<' :: '=' :: _ | '?' :: '<' :: '!' :: _ => none
  | '?' :: 'P' :: '<' :: r | '?' :: '<' :: r => s.name? r
  | '?' :: r => do
    let (f, seen, rest) ← readFlags s.level.flags true [] r
    match rest with
    | ':' :: r => some (s.openGroup f, r)
    | _ :: r =>
      if seen.isEmpty then none
      else some ({ s with level := { s.level.add ⟨0, false⟩ with flags := f } }, r)
    | [] => none
  | r => some (s.openGroup s.level.flags, r)

def readNext (s : State) (c : Char) (r : List Char) : Option (State × List Char) :=
  match c with
  | '(' => readGroup s r
  | ')' => s.closeGroup?.map (·, r)
  | '|' => some (s.nextAlternative, r)
  | '[' => (CharSet.read s.level.flags r).map fun (depth, rest) => (s.add ⟨depth, true⟩, rest)
  | '?' | '*' | '+' =>
    let rest := match r with
      | '?' :: r => r
      | r => r
    s.level.repeated?.map fun level => ({ s with level }, rest)
  | '{' => none
  | '.' => if s.level.flags.unicode then some (s.add {}, r) else none
  | '^' | '$' => some (s.add {}, r)
  | '\\' => do
    let (symbol, rest) ← escaped s.level.flags r
    return (← s.addSymbol symbol, rest)
  | c => (s.addSymbol (.literal c.toNat)).map (·, r)

def readFrom (s : State) : Nat → List Char → Option State
  | 0, _ => none
  | fuel + 1, cs =>
    match skip s.level.flags false cs with
    | [] => if s.outer.isEmpty then some s else none
    | c :: r => do
      let (s, rest) ← readNext s c r
      readFrom s fuel rest

def depthLimit : Nat := 250

inductive Fault where
  | malformed
  | wordEdge
  deriving DecidableEq

def Fault.message : Fault → String
  | .malformed => "error building NFA"
  | .wordEdge =>
    "unsupported regex feature for DFAs: cannot build DFAs for regexes with Unicode word " ++
      "boundaries; switch to ASCII word boundaries, or heuristically enable Unicode word " ++
      "boundaries or use a different regex engine"

def check (text : List Char) : Except Fault Unit :=
  match readFrom {} (text.length + 1) text with
  | some s =>
    if depthLimit < s.level.depth then .error .malformed
    else if s.hasWordEdge then .error .wordEdge
    else .ok ()
  | none => .error .malformed

end CacheCoherence.Text.Regex
