import CacheCoherence.Text.Blank

/-!
The smallest parts of a regular expression: single characters, and what a
backslash makes of the characters after it. There are no tables of Unicode
properties, so whatever would need one is refused.
-/

namespace CacheCoherence.Text.Regex

/-- How the characters of an expression are taken. -/
structure Flags where
  caseless : Bool := false
  /-- Whether characters are meant, or single octets. -/
  unicode : Bool := true
  /-- Whether blanks and comments are left out. -/
  spaced : Bool := false

inductive Symbol where
  | literal (code : Nat)
  /-- A character by two hexadecimal digits; the octet where octets are meant. -/
  | octet (code : Nat)
  /-- Digits, blanks or word characters, or all but them. -/
  | kind (negated : Bool)
  | anchor
  | wordEdge

/-- Leaves out blanks and comments, where they do not count. -/
def skip (f : Flags) (inComment : Bool) : List Char → List Char
  | [] => []
  | c :: r =>
    if !f.spaced then c :: r
    else if inComment then skip f (c ≠ '\n') r
    else if isBlank c then skip f false r
    else if c = '#' then skip f true r
    else c :: r

def hexDigit? (c : Char) : Option Nat :=
  if c.isDigit then some (c.toNat - 48)
  else if 'a' ≤ c && c ≤ 'f' then some (c.toNat - 87)
  else if 'A' ≤ c && c ≤ 'F' then some (c.toNat - 55)
  else none

/-- A code point of so many more digits, behind those that make `value`. -/
def codePoint (f : Flags) (value : Nat) : Nat → List Char → Option (Nat × List Char)
  | 0, cs => if value.isValidChar then some (value, cs) else none
  | n + 1, cs =>
    match skip f false cs with
    | [] => none
    | c :: r => do codePoint f (value * 16 + (← hexDigit? c)) n r

/-- What the characters behind a backslash mean, and what follows them. A letter or a digit without
a meaning is refused, and all else but ASCII. -/
def escaped (f : Flags) : List Char → Option (Symbol × List Char)
  | [] => none
  | c :: r =>
    match c with
    | 'x' => (codePoint f 0 2 r).map fun (code, rest) => (.octet code, rest)
    | 'u' => (codePoint f 0 4 r).map fun (code, rest) => (.literal code, rest)
    | 'U' => (codePoint f 0 8 r).map fun (code, rest) => (.literal code, rest)
    | 'd' | 's' | 'w' => some (.kind false, r)
    | 'D' | 'S' | 'W' => some (.kind true, r)
    | 'A' | 'z' => some (.anchor, r)
    | 'b' | 'B' | '<' | '>' => some (.wordEdge, r)
    | 'a' => some (.literal 0x07, r)
    | 't' => some (.literal 0x09, r)
    | 'n' => some (.literal 0x0A, r)
    | 'v' => some (.literal 0x0B, r)
    | 'f' => some (.literal 0x0C, r)
    | 'r' => some (.literal 0x0D, r)
    | c => if c.toNat < 0x80 && !c.isAlphanum then some (.literal c.toNat, r) else none

end CacheCoherence.Text.Regex
