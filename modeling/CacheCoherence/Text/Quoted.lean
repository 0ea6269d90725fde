import CacheCoherence.Text.Unprintable

/-!
Names in messages stand between double quotes. A quote and a backslash inside
are escaped, as is every character without a shape of its own, so that the end
of the name is where the first unescaped quote is.
-/

namespace CacheCoherence.Text

/-- A character by its code point, as a backslash, a letter u and lower-case digits in braces. -/
def codePointEscape (c : Char) : List Char :=
  ['\\', 'u', '\x7b'] ++ Nat.toDigits 16 c.toNat ++ ['\x7d']

def escapeChar (c : Char) : List Char :=
  if c = '"' then ['\\', '"']
  else if c = '\\' then ['\\', '\\']
  else if c = '\x00' then ['\\', '0']
  else if c = '\t' then ['\\', 't']
  else if c = '\n' then ['\\', 'n']
  else if c = '\r' then ['\\', 'r']
  else if isUnprintable c then codePointEscape c
  else [c]

def quoted (s : String) : String :=
  String.ofList ('"' :: s.toList.flatMap escapeChar ++ ['"'])

end CacheCoherence.Text
