/-!
Numbers written in decimal digits.
-/

namespace CacheCoherence.Text

def digitsValue (digits : List Char) : Nat :=
  digits.foldl (fun n d => n * 10 + (d.toNat - 48)) 0

/-- A number below 2^64: one or more ASCII digits after an optional plus sign. -/
def size? (text : List Char) : Option Nat :=
  let digits := match text with
    | '+' :: r => r
    | r => r
  if !digits.isEmpty && digits.all Char.isDigit && digitsValue digits < 0x10000000000000000 then
    some (digitsValue digits)
  else none

/-- Without one plus or minus sign at the beginning. -/
def unsigned : List Char → List Char
  | '+' :: r | '-' :: r => r
  | r => r

/-- Whether the text is a number with or without a fraction and an exponent, with digits on one side
of the point at least, or the name of infinity or of what is no number. -/
def isNumber (text : List Char) : Bool :=
  let digits (s : List Char) : Bool := !s.isEmpty && s.all Char.isDigit
  let isExponent : Char → Bool := fun c => c = 'e' || c = 'E'
  let number := unsigned text
  let mantissa := number.takeWhile (!isExponent ·)
  let exponent := number.dropWhile (!isExponent ·)
  let point := mantissa.span (· ≠ '.')
  ["inf", "infinity", "nan"].contains ((String.ofList number).map Char.toLower) ||
    digits (point.1 ++ point.2.drop 1) && (exponent.isEmpty || digits (unsigned (exponent.drop 1)))

end CacheCoherence.Text
