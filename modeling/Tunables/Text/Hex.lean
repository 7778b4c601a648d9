import Tunables.Text.DecimalDigit

/-!
# Hexadecimal digits

Digits are written in lower case and read in either case.
-/

namespace Tunables.Text

/-- The hexadecimal digit of a number below sixteen. -/
def hexDigit (n : Nat) : Char :=
  if n < 10 then Char.ofNat ('0'.toNat + n) else Char.ofNat ('a'.toNat + (n - 10))

/-- The last `width` hexadecimal digits of a number, the leading one first. -/
def hexDigits : (width : Nat) → Nat → List Char
  | 0, _ => []
  | width + 1, n => hexDigits width (n / 16) ++ [hexDigit (n % 16)]

def hexValue? (c : Char) : Option Nat :=
  if isPlainDigit c then some (c.toNat - '0'.toNat)
  else if 'a' ≤ c && c ≤ 'f' then some (c.toNat - 'a'.toNat + 10)
  else if 'A' ≤ c && c ≤ 'F' then some (c.toNat - 'A'.toNat + 10)
  else none

/-- The number that hexadecimal digits write after the digits already read. -/
def readHexAfter (value : Nat) : List Char → Option Nat
  | [] => some value
  | c :: rest => (hexValue? c).bind fun digit => readHexAfter (16 * value + digit) rest

def readHex (digits : List Char) : Option Nat :=
  readHexAfter 0 digits

end Tunables.Text
