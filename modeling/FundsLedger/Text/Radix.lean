/-!
# Digits of any radix

Numerals in radix up to sixteen, with letters of either case for the digits from ten on.
-/

namespace FundsLedger.Text

def radixDigits : List Char :=
  "0123456789abcdef".toList

def radixDigit (n : Nat) : Char :=
  radixDigits.getD n '0'

/-- What a digit counts in a radix, in either case. -/
def radixDigit? (radix : Nat) (c : Char) : Option Nat :=
  (radixDigits.findIdx? (· == c.toLower)).filter (· < radix)

/-- The number that digits denote, if all of them are digits of the radix. -/
def radixValue? (radix : Nat) (digits : List Char) : Option Nat :=
  digits.foldlM (fun n c => (radixDigit? radix c).map (n * radix + ·)) 0

/-- The last `width` hexadecimal digits of `n`, most significant first. -/
def hexDigits : (width : Nat) → (n : Nat) → List Char
  | 0, _ => []
  | width + 1, n => hexDigits width (n / 16) ++ [radixDigit (n % 16)]

end FundsLedger.Text
