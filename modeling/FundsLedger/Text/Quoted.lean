import FundsLedger.Text.Unprintable

/-!
# Quoted text in messages

A value shown in a message stands between double quotes, with everything a reader could not see
written by name or by number.
-/

namespace FundsLedger.Text

/-- The lower-case hexadecimal digits of `n`, without leading zeros. -/
def hexNumber (n : Nat) : List Char :=
  Nat.toDigits 16 n

def quotedChar (c : Char) : List Char :=
  match c with
  | '"' => ['\\', '"']
  | '\\' => ['\\', '\\']
  | '\n' => ['\\', 'n']
  | '\t' => ['\\', 't']
  | '\r' => ['\\', 'r']
  | c =>
    if c.toNat = 0 then ['\\', '0']
    else if isUnprintable c then "\\u\x7b".toList ++ hexNumber c.toNat ++ ['}']
    else [c]

/-- The text between double quotes, with what cannot be seen spelled out. -/
def quoted (s : String) : String :=
  String.ofList ('"' :: s.toList.flatMap quotedChar ++ ['"'])

end FundsLedger.Text
