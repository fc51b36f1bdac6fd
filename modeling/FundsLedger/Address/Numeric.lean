import FundsLedger.Text.Radix
import FundsLedger.Text.Split

/-!
# Numeric addresses

An address of 32 bits is up to four numbers with points between them, each in one of three radices;
the last number fills what the others leave. An address of 128 bits is eight groups of hexadecimal
digits with colons between them, where two colons stand for any number of zero groups and the last
two groups may be written as an address of 32 bits in plain decimals.
-/

namespace FundsLedger.Address

open FundsLedger.Text

/-- The number that a part of an address of 32 bits denotes: hexadecimal after `0x`, octal after
another leading zero, else decimal. -/
def partValue? (s : List Char) : Option Nat :=
  match s with
  | [] => none
  | '0' :: 'x' :: digits => radixValue? 16 digits
  | '0' :: 'X' :: digits => radixValue? 16 digits
  | '0' :: c :: digits => radixValue? 8 (c :: digits)
  | digits => radixValue? 10 digits

/-- The parts between the points of a host name, without the empty one after a final point. -/
def hostParts (s : List Char) : List (List Char) :=
  let parts := pieces '.' s
  if parts.getLast? = some [] then parts.dropLast else parts

/-- Whether the last part of a host name looks like a number, so that the name has to be an
address. -/
def endsInNumber (s : List Char) : Bool :=
  match (hostParts s).getLast? with
  | none => false
  | some part =>
    (!part.isEmpty && part.all fun c => (radixDigit? 10 c).isSome) || (partValue? part).isSome

def fitShort (numbers : List Nat) : Bool :=
  match numbers.reverse with
  | [] => false
  | last :: others =>
    others.length ≤ 3 && others.all (· ≤ 255) && last < Nat.pow 256 (4 - others.length)

/-- Whether a text is an address of 32 bits. -/
def isShort (s : List Char) : Bool :=
  ((hostParts s).mapM partValue?).any fitShort

/-- Whether a text is a number up to 255 in decimal, without leading zeros. -/
def isOctet (s : List Char) : Bool :=
  (s = ['0'] || s.head? ≠ some '0') && !s.isEmpty && (radixValue? 10 s).any (· ≤ 255)

/-- Whether a text is four plain numbers with points between them. -/
def isDotted (s : List Char) : Bool :=
  let parts := pieces '.' s
  parts.length = 4 && parts.all isOctet

/-- Whether a text is one to four hexadecimal digits. -/
def isGroup (s : List Char) : Bool :=
  !s.isEmpty && s.length ≤ 4 && (radixValue? 16 s).isSome

/-- How many groups the given texts fill. The last may fill two if the address ends with it. -/
def groupCount (atEnd : Bool) : List (List Char) → Option Nat
  | [] => some 0
  | [g] => if isGroup g then some 1 else if atEnd && isDotted g then some 2 else none
  | g :: gs => if isGroup g then (groupCount atEnd gs).map (· + 1) else none

/-- How many groups a text fills that lies between colons or the ends of an address. -/
def sideCount (atEnd : Bool) (s : List Char) : Option Nat :=
  if s.isEmpty then some 0 else groupCount atEnd (pieces ':' s)

/-- The parts before and after the first two colons in a row. -/
def cutDoubleColon : List Char → Option (List Char × List Char)
  | [] => none
  | c :: rest =>
    if c = ':' ∧ rest.head? = some ':' then some ([], rest.tail)
    else (cutDoubleColon rest).map fun (before, after) => (c :: before, after)

/-- Whether a text is an address of 128 bits. -/
def isLong (s : List Char) : Bool :=
  match cutDoubleColon s with
  | none => sideCount true s = some 8
  | some (before, after) =>
    match sideCount false before, sideCount true after with
    | some m, some n => m + n ≤ 7
    | _, _ => false

end FundsLedger.Address
