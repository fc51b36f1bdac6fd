import FundsLedger.Json.Fault
import FundsLedger.Text.Decimal

/-!
# Numbers

A number is an integer when it has neither fraction nor exponent and is not a negative zero. Every
other number is read only to find where it ends and whether it lies in the range of a double.
-/

namespace FundsLedger.Json

open FundsLedger.Text

/-- What a number denotes, as far as it matters here. -/
inductive Number where
  | integer (n : Int)
  | inexact
deriving DecidableEq

def maxWord : Nat := Nat.pow 2 64 - 1

/-- The largest decimal exponent that is told from a larger one. -/
def maxExponent : Nat := Nat.pow 2 31 - 1

/-- `n` rounded to its 53 leading bits, a half going to the even neighbour. -/
def roundToDouble (n : Nat) : Nat :=
  let bits := n.log2 + 1
  if bits ≤ 53 then n
  else
    let unit := Nat.pow 2 (bits - 53)
    let kept := n / unit
    let rest := n % unit
    let up := 2 * rest > unit || (2 * rest == unit && kept % 2 == 1)
    (if up then kept + 1 else kept) * unit

/-- The least number that is rounded to infinity and not to a double. -/
def doubleLimit : Nat := Nat.pow 2 1024 - Nat.pow 2 970

def isBeyondDouble (significand : Nat) (exponent : Int) : Bool :=
  significand ≠ 0 && 0 ≤ exponent &&
    (308 < exponent ||
      doubleLimit ≤ roundToDouble significand * roundToDouble (Nat.pow 10 exponent.toNat))

/-- Takes digits into a significand as long as it fits a word. -/
def absorb (significand : Nat) : List Char → Nat × List Char
  | [] => (significand, [])
  | d :: digits =>
    let next := significand * 10 + digitValue d
    if next ≤ maxWord then absorb next digits else (significand, d :: digits)

/-- The digits at the front of a text, of which there has to be one. -/
def readDigits (s : List Char) : Except Fault (List Char × List Char) :=
  match s.takeWhile isDigit with
  | [] => .error (if s.isEmpty then .truncated else .malformed)
  | digits => .ok (digits, s.dropWhile isDigit)

/-- A text past the sign of an exponent, and whether it is negative. -/
def readExponentSign (s : List Char) : Bool × List Char :=
  match s with
  | '+' :: rest => (false, rest)
  | '-' :: rest => (true, rest)
  | s => (false, s)

def readExponent (significand : Nat) (shift : Int) (s : List Char) :
    Except Fault (List Char) := do
  let (negative, s) := readExponentSign s
  let (digits, rest) ← readDigits s
  let exponent := decimalValue digits
  let beyond :=
    if maxExponent < exponent then significand ≠ 0 && !negative
    else isBeyondDouble significand (shift + if negative then -(exponent : Int) else exponent)
  if beyond then .error .malformed else .ok rest

/-- Reads an exponent if there is one, and checks the range. -/
def readScale (significand : Nat) (shift : Int) (s : List Char) : Except Fault (List Char) :=
  match s with
  | 'e' :: rest => readExponent significand shift rest
  | 'E' :: rest => readExponent significand shift rest
  | s => if isBeyondDouble significand shift then .error .malformed else .ok s

def readNumber (negative : Bool) : Reader Number := fun s => do
  let (digits, rest) ← readDigits s
  if 1 < digits.length ∧ digits.head? = some '0' then .error .malformed
  let (significand, dropped) := absorb 0 digits
  match rest with
  | '.' :: rest =>
    let (fraction, rest) ← readDigits rest
    let (significand, ignored) := absorb significand fraction
    let shift := (dropped.length : Int) - (fraction.length - ignored.length : Nat)
    return (.inexact, ← readScale significand shift rest)
  | 'e' :: _ | 'E' :: _ => return (.inexact, ← readScale significand dropped.length rest)
  | _ =>
    if dropped.isEmpty then
      if !negative then return (.integer significand, rest)
      if 0 < significand ∧ significand ≤ Nat.pow 2 63 then return (.integer (-significand), rest)
      return (.inexact, rest)
    return (.inexact, ← readScale significand dropped.length rest)

/-- Passes over the digits of an exponent after its letter. Digits that are missing make the text
malformed, even at its end. -/
def skipExponent (s : List Char) : Except Fault (List Char) :=
  let (_, s) := readExponentSign s
  match s.takeWhile isDigit with
  | [] => .error .malformed
  | _ => .ok (s.dropWhile isDigit)

def skipScale (s : List Char) : Except Fault (List Char) :=
  match s with
  | 'e' :: rest => skipExponent rest
  | 'E' :: rest => skipExponent rest
  | s => .ok s

def skipNumber (s : List Char) : Except Fault (List Char) :=
  let digits := s.takeWhile isDigit
  if digits.isEmpty ∨ (1 < digits.length ∧ digits.head? = some '0') then .error .malformed
  else match s.dropWhile isDigit with
    | '.' :: rest =>
      if (rest.takeWhile isDigit).isEmpty then .error .malformed
      else skipScale (rest.dropWhile isDigit)
    | rest => skipScale rest

end FundsLedger.Json
