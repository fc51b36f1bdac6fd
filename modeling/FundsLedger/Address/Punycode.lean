import FundsLedger.Text.Split

/-!
# Encoded labels

A label of any characters can be written in letters, digits and hyphens: its plain characters come
first, a hyphen follows them, and the rest is a row of numbers, each of which tells which character
comes next in the order of code points and where it goes. A number is written with its least digit
first, in a mixed radix that adapts to the numbers before, so that the digit which ends it is known
by being small.
-/

namespace FundsLedger.Address.Punycode

open FundsLedger.Text

/-- The value of a digit: the letters in either case, then the decimal digits. -/
def digit? (c : Char) : Option Nat :=
  "abcdefghijklmnopqrstuvwxyz0123456789".toList.findIdx? (· == c.toLower)

/-- What numbers and the weights of their digits stay below. -/
def limit : Nat := Nat.pow 2 32

def base : Nat := 36

/-- The place of the first digit of a number. A digit further on has a place higher by `base`. -/
def firstPlace : Nat := base

/-- The value below which a digit ends its number. -/
def threshold (place bias : Nat) : Nat :=
  min (max (place - bias) 1) 26

/-- A number divided by 35 until it is small, and the places that the divisions move on. -/
def scaled (n : Nat) : Nat × Nat :=
  if 455 < n then
    let (rest, places) := scaled (n / 35)
    (rest, places + base)
  else (n, 0)
termination_by n

/-- The bias after a number in a text of `length` characters. The first number is as a rule far
larger than the next, so it counts for less. -/
def adapted (number length : Nat) (isFirst : Bool) : Nat :=
  let damped := if isFirst then number / 700 else number / 2
  let (rest, places) := scaled (damped + damped / length)
  places + base * rest / (rest + 38)

/-- A label that is being decoded: its text so far, the code point and the position reached, and the
number under way with the place and the weight of its next digit. -/
structure Decoding where
  text : List Char
  codePoint : Nat := 128
  position : Nat := 0
  bias : Nat := 72
  number : Nat := 0
  place : Nat := firstPlace
  weight : Nat := 1
deriving DecidableEq, Repr

namespace Decoding

def isAtRest (d : Decoding) : Bool :=
  d.place == firstPlace

/-- Puts the character in that the whole number under way stands for. -/
def insert? (d : Decoding) : Option Decoding :=
  let length := d.text.length + 1
  let reached := d.position + d.number
  let codePoint := d.codePoint + reached / length
  let position := reached % length
  if codePoint.isValidChar then
    some {
      text := d.text.insertIdx position (Char.ofNat codePoint)
      codePoint
      position := position + 1
      bias := adapted d.number length (d.position == 0) }
  else none

def step? (d : Decoding) (c : Char) : Option Decoding := do
  let digit ← digit? c
  let threshold := threshold d.place d.bias
  let d := { d with number := d.number + digit * d.weight }
  let weight := d.weight * (base - threshold)
  if limit ≤ d.position + d.number then none
  else if digit < threshold then d.insert?
  else if limit ≤ weight then none
  else some { d with place := d.place + base, weight }

end Decoding

/-- The parts before and after the last hyphen. A hyphen in front of all parts nothing. -/
def cutLabel (s : List Char) : List Char × List Char :=
  match cutLast '-' s with
  | some (c :: plain, numbers) => (c :: plain, numbers)
  | _ => ([], s)

def decode? (s : List Char) : Option (List Char) :=
  let (plain, numbers) := cutLabel s
  if plain.any fun c => 128 ≤ c.toNat then none
  else
    ((numbers.foldlM Decoding.step? { text := plain }).filter (·.isAtRest)).map Decoding.text

end FundsLedger.Address.Punycode
