import FundsLedger.Text.Radix

/-!
# Universally unique identifiers

A `Uuid` is a number of 128 bits. It is written in lower-case hexadecimal with hyphens, and read in
that form, bare, in braces or as a URN, in either case.
-/

namespace FundsLedger

/-- An identifier of 128 bits. -/
structure Uuid where
  value : Nat
  value_lt : value < Nat.pow 2 128
deriving DecidableEq

namespace Uuid

def nil : Uuid := ⟨0, by decide⟩

instance : Inhabited Uuid := ⟨nil⟩

/-- An identifier of 122 random bits, taken from a number. Its form says that it is random: the
digit after the second hyphen is four, and the one after the third has its first bit set and its
second clear. -/
def ofRandom (n : Nat) : Uuid where
  value :=
    n / Nat.pow 2 74 % Nat.pow 2 48 * Nat.pow 2 80 + 4 * Nat.pow 2 76 +
      n / Nat.pow 2 62 % Nat.pow 2 12 * Nat.pow 2 64 + 2 * Nat.pow 2 62 + n % Nat.pow 2 62
  value_lt := by
    simp only [Nat.pow_eq]
    omega

/-- The 32 digits of the identifier. -/
def simple (id : Uuid) : List Char :=
  Text.hexDigits 32 id.value

def groupLengths : List Nat := [8, 4, 4, 4, 12]

/-- Digits cut into groups of the given lengths, with a hyphen between two of them. -/
def hyphenate : List Nat → List Char → List Char
  | [], s => s
  | [_], s => s
  | n :: ns, s => s.take n ++ '-' :: hyphenate ns (s.drop n)

def unhyphenate : List Nat → List Char → Option (List Char)
  | [], s => if s.isEmpty then some [] else none
  | [n], s => if s.length = n then some s else none
  | n :: ns, s =>
    match s.drop n with
    | '-' :: rest =>
      if (s.take n).length = n then (unhyphenate ns rest).map (s.take n ++ ·) else none
    | _ => none

def text (id : Uuid) : List Char :=
  hyphenate groupLengths id.simple

instance : ToString Uuid := ⟨fun id => String.ofList id.text⟩

def ofSimple? (digits : List Char) : Option Uuid :=
  if digits.length = 32 then
    (Text.radixValue? 16 digits).bind fun n => if h : n < Nat.pow 2 128 then some ⟨n, h⟩ else none
  else none

def ofHyphenated? (s : List Char) : Option Uuid :=
  (unhyphenate groupLengths s).bind ofSimple?

/-- The rest of a text after the scheme of a URN, which is written in any case. -/
def afterScheme? (s : List Char) : Option (List Char) :=
  if (s.take 9).map Char.toLower = "urn:uuid:".toList then some (s.drop 9) else none

def inBraces? (s : List Char) : Option (List Char) :=
  match s with
  | '{' :: rest => if rest.getLast? = some '}' then some rest.dropLast else none
  | _ => none

/-- The identifier that a text denotes in any of its four forms. -/
def ofText? (s : List Char) : Option Uuid :=
  (ofSimple? s).or <| (ofHyphenated? s).or <|
    ((inBraces? s).bind ofHyphenated?).or ((afterScheme? s).bind ofHyphenated?)

def ofString? (s : String) : Option Uuid :=
  ofText? s.toList

end Uuid

end FundsLedger
