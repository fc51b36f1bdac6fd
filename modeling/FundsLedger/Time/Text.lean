import FundsLedger.Text.Blank
import FundsLedger.Text.Decimal
import FundsLedger.Time.Timestamp

/-!
# Timestamps as text

Timestamps are written as RFC 3339 asks, with as many digits after the second as are needed, in
groups of three. They are read more freely: blanks may stand before every number and sign, numbers
may be short, and years may have a sign and any length.
-/

namespace FundsLedger.Time

open FundsLedger.Text

/-- The rest of a text after one given character, past any blanks. -/
def expect (c : Char) (s : List Char) : Option (List Char) :=
  match trimStart s with
  | d :: rest => if d = c then some rest else none
  | [] => none

/-- A number of at most `width` digits, past any blanks. -/
def readNumber (width : Nat) (s : List Char) : Option (Nat × List Char) :=
  let s := trimStart s
  let digits := (s.take width).takeWhile isDigit
  if digits.isEmpty then none else some (decimalValue digits, s.drop digits.length)

/-- A year: up to four digits, or a sign and any number of them. -/
def readYear (s : List Char) : Option (Int × List Char) :=
  match trimStart s with
  | '-' :: rest => (readDigits rest).map fun (n, rest) => (-(n : Int), rest)
  | '+' :: rest => (readDigits rest).map fun (n, rest) => ((n : Int), rest)
  | s => (readNumber 4 s).map fun (n, rest) => ((n : Int), rest)
where
  readDigits (s : List Char) : Option (Nat × List Char) :=
    let digits := s.takeWhile isDigit
    if digits.isEmpty then none else some (decimalValue digits, s.drop digits.length)

/-- The nanoseconds that a run of digits after the point stands for. Digits after the ninth are
dropped. -/
def fractionNanos (digits : List Char) : Nat :=
  let kept := digits.take 9
  decimalValue kept * Nat.pow 10 (9 - kept.length)

def readFraction (s : List Char) : Option (Nat × List Char) :=
  match s with
  | '.' :: rest =>
    let digits := rest.takeWhile isDigit
    if digits.isEmpty then none else some (fractionNanos digits, rest.drop digits.length)
  | _ => some (0, s)

def readDate (s : List Char) : Option (Date × List Char) := do
  let (year, s) ← readYear s
  let s ← expect '-' s
  let (month, s) ← readNumber 2 s
  let s ← expect '-' s
  let (day, s) ← readNumber 2 s
  let date : Date := ⟨year, month, day⟩
  if date.Exists then some (date, s) else none

/-- The sign of an offset: a plus, a hyphen or the minus sign of mathematics. -/
def readSign (s : List Char) : Option (Int × List Char) :=
  match s with
  | '+' :: rest => some (1, rest)
  | '-' :: rest => some (-1, rest)
  | '\u2212' :: rest => some (-1, rest)
  | _ => none

def readPair (s : List Char) : Option (Nat × List Char) :=
  match s with
  | a :: b :: rest =>
    if isDigit a && isDigit b then some (decimalValue [a, b], rest) else none
  | _ => none

/-- An offset from UTC in minutes: `Z`, `UTC`, or a sign, two digits of hours, colons and blanks,
and two digits of minutes. -/
def readOffset (s : List Char) : Option (Int × List Char) :=
  let s := trimStart s
  if (s.take 3).map Char.toLower = ['u', 't', 'c'] then some (0, s.drop 3)
  else match s with
    | 'Z' :: rest => some (0, rest)
    | 'z' :: rest => some (0, rest)
    | s => do
      let (sign, s) ← readSign s
      let (hours, s) ← readPair s
      let s := s.dropWhile fun c => c = ':' || isBlank c
      let (minutes, s) ← readPair s
      if minutes < 60 then some (sign * (hours * 60 + minutes : Nat), s) else none

/-- The time of day: its second, and the nanoseconds from there. The sixty-first second of a minute
is a leap second and counts as part of the sixtieth. -/
def readTimeOfDay (s : List Char) : Option ((Nat × Nat) × List Char) := do
  let (hour, s) ← readNumber 2 s
  let s ← expect ':' s
  let (minute, s) ← readNumber 2 s
  let s ← expect ':' s
  let (second, s) ← readNumber 2 s
  let (nanos, s) ← readFraction s
  if hour < 24 ∧ minute < 60 ∧ second ≤ 60 then
    let whole := hour * 3600 + minute * 60
    if second = 60 then some ((whole + 59, nanosPerSecond + nanos), s)
    else some ((whole + second, nanos), s)
  else none

namespace Timestamp

def ofText? (s : List Char) : Option Timestamp := do
  let (date, s) ← readDate s
  let s ← match s with
    | 't' :: rest => some rest
    | 'T' :: rest => some rest
    | ' ' :: rest => some rest
    | _ => none
  let ((second, nanos), s) ← readTimeOfDay s
  let (offset, s) ← readOffset s
  if (trimStart s).isEmpty then ofParts? date.dayNumber second nanos offset else none

/-- A year in four digits, with a sign and more digits where four do not suffice. -/
def yearText (year : Int) : List Char :=
  if 0 ≤ year ∧ year ≤ 9999 then paddedDecimal 4 year.natAbs
  else (if year < 0 then '-' else '+') :: paddedDecimal 4 year.natAbs

/-- The part of a second that nanoseconds make, in as few groups of three digits as are exact. -/
def fractionText (nanos : Nat) : List Char :=
  if nanos = 0 then []
  else if nanos % 1000000 = 0 then '.' :: paddedDecimal 3 (nanos / 1000000)
  else if nanos % 1000 = 0 then '.' :: paddedDecimal 6 (nanos / 1000)
  else '.' :: paddedDecimal 9 nanos

def offsetText (minutes : Int) : List Char :=
  if minutes = 0 then ['Z']
  else
    (if minutes < 0 then '-' else '+') ::
      (paddedDecimal 2 (minutes.natAbs / 60) ++ ':' :: paddedDecimal 2 (minutes.natAbs % 60))

def text (t : Timestamp) : List Char :=
  let date := Date.ofDayNumber t.day
  let leap := if nanosPerSecond ≤ t.nanos then 1 else 0
  yearText date.year ++ '-' :: paddedDecimal 2 date.month.natAbs ++
    '-' :: paddedDecimal 2 date.day.natAbs ++
    'T' :: paddedDecimal 2 (t.second / 3600) ++
    ':' :: paddedDecimal 2 (t.second / 60 % 60) ++
    ':' :: paddedDecimal 2 (t.second % 60 + leap) ++
    fractionText (t.nanos % nanosPerSecond) ++ offsetText t.offset

instance : ToString Timestamp := ⟨fun t => String.ofList t.text⟩

def ofString? (s : String) : Option Timestamp :=
  ofText? s.toList

end Timestamp

end FundsLedger.Time
