import FundsLedger.Database.Program
import FundsLedger.Text.Alphanumeric
import FundsLedger.Text.Blank
import FundsLedger.Text.Decimal
import FundsLedger.Text.Pattern
import FundsLedger.Text.Split

/-!
# Rules of a log filter

A rule gives a verbosity to the messages of a target, and may ask for a field that they have to
have. It is written as a verbosity alone, as a target alone, or as a target, a bracket with the name
of a span and a field in braces, and a verbosity after an equals sign, where each part but one may
be left out. Rules that name a span, or compare a field with a value, do not concern messages.
-/

namespace FundsLedger

open Database (Level)
open Text

namespace Database.Level

/-- Every level, the least verbose first. -/
def all : List Level := [.error, .warn, .info, .debug, .trace]

def name : Level → String
  | .error => "ERROR"
  | .warn => "WARN"
  | .info => "INFO"
  | .debug => "DEBUG"
  | .trace => "TRACE"

def verbosity : Level → Nat
  | .error => 1
  | .warn => 2
  | .info => 3
  | .debug => 4
  | .trace => 5

end Database.Level

namespace Command

/-- Which verbosity is shown of the targets that start with the given text, for messages that have
the given field. -/
structure LogRule where
  target : List Char
  field : Option (List Char) := none
  verbosity : Nat
deriving DecidableEq, Repr

def everything : Nat := Level.trace.verbosity

/-- Whether a text is a word in letters of either case. -/
def isWord (word : String) (s : List Char) : Bool :=
  s.map Char.toLower = word.toList.map Char.toLower

/-- The verbosity that a text names: a level or none at all, by name in either case or by number. -/
def readVerbosity (s : List Char) : Option Nat :=
  ((readCount? s).filter (· ≤ everything)).or <|
    if isWord "off" s then some 0
    else (Level.all.find? fun level => isWord level.name s).map Level.verbosity

/-- The verbosity after an equals sign, where none means everything. -/
def readBound (s : List Char) : Option Nat :=
  if s.isEmpty then some everything else readVerbosity s

/-- Whether a text is what may follow the digits of a number: an exponent or nothing. -/
def isScale (s : List Char) : Bool :=
  match s with
  | [] => true
  | e :: s =>
    let digits := if s.head?.any "+-".toList.contains then s.tail else s
    (e = 'e' || e = 'E') && !digits.isEmpty && digits.all isDigit

/-- Whether a text is a number without a sign, in decimal or by a name for what is none. -/
def isUnsigned (s : List Char) : Bool :=
  let whole := s.takeWhile isDigit
  let (part, scale) :=
    match s.dropWhile isDigit with
    | '.' :: rest => (rest.takeWhile isDigit, rest.dropWhile isDigit)
    | rest => ([], rest)
  ["inf", "infinity", "nan"].any (isWord · s) || (!(whole ++ part).isEmpty && isScale scale)

/-- Whether a text is something that a field can be compared with: a pattern, or a number, whose
sign is none of a pattern. -/
def isComparand (s : List Char) : Bool :=
  isPattern s || (s.head? = some '+' && isUnsigned s.tail)

/-- The field that a rule asks for, and whether it compares it with a value. What stands after the
first value does not count. -/
def readField (s : List Char) : Option (List Char × Bool) :=
  match pieces '=' s with
  | [] => none
  | [name] => if name.isEmpty then none else some (name, false)
  | name :: value :: _ => if isComparand value then some (name, true) else none

def startsRule (c : Char) : Bool :=
  isAlphanumeric c || c = '-' || c = ':' || c = '_' || c = '['

def endsTarget (c : Char) : Bool :=
  c = '=' || c = '['

def endsSpan (c : Char) : Bool :=
  c = ']' || c = '\x7b'

/-- A rule that is read: either it is one for messages, or it only concerns spans. -/
abbrev ReadRule := Option LogRule

def slice (s : List Char) (start stop : Nat) : List Char :=
  (s.drop start).take (stop - start)

/-- Reads what follows a target and its bracket: nothing, which shows everything, or a verbosity
after an equals sign. The place is where the text `rest` starts. -/
def readTail (s : List Char) (place : Nat) (rest : List Char) : Option Nat :=
  match rest with
  | [] => some everything
  | '=' :: _ => readBound (s.drop (place + 1))
  | _ => none

/-- Reads a rule from behind its opening bracket, which has the place before `place`. -/
def readSpan (s target : List Char) (place : Nat) (rest : List Char) : Option ReadRule :=
  let stop := place + (rest.takeWhile (!endsSpan ·)).length
  let span := slice s place stop
  match rest.dropWhile (!endsSpan ·) with
  | [] => none
  | ']' :: rest => (readTail s (stop + 1) rest).map fun _ => none
  | _ :: rest =>
    let fieldStop := stop + 1 + (rest.takeWhile (· ≠ '\x7d')).length
    match readField (slice s (stop + 1) fieldStop), rest.dropWhile (· ≠ '\x7d') with
    | some (name, hasValue), '\x7d' :: ']' :: rest =>
      (readTail s (fieldStop + 2) rest).map fun verbosity =>
        if span.isEmpty && !hasValue then some ⟨target, some name, verbosity⟩ else none
    | _, _ => none

/-- Reads a rule. The signs that part it are looked for in the text without the blanks around it,
and the parts are cut out at the same places of the whole text, so that blanks in front spoil
them. -/
def readRule (s : List Char) : Option ReadRule :=
  let marked := trim s
  let stop := (marked.takeWhile (!endsTarget ·)).length
  if !marked.head?.any startsRule then none
  else
    match marked.dropWhile (!endsTarget ·) with
    | [] =>
      match readVerbosity s with
      | some verbosity => some (some { target := [], verbosity })
      | none => some (some { target := s, verbosity := everything })
    | '[' :: rest => readSpan s (slice s 0 stop) (stop + 1) rest
    | rest =>
      (readTail s stop rest).map fun verbosity => some { target := slice s 0 stop, verbosity }

end Command

end FundsLedger
