import FundsLedger.Text.Alphanumeric
import FundsLedger.Text.Pattern.Set

/-!
# Well-formed patterns

Which texts are patterns: characters, escapes and bracketed sets, repeated, put in groups and set
apart by bars. There is no looking around, no reference back to a group and nothing in braces, so
that a pattern can be matched by a finite machine. A reader goes through the text once and takes a
character at least with each step, so the length of the text bounds its steps.
-/

namespace FundsLedger.Text.Pattern

inductive Opening where
  /-- A group, by its name if it has one, and how it is read. -/
  | group (name : List Char) (mode : Mode)
  /-- Flags, which make no group but tell how what follows is read. -/
  | flags (mode : Mode)

def startsName (c : Char) : Bool :=
  c = '_' || isAlphabetic c

def continuesName (c : Char) : Bool :=
  isAlphanumeric c || "_.[]".toList.contains c

/-- Reads the name of a group up to its closing angle. -/
def readGroupName (mode : Mode) (s : List Char) : Option (Opening × List Char) :=
  let name := s.takeWhile (· ≠ '>')
  match s.dropWhile (· ≠ '>') with
  | _ :: rest =>
    if name.head?.any startsName && name.all continuesName then some (.group name mode, rest)
    else none
  | [] => none

/-- Whether flags are right: each is known and set once, and a dash stands at most once and not at
the end. -/
def areFlags (flags : List Char) : Bool :=
  flags.all ("-imsUuRx".toList.contains ·) && decide flags.Nodup && flags.getLast? ≠ some '-'

/-- Whether flags set one of them on or off, where those after a dash are off. -/
def flagState (flag : Char) (flags : List Char) : Option Bool :=
  if flags.contains flag then some ((flags.takeWhile (· ≠ '-')).contains flag) else none

def Mode.after (mode : Mode) (flags : List Char) : Mode where
  loose := (flagState 'x' flags).getD mode.loose
  bytes := ((flagState 'u' flags).map not).getD mode.bytes

/-- Reads flags, for a group after a colon, and else for all that follows. -/
def readFlags (mode : Mode) (s : List Char) : Option (Opening × List Char) :=
  let flags := s.takeWhile fun c => c ≠ ':' ∧ c ≠ ')'
  match s.dropWhile fun c => c ≠ ':' ∧ c ≠ ')' with
  | ':' :: rest => if areFlags flags then some (.group [] (mode.after flags), rest) else none
  | _ :: rest =>
    if areFlags flags && !flags.isEmpty then some (.flags (mode.after flags), rest) else none
  | [] => none

def readOpening (mode : Mode) (s : List Char) : Option (Opening × List Char) :=
  match mode.skip s with
  | '?' :: 'P' :: '<' :: rest => readGroupName mode rest
  | '?' :: '<' :: rest => readGroupName mode rest
  | '?' :: rest => readFlags mode rest
  | s => some (.group [] mode, s)

def isRepetition (c : Char) : Bool :=
  c = '*' || c = '+' || c = '?'

structure Place where
  mode : Mode := {}
  /-- How what follows each of the open groups is read, the innermost first. -/
  outer : List Mode := []
  /-- Whether something stands here that can be repeated. -/
  operand : Bool := false
  /-- The names of groups so far. -/
  names : List (List Char) := []

/-- The place after the beginning of a group, unless its name is taken. -/
def Place.enter (place : Place) : Opening → Option Place
  | .flags mode => some { place with mode, operand := false }
  | .group name mode =>
    if !name.isEmpty && place.names.contains name then none
    else some ⟨mode, place.mode :: place.outer, false, name :: place.names⟩

/-- The place after something that can be repeated. -/
def Place.past (place : Place) : Place :=
  { place with operand := true }

def Place.leave (place : Place) : Option Place :=
  match place.outer with
  | mode :: outer => some { place.past with mode, outer }
  | [] => none

def readAll : (fuel : Nat) → Place → List Char → Bool
  | 0, _, _ => false
  | fuel + 1, place, s =>
    let mode := place.mode
    match mode.skip s with
    | [] => place.outer.isEmpty
    | '(' :: rest =>
      match readOpening mode rest with
      | some (opening, rest) => (place.enter opening).any (readAll fuel · rest)
      | none => false
    | ')' :: rest => place.leave.any (readAll fuel · rest)
    | '|' :: rest => readAll fuel { place with operand := false } rest
    | '[' :: rest =>
      match (readSetOpening mode rest).bind (readSet mode fuel 1) with
      | some rest => readAll fuel place.past rest
      | none => false
    | '\\' :: rest =>
      match readEscape mode rest with
      | some (escape, rest) => escape.mayStand mode && readAll fuel place.past rest
      | none => false
    | '\x7b' :: _ => false
    | '.' :: rest => !mode.bytes && readAll fuel place.past rest
    | c :: rest =>
      if isRepetition c then
        place.operand && readAll fuel place (if rest.head? = some '?' then rest.tail else rest)
      else readAll fuel place.past rest

end Pattern

/-- Whether a text is a pattern. -/
def isPattern (s : List Char) : Bool :=
  Pattern.readAll (s.length + 1) {} s

end FundsLedger.Text
