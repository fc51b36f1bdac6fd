import FundsLedger.Text.Pattern.Escape

/-!
# Bracketed sets of a pattern

A set in brackets has characters, ranges of them, escapes, named sets and sets in brackets again,
and signs for what sets have in common or apart. Where bytes are matched, it is not negated and has
characters of ASCII alone.
-/

namespace FundsLedger.Text.Pattern

/-- The names of sets of ASCII characters, which stand between colons. -/
def asciiSets : List String :=
  ["alnum", "alpha", "ascii", "blank", "cntrl", "digit", "graph", "lower", "print", "punct",
    "space", "upper", "word", "xdigit"]

/-- Reads a named set from behind its bracket, and whether it is negated. -/
def readAsciiSet (s : List Char) : Option (Bool × List Char) :=
  match s with
  | ':' :: s =>
    let negated := s.head? = some '^'
    let s := if negated then s.tail else s
    let name := String.ofList (s.takeWhile (· ≠ ':'))
    match s.dropWhile (· ≠ ':') with
    | ':' :: ']' :: rest => if asciiSets.contains name then some (negated, rest) else none
    | _ => none
  | _ => none

/-- Reads what may only open a set: a sign of negation, and then either a closing bracket or any
number of dashes, which stand for themselves. -/
def readSetOpening (mode : Mode) (s : List Char) : Option (List Char) :=
  let s := mode.skip s
  let negated := s.head? = some '^'
  let s := if negated then mode.skip s.tail else s
  if negated && mode.bytes then none
  else if s.head? = some ']' then some s.tail
  else some (mode.skipDashes s)

def readMember (mode : Mode) (s : List Char) : Option (Escape × List Char) :=
  let read :=
    match s with
    | [] => none
    | '\\' :: rest => readEscape mode rest
    | c :: rest => some (.character c, rest)
  read.filter fun (escape, _) => escape.isMember mode

/-- Reads a member of a set or a range of them. A dash before a closing bracket or another dash
makes no range. -/
def readRange (mode : Mode) (s : List Char) : Option (List Char) :=
  match readMember mode s with
  | none => none
  | some (first, rest) =>
    match mode.skip rest with
    | '-' :: rest =>
      let next := mode.skip rest
      if next.head? = some ']' ∨ next.head? = some '-' then some ('-' :: rest)
      else
        match first.character?, readMember mode next with
        | some first, some (last, rest) =>
          if last.character?.any (first ≤ ·) then some rest else none
        | _, _ => none
    | rest => some rest

/-- Reads sets in brackets to the end of the outermost, the number of open brackets given. -/
def readSet (mode : Mode) : (fuel depth : Nat) → List Char → Option (List Char)
  | 0, _, _ => none
  | fuel + 1, depth, s =>
    match mode.skip s with
    | [] => none
    | '[' :: rest =>
      match readAsciiSet rest with
      | some (negated, rest) =>
        if negated && mode.bytes then none else readSet mode fuel depth rest
      | none => (readSetOpening mode rest).bind (readSet mode fuel (depth + 1))
    | ']' :: rest => if depth ≤ 1 then some rest else readSet mode fuel (depth - 1) rest
    | '&' :: '&' :: rest => readSet mode fuel depth rest
    | '-' :: '-' :: rest => readSet mode fuel depth rest
    | '~' :: '~' :: rest => readSet mode fuel depth rest
    | s => (readRange mode s).bind (readSet mode fuel depth)

end FundsLedger.Text.Pattern
