import FundsLedger.Json.Number
import FundsLedger.Json.Text

/-!
# Scalars of a wanted type

Reading a value of one type where the text may hold another. A value of the wrong type is read as
far as it takes to know that it is one, so that a text that is not JSON is told from one that is.
-/

namespace FundsLedger.Json

/-- How reading fails on a value of the wrong type. A list or an object is told by its bracket. -/
def faultAt (s : List Char) : Fault :=
  match s with
  | [] => .truncated
  | c :: rest =>
    if c = '[' ∨ c = '{' then .mismatch
    else if c = '"' then after (readString rest)
    else if c = '-' then after (readNumber true rest)
    else if Text.isDigit c then after (readNumber false s)
    else if c = 'n' then after (readWord ['u', 'l', 'l'] rest)
    else if c = 't' then after (readWord ['r', 'u', 'e'] rest)
    else if c = 'f' then after (readWord ['a', 'l', 's', 'e'] rest)
    else .malformed
where
  after {α : Type} : Except Fault α → Fault
    | .error fault => fault
    | .ok _ => .mismatch

def readText : Reader (List Char) := fun s =>
  match skipBlanks s with
  | [] => .error .truncated
  | c :: rest => if c = '"' then readString rest else .error (faultAt (c :: rest))

def readTextAs {α : Type} (parse : List Char → Option α) : Reader α := fun s =>
  match readText s with
  | .error fault => .error fault
  | .ok (chars, rest) =>
    match parse chars with
    | some a => .ok (a, rest)
    | none => .error .mismatch

def readNumberAs {α : Type} (parse : Number → Option α) : Reader α := fun s =>
  match skipBlanks s with
  | [] => .error .truncated
  | c :: rest =>
    let number :=
      if c = '-' then readNumber true rest
      else if Text.isDigit c then readNumber false (c :: rest)
      else .error (faultAt (c :: rest))
    match number with
    | .error fault => .error fault
    | .ok (n, rest) =>
      match parse n with
      | some a => .ok (a, rest)
      | none => .error .mismatch

def readNull (s : List Char) : Except Fault (List Char) :=
  match skipBlanks s with
  | [] => .error .truncated
  | c :: rest =>
    if c = 'n' then readWord ['u', 'l', 'l'] rest else .error (faultAt (c :: rest))

def readObjectEnd (s : List Char) : Except Fault (List Char) :=
  match skipBlanks s with
  | [] => .error .truncated
  | c :: rest => if c = '}' then .ok rest else .error .malformed

/-- Reads a key that stands for a value. What does not open a string is no key, of whatever type. -/
def readKeyAs {α : Type} (parse : List Char → Option α) : Reader α := fun s =>
  match skipBlanks s with
  | [] => .error .truncated
  | c :: rest => if c = '"' then readTextAs parse (c :: rest) else .error .malformed

/-- Reads one of several named choices: its name, or an object that has the name as its only key
with `null` under it. -/
def readChoice {α : Type} (ofName? : List Char → Option α) : Reader α := fun s =>
  match skipBlanks s with
  | [] => .error .truncated
  | c :: rest =>
    if c = '"' then readTextAs ofName? (c :: rest)
    else if c = '{' then do
      let (a, rest) ← readKeyAs ofName? rest
      let rest ← readColon rest
      let rest ← readNull rest
      let rest ← readObjectEnd rest
      return (a, rest)
    else .error .malformed

/-- Reads `null` as nothing and anything else as a value. -/
def readOptional {α : Type} (read : Reader α) : Reader (Option α) := fun s =>
  match skipBlanks s with
  | 'n' :: rest => (readWord ['u', 'l', 'l'] rest).map fun rest => (none, rest)
  | _ => (read s).map fun (a, rest) => (some a, rest)

end FundsLedger.Json
