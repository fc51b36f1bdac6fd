import FundsLedger.Config.Assignment

/-!
# Assignment files

A file is cut into lines, and a line with an open quote goes on over the end of its line. Loading
stops at the first line that is bad, and keeps what came before it.
-/

namespace FundsLedger.Config

open FundsLedger.Text

/-- What a character does to the end of its line. -/
inductive Ending where
  /-- The line may end here. -/
  | complete
  | escape
  | single
  | singleEscape
  | double
  | doubleEscape
  /-- A blank came last, and a comment may start here. -/
  | blank
deriving DecidableEq

def Ending.outside (afterBlank : Bool) (c : Char) : Ending :=
  if c = '\\' then .escape
  else if c = '"' then .double
  else if c = '\'' then .single
  else if !afterBlank && isBlank c && c ≠ '\n' && c ≠ '\r' then .blank
  else .complete

def Ending.after : Ending → Char → Ending
  | .complete, c => outside false c
  | .blank, c => outside true c
  | .escape, _ => .complete
  | .single, c => if c = '\\' then .singleEscape else if c = '\'' then .complete else .single
  | .singleEscape, _ => .single
  | .double, c => if c = '\\' then .doubleEscape else if c = '"' then .complete else .double
  | .doubleEscape, _ => .double

/-- How a physical line ends: where it stands, or the part of it before a comment. -/
def scanLine : Ending → List Char → Ending ⊕ List Char
  | state, [] => .inl state
  | state, c :: rest =>
    if state = .blank ∧ c = '#' then .inr []
    else
      match scanLine (state.after c) rest with
      | .inl last => .inl last
      | .inr before => .inr (c :: before)

def withoutBreak (line : List Char) : List Char :=
  match line.reverse with
  | '\n' :: '\r' :: rest => rest.reverse
  | '\n' :: rest => rest.reverse
  | _ => line

/-- The physical lines of a text, each with its line break. -/
def physicalLines : List Char → List (List Char)
  | [] => []
  | c :: rest =>
    if c = '\n' then [c] :: physicalLines rest
    else
      match physicalLines rest with
      | [] => [[c]]
      | line :: lines => (c :: line) :: lines

/-- The lines of a file, from the part of a line that is still open and where it stands. The end of
the file in an open line is a bad line, shown by none. -/
def logicalLines (open_ : List Char) (state : Ending) :
    List (List Char) → List (Option (List Char))
  | [] => if state = .complete then [] else [none]
  | line :: lines =>
    let whole := open_ ++ line
    if (trimStart whole).head? = some '#' then some [] :: logicalLines [] .complete lines
    else
      match scanLine state line with
      | .inr before => some (open_ ++ before) :: logicalLines [] .complete lines
      | .inl .complete => some (withoutBreak whole) :: logicalLines [] .complete lines
      | .inl state => logicalLines whole state lines

/-- The assignments of a list of lines up to the first bad one. -/
def assignmentsOf : List (Option (List Char)) → List Assignment
  | [] => []
  | line :: lines =>
    match line.bind readLine with
    | none => []
    | some none => assignmentsOf lines
    | some (some a) => a :: assignmentsOf lines

/-- The text without the mark that may stand before it. -/
def withoutMark (s : List Char) : List Char :=
  match s with
  | '\ufeff' :: rest => rest
  | _ => s

def assignments (file : String) : List Assignment :=
  assignmentsOf (logicalLines [] .complete (physicalLines (withoutMark file.toList)))

end FundsLedger.Config
