import FundsLedger.Text.Alphanumeric
import FundsLedger.Text.Blank

/-!
# Assignments

A line of an assignment file gives a value to a name. The value is a sequence of characters and of
references to other names, which are only looked up when the file is loaded.
-/

namespace FundsLedger.Config

open FundsLedger.Text

inductive Piece where
  | char (c : Char)
  /-- The value of another name. -/
  | reference (name : List Char)
deriving DecidableEq

structure Assignment where
  key : List Char
  value : List Piece
deriving DecidableEq

/-- Where the reader of a value stands. Double quotes may be open in most places. -/
inductive Place where
  | text (inDouble : Bool)
  | escape (inDouble : Bool)
  | single
  /-- In the name after a dollar sign, read backwards so far. -/
  | name (inDouble : Bool) (reversed : List Char)
  /-- In a name in braces, read backwards so far. -/
  | braced (inDouble : Bool) (reversed : List Char)
  /-- After a blank that ends the value. -/
  | ended

def unescape? (c : Char) : Option Char :=
  if c = '\\' ∨ c = '\'' ∨ c = '"' ∨ c = '$' ∨ c = ' ' then some c
  else if c = 'n' then some '\n'
  else none

/-- The reference to a name that was read backwards. -/
def Piece.ofReversed (name : List Char) : Piece :=
  .reference name.reverse

def prepend (piece : Piece) : Option (List Piece) → Option (List Piece) :=
  Option.map (piece :: ·)

/-- Reads a value. A quote or a brace that stays open makes the line bad, and so do an unknown
escape and anything but a comment after the blank that ends the value. -/
def readValue : Place → List Char → Option (List Piece)
  | .text inDouble, [] => if inDouble then none else some []
  | .escape inDouble, [] => if inDouble then none else some []
  | .single, [] => none
  | .name inDouble acc, [] => if inDouble then none else some [.ofReversed acc]
  | .braced _ _, [] => none
  | .ended, [] => some []
  | .ended, c :: rest =>
    if c = ' ' ∨ c = '\t' then readValue .ended rest
    else if c = '#' then some []
    else none
  | .escape inDouble, c :: rest =>
    match unescape? c with
    | some d => prepend (.char d) (readValue (.text inDouble) rest)
    | none => none
  | .single, c :: rest =>
    if c = '\'' then readValue (.text false) rest
    else prepend (.char c) (readValue .single rest)
  | .name inDouble acc, c :: rest =>
    if isAlphanumeric c then readValue (.name inDouble (c :: acc)) rest
    else if c = '{' ∧ acc = [] then readValue (.braced inDouble []) rest
    else if c = '$' then prepend (.ofReversed acc) (readValue (.name inDouble []) rest)
    else prepend (.ofReversed acc) (prepend (.char c) (readValue (.text inDouble) rest))
  | .braced inDouble acc, c :: rest =>
    if c = '}' then prepend (.ofReversed acc) (readValue (.text inDouble) rest)
    else readValue (.braced inDouble (c :: acc)) rest
  | .text inDouble, c :: rest =>
    if c = '$' then readValue (.name inDouble []) rest
    else if c = '\\' then readValue (.escape inDouble) rest
    else if c = '"' then readValue (.text !inDouble) rest
    else if inDouble then prepend (.char c) (readValue (.text true) rest)
    else if c = '\'' then readValue .single rest
    else if c = ' ' ∨ c = '\t' then readValue .ended rest
    else prepend (.char c) (readValue (.text false) rest)

def startsKey (c : Char) : Bool :=
  c.isAlpha || c = '_'

def continuesKey (c : Char) : Bool :=
  c.isAlphanum || c = '_' || c = '.'

/-- Reads a name and the blanks after it. -/
def readKey (s : List Char) : Option (List Char × List Char) :=
  match s with
  | c :: _ =>
    if startsKey c then some (s.takeWhile continuesKey, trimStart (s.dropWhile continuesKey))
    else none
  | [] => none

/-- The rest of a text after an equals sign and the blanks that follow it. -/
def afterEquals (s : List Char) : Option (List Char) :=
  match s with
  | '=' :: rest => some (trimStart rest)
  | _ => none

/-- Reads the value of a name. Nothing, or a comment alone, is the empty value. -/
def readAssignment (key s : List Char) : Option Assignment :=
  if s = [] ∨ s.head? = some '#' then some ⟨key, []⟩
  else (readValue (.text false) s).map fun value => ⟨key, value⟩

/-- What a line says: nothing, an assignment, or something that is neither. The word `export` may
stand before a name, and is a name itself where an equals sign follows. -/
def readLine (line : List Char) : Option (Option Assignment) :=
  let s := trimStart (trimEnd line)
  if s = [] ∨ s.head? = some '#' then some none
  else do
    let (key, s) ← readKey s
    match afterEquals s with
    | some s => some <$> readAssignment key s
    | none =>
      if key = "export".toList then do
        let (key, s) ← readKey s
        let s ← afterEquals s
        some <$> readAssignment key s
      else none

end FundsLedger.Config
