import FundsLedger.Text.Split

/-!
# The words of a command line

A word that starts with a dash is an option: one dash and a letter, or two dashes and a name. The
value of an option follows in its word, after an equals sign where the name is long, or is the next
word, as long as that is plain. Two dashes alone end the options.
-/

namespace FundsLedger.Command

open FundsLedger.Text

inductive Word where
  | plain (text : List Char)
  /-- An option, its dashes being part of its name. -/
  | option (name : List Char) (value : Option (List Char))
  /-- The end of the options. -/
  | stop
deriving DecidableEq

/-- The value in a word after the letter of its option. An equals sign may stand before it. -/
def valueAfterLetter (s : List Char) : Option (List Char) :=
  match s with
  | [] => none
  | '=' :: value => some value
  | value => some value

/-- The word that a text is. A dash alone is plain. -/
def Word.ofText (s : List Char) : Word :=
  match s with
  | ['-', '-'] => .stop
  | '-' :: '-' :: _ =>
    match cutFirst '=' s with
    | some (name, value) => .option name (some value)
    | none => .option s none
  | '-' :: letter :: rest => .option ['-', letter] (valueAfterLetter rest)
  | s => .plain s

def words (arguments : List String) : List Word :=
  arguments.map fun s => Word.ofText s.toList

abbrev Given (κ : Type) := List (κ × List Char)

/-- Reads the options at the front of a command line, up to a plain word. Each has to be known and
to have a value, and nothing may follow the end of the options. -/
def readOptions {κ : Type} (known : List Char → Option κ) :
    List Word → Option (Given κ × List Word)
  | [] => some ([], [])
  | .plain s :: rest => some ([], .plain s :: rest)
  | .stop :: rest => if rest.isEmpty then some ([], []) else none
  | .option name (some value) :: rest =>
    match known name, readOptions known rest with
    | some key, some (given, rest) => some ((key, value) :: given, rest)
    | _, _ => none
  | .option name none :: .plain value :: rest =>
    match known name, readOptions known rest with
    | some key, some (given, rest) => some ((key, value) :: given, rest)
    | _, _ => none
  | .option _ none :: _ => none

def readOptionsOnce {κ : Type} [DecidableEq κ] (known : List Char → Option κ) (line : List Word) :
    Option (Given κ × List Word) :=
  (readOptions known line).filter fun (given, _) => (given.map (·.1)).Nodup

end FundsLedger.Command
