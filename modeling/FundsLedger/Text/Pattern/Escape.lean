import FundsLedger.Text.Blank
import FundsLedger.Text.Radix

/-!
# Escapes of a pattern

A backslash takes the meaning from a character that has one, or gives one to a letter. Flags in a
pattern tell whether blanks count and whether characters or bytes are matched. Where bytes are
matched, nothing may match a part of a character.
-/

namespace FundsLedger.Text.Pattern

structure Mode where
  /-- Whether blanks and comments do not count. -/
  loose : Bool := false
  /-- Whether bytes are matched, and not characters. -/
  bytes : Bool := false
deriving DecidableEq, Repr

/-- The rest of a text after comments and characters of a kind. A comment goes from a number sign to
the end of its line. -/
def skipLoose (skipped : Char → Bool) : (inComment : Bool) → List Char → List Char
  | _, [] => []
  | true, c :: rest => skipLoose skipped (c ≠ '\n') rest
  | false, c :: rest =>
    if c = '#' then skipLoose skipped true rest
    else if skipped c then skipLoose skipped false rest
    else c :: rest

def Mode.skip (mode : Mode) (s : List Char) : List Char :=
  if mode.loose then skipLoose isBlank false s else s

def Mode.skipDashes (mode : Mode) (s : List Char) : List Char :=
  if mode.loose then skipLoose (fun c => isBlank c || c = '-') false s else s.dropWhile (· = '-')

inductive Escape where
  | character (c : Char)
  /-- A character beyond ASCII by two digits, which is half of one where bytes are matched. -/
  | byte (c : Char)
  | set (negated : Bool)
  /-- The characters of a general category. -/
  | category
  /-- An end of the text. -/
  | anchor
  /-- A bound of a word. -/
  | bound
deriving DecidableEq, Repr

/-- Whether an escape may stand in a pattern. Only bounds of words in ASCII can be matched without
looking around. -/
def Escape.mayStand (mode : Mode) : Escape → Bool
  | .character _ => true
  | .byte _ => !mode.bytes
  | .set negated => !(mode.bytes && negated)
  | .category => !mode.bytes
  | .anchor => true
  | .bound => mode.bytes

def Escape.isMember (mode : Mode) : Escape → Bool
  | .character c => !mode.bytes || c.toNat < 0x80
  | .anchor => false
  | .bound => false
  | e => e.mayStand mode

def Escape.character? : Escape → Option Char
  | .character c => some c
  | .byte c => some c
  | _ => none

/-- The characters with a meaning of their own, which an escape takes from them. -/
def metaCharacters : List Char :=
  ['\\', '.', '+', '*', '?', '(', ')', '|', '[', ']', '\x7b', '\x7d', '^', '$', '#', '&', '-', '~']

def isEscapable (c : Char) : Bool :=
  metaCharacters.contains c || (c.toNat < 0x80 && !c.isAlphanum && c ≠ '<' && c ≠ '>')

/-- Reads as many hexadecimal digits as stated, after the number that the ones before denote. -/
def readDigits (mode : Mode) : (width n : Nat) → List Char → Option (Nat × List Char)
  | 0, n, s => some (n, s)
  | _ + 1, _, [] => none
  | width + 1, n, c :: rest =>
    (radixDigit? 16 c).bind fun digit => readDigits mode width (n * 16 + digit) (mode.skip rest)

def readNumbered (mode : Mode) (width : Nat) (s : List Char) : Option (Char × List Char) :=
  match readDigits mode width 0 (mode.skip s) with
  | some (n, rest) => if n.isValidChar then some (Char.ofNat n, rest) else none
  | none => none

def readCategory (mode : Mode) (s : List Char) : Option (List Char) :=
  match mode.skip s with
  | c :: rest => if "clmnpsz".toList.contains c.toLower then some (mode.skip rest) else none
  | [] => none

def Escape.ofLetter? : Char → Option Escape
  | 'a' => some (.character '\x07')
  | 'f' => some (.character '\x0c')
  | 't' => some (.character '\t')
  | 'n' => some (.character '\n')
  | 'r' => some (.character '\r')
  | 'v' => some (.character '\x0b')
  | 'd' => some (.set false)
  | 's' => some (.set false)
  | 'w' => some (.set false)
  | 'D' => some (.set true)
  | 'S' => some (.set true)
  | 'W' => some (.set true)
  | 'A' => some .anchor
  | 'z' => some .anchor
  | 'b' => some .bound
  | 'B' => some .bound
  | '<' => some .bound
  | '>' => some .bound
  | _ => none

def readEscape (mode : Mode) (s : List Char) : Option (Escape × List Char) :=
  match s with
  | [] => none
  | 'x' :: rest =>
    (readNumbered mode 2 rest).map fun (c, rest) =>
      (if c.toNat < 0x80 then .character c else .byte c, rest)
  | 'u' :: rest => (readNumbered mode 4 rest).map fun (c, rest) => (.character c, rest)
  | 'U' :: rest => (readNumbered mode 8 rest).map fun (c, rest) => (.character c, rest)
  | 'p' :: rest => (readCategory mode rest).map (.category, ·)
  | 'P' :: rest => (readCategory mode rest).map (.category, ·)
  | c :: rest =>
    if isEscapable c then some (.character c, rest)
    else (Escape.ofLetter? c).map (·, rest)

end FundsLedger.Text.Pattern
