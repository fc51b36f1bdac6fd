import FundsLedger.Address.Mapping
import FundsLedger.Address.Punycode
import FundsLedger.Text.Composition
import FundsLedger.Text.Directionality
import FundsLedger.Text.Joining

/-!
# Labels of a name

A name is a row of labels with points between them. A label shows the text that it encodes behind
`xn--`, or else itself. What it shows has to stand by itself: it does not start with a mark, the
invisible joiners stand only where they make a difference, and next to text from right to left each
label keeps to one direction.
-/

namespace FundsLedger.Address

open FundsLedger.Text

/-- Whether a character may not stand in any name. -/
def isForbidden (c : Char) : Bool :=
  "\x00\t\n\r #/:<>?@[\\]^|".toList.contains c

def isForbiddenInDomain (c : Char) : Bool :=
  isForbidden c || c.toNat < 0x20 || c = '%' || c = '\x7f'

def isAscii (s : List Char) : Bool :=
  s.all fun c => c.toNat < 128

/-- The longest encoding that is decoded. -/
def maxEncoded : Nat := 2000

/-- The longest text that can be encoded. -/
def maxShown : Nat := 1000

/-- What a label shows. An encoding has to be needed and to be that of a composed text of characters
that count as themselves. -/
def shownLabel? (label : List Char) : Option (List Char) :=
  match label with
  | 'x' :: 'n' :: '-' :: '-' :: encoded =>
    if maxEncoded < encoded.length then none
    else
      (Punycode.decode? encoded).filter fun text =>
        !isAscii text && text.all isPlain && composed text == text
  | _ => some label

def isNonJoiner (c : Char) : Bool :=
  c.toNat = 0x200c

def isJoiner (c : Char) : Bool :=
  c.toNat = 0x200d

/-- Whether a joiner may stand between two texts, of which the first is given in reverse. Either
joiner may follow a virama, and letters that would be joined may be kept apart. -/
def mayJoin (c : Char) (before after : List Char) : Bool :=
  before.head?.any (combiningClass · == viramaClass) ||
    (isNonJoiner c &&
      (before.dropWhile isTransparent).head?.any joinsForward &&
      (after.dropWhile isTransparent).head?.any joinsBackward)

/-- Whether every joiner in a text may stand there. The text before is given in reverse. -/
def joinersFit (before : List Char) : List Char → Bool
  | [] => true
  | c :: rest =>
    (!(isNonJoiner c || isJoiner c) || mayJoin c before rest) && joinersFit (c :: before) rest

def isLabel (s : List Char) : Bool :=
  s.all (!isForbiddenInDomain ·) && !s.head?.any isMark && joinersFit [] s &&
    (isAscii s || s.length ≤ maxShown)

/-- Whether a text calls for a check of the direction of all labels. -/
def isDirected (s : List Char) : Bool :=
  s.any fun c => directionality c = .rightToLeft || directionality c = .arabicNumber

def endsIn (allowed row : List Directionality) : Bool :=
  (row.reverse.dropWhile (· = .nonspacing)).head?.any allowed.contains

/-- Whether a label keeps to one direction, which its first letter sets. From left to right nothing
may run the other way. From right to left there may be digits, all of one kind. -/
def keepsDirection (s : List Char) : Bool :=
  let row := s.map directionality
  match row with
  | [] => true
  | .leftToRight :: _ =>
    !row.contains .rightToLeft && !row.contains .arabicNumber &&
      endsIn [.leftToRight, .europeanNumber] row
  | .rightToLeft :: _ =>
    !row.contains .leftToRight &&
      endsIn [.rightToLeft, .europeanNumber, .arabicNumber] row &&
      !(row.contains .europeanNumber && row.contains .arabicNumber)
  | _ => false

def areLabels (labels : List (List Char)) : Bool :=
  labels.all isLabel && (!labels.any isDirected || labels.all keepsDirection)

def mappedName? (s : List Char) : Option (List Char) := do
  let name := composed (← s.mapM mapped?).flatten
  let labels ← (pieces '.' name).mapM shownLabel?
  if areLabels labels then some name else none

end FundsLedger.Address
