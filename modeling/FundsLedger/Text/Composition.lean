import FundsLedger.Text.CombiningClass
import FundsLedger.Text.Composite

/-!
# Composed text

A text can often be written in more than one way: with composites or with their parts, and with
marks that do not meet in any order. The composed form is one for all of them. It takes every
composite apart, sorts the marks, and then joins each character with the marks after it as far as
that goes. A character that is a mere variant of another one stays as it is.
-/

namespace FundsLedger.Text

def takenApart (s : List Char) : List Char :=
  s.flatMap fun c =>
    match parts? c with
    | some (a, b) => [a, b]
    | none => [c]

/-- The text without composites. No composite is nested more than three deep. -/
def decomposed (s : List Char) : List Char :=
  takenApart (takenApart (takenApart s))

/-- Puts a character in front of a text with sorted marks, behind the marks of lower classes. -/
def insertMark (c : Char) : List Char → List Char
  | [] => [c]
  | d :: rest =>
    if 0 < combiningClass d && combiningClass d < combiningClass c then d :: insertMark c rest
    else c :: d :: rest

/-- The text with the marks after each character sorted by class. Marks of one class stay in
order. -/
def sortMarks (s : List Char) : List Char :=
  s.foldr insertMark []

/-- Joins what follows to `base`. The marks that were left in between stand in `between`, the last
one first. They bar a character whose class is not above theirs. -/
def joinTo (base : Char) (between : List Char) : List Char → List Char
  | [] => base :: between.reverse
  | c :: rest =>
    let barred := between.head?.any fun d => combiningClass c ≤ combiningClass d
    match if barred then none else composite? base c with
    | some whole => joinTo whole between rest
    | none =>
      if combiningClass c = 0 then base :: (between.reverse ++ joinTo c [] rest)
      else joinTo base (c :: between) rest

/-- Joins what can be joined in a text with sorted marks. Marks in front have nothing to join. -/
def joinAll : List Char → List Char
  | [] => []
  | c :: rest => if combiningClass c = 0 then joinTo c [] rest else c :: joinAll rest

def composed (s : List Char) : List Char :=
  joinAll (sortMarks (decomposed s))

end FundsLedger.Text
