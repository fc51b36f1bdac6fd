/-!
# Cutting a text into pieces

A separator cuts a text into one piece more than it occurs.
-/

namespace FundsLedger.Text

/-- The pieces of a text between the occurrences of a separator. -/
def pieces (separator : Char) : List Char → List (List Char)
  | [] => [[]]
  | c :: rest =>
    if c = separator then [] :: pieces separator rest
    else
      match pieces separator rest with
      | [] => [[c]]
      | piece :: more => (c :: piece) :: more

def cutFirst (separator : Char) (s : List Char) : Option (List Char × List Char) :=
  match s.dropWhile (· ≠ separator) with
  | [] => none
  | _ :: rest => some (s.takeWhile (· ≠ separator), rest)

def cutLast (separator : Char) (s : List Char) : Option (List Char × List Char) :=
  (cutFirst separator s.reverse).map fun (after, before) => (before.reverse, after.reverse)

end FundsLedger.Text
