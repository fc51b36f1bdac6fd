/-!
# What can be wrong with a text

A text is read from left to right, and the first problem decides how reading fails.
-/

namespace FundsLedger.Json

inductive Fault where
  /-- The text ends where more is needed. -/
  | truncated
  /-- The text is not JSON. -/
  | malformed
  /-- The text is JSON so far, but not of the type that is wanted. -/
  | mismatch
deriving DecidableEq, Repr

/-- A reader takes what it wants from the front of a text and returns what is left. -/
abbrev Reader (α : Type) := List Char → Except Fault (α × List Char)

/-- The four blank characters of JSON. -/
def isBlank (c : Char) : Bool :=
  c = ' ' || c = '\n' || c = '\t' || c = '\r'

def skipBlanks (s : List Char) : List Char :=
  s.dropWhile isBlank

/-- Reads the rest of a literal name. -/
def readWord : List Char → List Char → Except Fault (List Char)
  | [], s => .ok s
  | _ :: _, [] => .error .truncated
  | w :: word, c :: s => if c = w then readWord word s else .error .malformed

def readColon (s : List Char) : Except Fault (List Char) :=
  match skipBlanks s with
  | ':' :: rest => .ok rest
  | _ :: _ => .error .malformed
  | [] => .error .truncated

theorem length_skipBlanks_le (s : List Char) : (skipBlanks s).length ≤ s.length :=
  (List.dropWhile_sublist _).length_le

theorem readWord_length {word s rest : List Char} (h : readWord word s = .ok rest) :
    rest.length ≤ s.length := by
  induction word generalizing s with
  | nil => cases h; exact Nat.le_refl _
  | cons w word ih =>
    cases s with
    | nil => cases h
    | cons c s =>
      rw [readWord] at h
      split at h
      · exact Nat.le_succ_of_le (ih h)
      · cases h

theorem readColon_length {s rest : List Char} (h : readColon s = .ok rest) :
    rest.length < s.length := by
  have hs := length_skipBlanks_le s
  unfold readColon at h
  split at h
  · rename_i heq
    cases h
    rw [heq] at hs
    exact hs
  · cases h
  · cases h

end FundsLedger.Json
