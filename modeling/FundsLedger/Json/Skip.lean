import FundsLedger.Json.Number
import FundsLedger.Json.Text

/-!
# Passing over a value

A value under a name that nobody asked for is read to its end, whatever its depth, and checked on
the way. The brackets that are open form a stack, so depth costs no recursion of its own.
-/

namespace FundsLedger.Json

inductive Bracket where
  | list
  | object
deriving DecidableEq

def Bracket.closing : Bracket → Char
  | .list => ']'
  | .object => '}'

/-- What stands where a value is wanted. -/
inductive Opening where
  /-- A bracket opens here. -/
  | bracket (b : Bracket) (rest : List Char)
  /-- A value without parts ends here. -/
  | scalar (rest : List Char)

def Opening.rest : Opening → List Char
  | .bracket _ rest => rest
  | .scalar rest => rest

/-- Passes over a literal, a number or a string, or over an opening bracket. -/
def skipOpening (s : List Char) : Except Fault Opening :=
  match s with
  | [] => .error .truncated
  | c :: rest =>
    if c = '[' then .ok (.bracket .list rest)
    else if c = '{' then .ok (.bracket .object rest)
    else if c = '"' then (skipString rest).map .scalar
    else if c = '-' then (skipNumber rest).map .scalar
    else if Text.isDigit c then (skipNumber s).map .scalar
    else if c = 'n' then (readWord ['u', 'l', 'l'] rest).map .scalar
    else if c = 't' then (readWord ['r', 'u', 'e'] rest).map .scalar
    else if c = 'f' then (readWord ['a', 'l', 's', 'e'] rest).map .scalar
    else .error .malformed

def skipName (s : List Char) : Except Fault (List Char) :=
  match skipBlanks s with
  | [] => .error .truncated
  | c :: rest =>
    if c ≠ '"' then .error .malformed
    else match skipString rest with
      | .error fault => .error fault
      | .ok rest => readColon rest

/-- Passes over what stands before a value inside a bracket: nothing in a list, a name in an
object. -/
def Bracket.skipLabel (b : Bracket) (s : List Char) : Except Fault (List Char) :=
  match b with
  | .list => .ok s
  | .object => skipName s

theorem skipScale_length {s rest : List Char} (h : skipScale s = .ok rest) :
    rest.length ≤ s.length := by
  have exponent {s rest : List Char} (h : skipExponent s = .ok rest) : rest.length ≤ s.length := by
    have sign : (readExponentSign s).2.length ≤ s.length := by
      unfold readExponentSign
      split <;> simp
    unfold skipExponent at h
    simp only at h
    split at h
    · cases h
    · cases h
      exact Nat.le_trans (List.dropWhile_sublist _).length_le sign
  unfold skipScale at h
  split at h
  · exact Nat.le_succ_of_le (exponent h)
  · exact Nat.le_succ_of_le (exponent h)
  · cases h; exact Nat.le_refl _

theorem skipNumber_length {s rest : List Char} (h : skipNumber s = .ok rest) :
    rest.length < s.length := by
  unfold skipNumber at h
  simp only at h
  split at h
  · cases h
  · rename_i hd
    have hlt : (s.dropWhile Text.isDigit).length < s.length := by
      have hsum := congrArg List.length (List.takeWhile_append_dropWhile (p := Text.isDigit) (l := s))
      have hpos : (s.takeWhile Text.isDigit) ≠ [] := by
        intro he
        exact hd (Or.inl (by simp [he]))
      have := List.length_pos_iff.2 hpos
      simp only [List.length_append] at hsum
      omega
    split at h
    · rename_i tail heq
      rw [heq] at hlt
      split at h
      · cases h
      · have := skipScale_length h
        have := (List.dropWhile_sublist Text.isDigit (l := tail)).length_le
        simp only [List.length_cons] at hlt
        omega
    · have := skipScale_length h
      omega

theorem skipOpening_length {s : List Char} {o : Opening} (h : skipOpening s = .ok o) :
    o.rest.length < s.length := by
  unfold skipOpening at h
  split at h
  · cases h
  · rename_i c tail
    have mapped {r : Except Fault (List Char)} {bound : Nat}
        (hr : ∀ rest, r = .ok rest → rest.length < bound) (h : r.map Opening.scalar = .ok o) :
        o.rest.length < bound := by
      cases r with
      | error fault => cases h
      | ok rest => cases h; exact hr rest rfl
    repeat' split at h
    · cases h; simp [Opening.rest]
    · cases h; simp [Opening.rest]
    · exact Nat.lt_succ_of_lt (mapped (fun _ => skipString_length) h)
    · exact Nat.lt_succ_of_lt (mapped (fun _ => skipNumber_length) h)
    · exact mapped (fun _ => skipNumber_length) h
    · exact mapped (fun _ hr => Nat.lt_succ_of_le (readWord_length hr)) h
    · exact mapped (fun _ hr => Nat.lt_succ_of_le (readWord_length hr)) h
    · exact mapped (fun _ hr => Nat.lt_succ_of_le (readWord_length hr)) h
    · cases h

theorem skipName_length {s rest : List Char} (h : skipName s = .ok rest) :
    rest.length < s.length := by
  have hs := length_skipBlanks_le s
  unfold skipName at h
  split at h
  · cases h
  · rename_i heq
    rw [heq] at hs
    split at h
    · cases h
    · split at h
      · cases h
      · rename_i hk
        have := skipString_length hk
        have := readColon_length h
        simp only [List.length_cons] at hs
        omega

theorem Bracket.skipLabel_length {b : Bracket} {s rest : List Char}
    (h : b.skipLabel s = .ok rest) : rest.length ≤ s.length := by
  cases b with
  | list => cases h; exact Nat.le_refl _
  | object => exact Nat.le_of_lt (skipName_length h)

mutual

/-- Passes over a value and then over the rest of the brackets around it. -/
def skipValue (stack : List Bracket) (s : List Char) : Except Fault (List Char) :=
  match h : skipOpening (skipBlanks s) with
  | .error fault => .error fault
  | .ok (.scalar rest) =>
    have : rest.length < s.length :=
      Nat.lt_of_lt_of_le (skipOpening_length h) (length_skipBlanks_le s)
    skipRest stack true rest
  | .ok (.bracket b rest) =>
    have : rest.length < s.length :=
      Nat.lt_of_lt_of_le (skipOpening_length h) (length_skipBlanks_le s)
    skipRest (b :: stack) false rest
termination_by (s.length, 0)

/-- Passes over what is left inside the open brackets. A comma may come next only after a value. -/
def skipRest (stack : List Bracket) (afterValue : Bool) (s : List Char) :
    Except Fault (List Char) :=
  match stack with
  | [] => .ok s
  | b :: outer =>
    match hs : skipBlanks s with
    | [] => .error .truncated
    | c :: rest =>
      have hlt : rest.length < s.length := by
        have := length_skipBlanks_le s
        rw [hs] at this
        exact this
      if c = b.closing then skipRest outer true rest
      else if afterValue then
        if c ≠ ',' then .error .malformed
        else match hl : b.skipLabel rest with
          | .error fault => .error fault
          | .ok next =>
            have := Bracket.skipLabel_length hl
            skipValue (b :: outer) next
      else match hl : b.skipLabel s with
        | .error fault => .error fault
        | .ok next =>
          have := Bracket.skipLabel_length hl
          skipValue (b :: outer) next
termination_by (s.length, 1)
decreasing_by all_goals omega

end

def skip (s : List Char) : Except Fault (List Char) :=
  skipValue [] s

end FundsLedger.Json
