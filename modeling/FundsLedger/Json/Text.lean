import FundsLedger.Json.Fault
import FundsLedger.Text.Radix

/-!
# Strings

Reading a string decodes its escapes and joins surrogate pairs. Passing over a string, as is done
with what nobody asked for, checks the escapes but lets a lone surrogate be.
-/

namespace FundsLedger.Json

/-- The code unit that four hexadecimal digits denote. Where fewer than four bytes are left, the
text counts as cut short whatever they are. -/
def readCodeUnit (s : List Char) : Except Fault (Nat × List Char) :=
  match s with
  | a :: b :: c :: d :: rest =>
    match FundsLedger.Text.radixValue? 16 [a, b, c, d] with
    | some n => .ok (n, rest)
    | none => .error .malformed
  | s => .error (if (String.ofList s).utf8ByteSize < 4 then .truncated else .malformed)

def isLeadingSurrogate (n : Nat) : Bool :=
  0xd800 ≤ n && n ≤ 0xdbff

def isTrailingSurrogate (n : Nat) : Bool :=
  0xdc00 ≤ n && n ≤ 0xdfff

def joinSurrogates (leading trailing : Nat) : Char :=
  Char.ofNat ((leading - 0xd800) * 0x400 + (trailing - 0xdc00) + 0x10000)

/-- Reads the second half of a surrogate pair, after its first. -/
def readTrailing (leading : Nat) (s : List Char) : Except Fault (Char × List Char) :=
  match s with
  | [] => .error .truncated
  | c :: s =>
    if c ≠ '\\' then .error .malformed
    else match s with
      | [] => .error .truncated
      | c :: s =>
        if c ≠ 'u' then .error .malformed
        else match readCodeUnit s with
          | .error fault => .error fault
          | .ok (n, rest) =>
            if isTrailingSurrogate n then .ok (joinSurrogates leading n, rest)
            else .error .malformed

/-- Reads a character written as a code unit, or as two of them. -/
def readCodePoint (s : List Char) : Except Fault (Char × List Char) :=
  match readCodeUnit s with
  | .error fault => .error fault
  | .ok (n, rest) =>
    if isTrailingSurrogate n then .error .malformed
    else if isLeadingSurrogate n then readTrailing n rest
    else .ok (Char.ofNat n, rest)

def namedEscape? : Char → Option Char
  | '"' => some '"'
  | '\\' => some '\\'
  | '/' => some '/'
  | 'b' => some '\x08'
  | 'f' => some '\x0c'
  | 'n' => some '\n'
  | 'r' => some '\r'
  | 't' => some '\t'
  | _ => none

def readEscape (s : List Char) : Except Fault (Char × List Char) :=
  match s with
  | [] => .error .truncated
  | c :: rest =>
    if c = 'u' then readCodePoint rest
    else match namedEscape? c with
      | some d => .ok (d, rest)
      | none => .error .malformed

def skipEscape (s : List Char) : Except Fault (List Char) :=
  match s with
  | [] => .error .truncated
  | c :: rest =>
    if c = 'u' then
      match readCodeUnit rest with
      | .error fault => .error fault
      | .ok (_, rest) => .ok rest
    else if (namedEscape? c).isSome then .ok rest
    else .error .malformed

/-- Whether a character may not stand in a string as it is. -/
def isControl (c : Char) : Bool :=
  c.toNat < 0x20

theorem readCodeUnit_length {s rest : List Char} {n : Nat} (h : readCodeUnit s = .ok (n, rest)) :
    rest.length < s.length := by
  unfold readCodeUnit at h
  split at h
  · split at h
    · cases h; simp only [List.length_cons]; omega
    · cases h
  · cases h

theorem readTrailing_length {s rest : List Char} {leading : Nat} {c : Char}
    (h : readTrailing leading s = .ok (c, rest)) : rest.length < s.length := by
  unfold readTrailing at h
  repeat' split at h
  all_goals simp only [reduceCtorEq, Except.ok.injEq, Prod.mk.injEq] at h
  rename_i heq _
  have := readCodeUnit_length heq
  obtain ⟨_, rfl⟩ := h
  simp only [List.length_cons]
  omega

theorem readCodePoint_length {s rest : List Char} {c : Char}
    (h : readCodePoint s = .ok (c, rest)) : rest.length < s.length := by
  unfold readCodePoint at h
  split at h
  · cases h
  · rename_i heq
    have := readCodeUnit_length heq
    split at h
    · cases h
    · split at h
      · have := readTrailing_length h; omega
      · cases h; assumption

theorem readEscape_length {s rest : List Char} {c : Char} (h : readEscape s = .ok (c, rest)) :
    rest.length < s.length := by
  unfold readEscape at h
  split at h
  · cases h
  · split at h
    · have := readCodePoint_length h; simp only [List.length_cons]; omega
    · split at h
      · cases h; simp
      · cases h

theorem skipEscape_length {s rest : List Char} (h : skipEscape s = .ok rest) :
    rest.length < s.length := by
  unfold skipEscape at h
  split at h
  · cases h
  · split at h
    · split at h
      · cases h
      · rename_i heq
        cases h
        have := readCodeUnit_length heq
        simp only [List.length_cons]; omega
    · split at h
      · cases h; simp
      · cases h

def readString (s : List Char) : Except Fault (List Char × List Char) :=
  match s with
  | [] => .error .truncated
  | c :: rest =>
    if c = '"' then .ok ([], rest)
    else if c = '\\' then
      match h : readEscape rest with
      | .error fault => .error fault
      | .ok (c, after) =>
        have := readEscape_length h
        match readString after with
        | .error fault => .error fault
        | .ok (chars, rest) => .ok (c :: chars, rest)
    else if isControl c then .error .malformed
    else
      match readString rest with
      | .error fault => .error fault
      | .ok (chars, rest) => .ok (c :: chars, rest)
termination_by s.length
decreasing_by all_goals simp only [List.length_cons]; omega

def skipString (s : List Char) : Except Fault (List Char) :=
  match s with
  | [] => .error .truncated
  | c :: rest =>
    if c = '"' then .ok rest
    else if c = '\\' then
      match h : skipEscape rest with
      | .error fault => .error fault
      | .ok after =>
        have := skipEscape_length h
        skipString after
    else if isControl c then .error .malformed
    else skipString rest
termination_by s.length
decreasing_by all_goals simp only [List.length_cons]; omega

theorem skipString_length {s rest : List Char} (h : skipString s = .ok rest) :
    rest.length < s.length := by
  fun_induction skipString s with
  | case1 => cases h
  | case2 => cases h; simp
  | case3 => cases h
  | case4 tail hq after heq this ih => have := ih h; simp only [List.length_cons]; omega
  | case5 => cases h
  | case6 c tail _ _ _ ih => have := ih h; simp only [List.length_cons]; omega

def writeChar (c : Char) : List Char :=
  if c = '"' then ['\\', '"']
  else if c = '\\' then ['\\', '\\']
  else if c = '\x08' then ['\\', 'b']
  else if c = '\x0c' then ['\\', 'f']
  else if c = '\n' then ['\\', 'n']
  else if c = '\r' then ['\\', 'r']
  else if c = '\t' then ['\\', 't']
  else if isControl c then '\\' :: 'u' :: FundsLedger.Text.hexDigits 4 c.toNat
  else [c]

def writeString (s : List Char) : List Char :=
  '"' :: (s.flatMap writeChar ++ ['"'])

end FundsLedger.Json
