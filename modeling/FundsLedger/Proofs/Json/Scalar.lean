import FundsLedger.Json.Scalar
import FundsLedger.Proofs.Json.Grammar

/-!
# Scalars, however they are spelled

A string is read as the text that it denotes, however it is spelled, and what is written for a text
is one spelling of it. An integer is read as it was written, as long as what stands behind it is no
part of a number. What is left to read is what stands behind.
-/

namespace FundsLedger.Json

open FundsLedger.Text (NoDigit decimal digitValue hexDigits isDigit signedDecimal)

/-! ### Strings -/

section Strings

variable {c : Char} {s rest : List Char}

/-- A character in front of a string that was read. -/
def push (c : Char) : Except Fault (List Char × List Char) → Except Fault (List Char × List Char) :=
  Except.map fun (chars, rest) => (c :: chars, rest)

theorem readString_quote (rest : List Char) : readString ('"' :: rest) = .ok ([], rest) := by
  rw [readString]
  rfl

theorem readString_plain (h : IsPlain c) (s : List Char) :
    readString (c :: s) = push c (readString s) := by
  rw [readString, if_neg h.1, if_neg h.2.1, h.2.2]
  cases readString s <;> rfl

theorem readString_escape (h : readEscape s = .ok (c, rest)) :
    readString ('\\' :: s) = push c (readString rest) := by
  rw [readString, if_neg (by decide), if_pos rfl]
  split
  · rename_i heq
    rw [h] at heq
    cases heq
  · rename_i heq
    rw [h] at heq
    cases heq
    cases readString rest <;> rfl

theorem readCodeUnit_append {digits : List Char} {n : Nat} (h : IsCodeUnit digits n)
    (rest : List Char) : readCodeUnit (digits ++ rest) = .ok (n, rest) := by
  obtain ⟨length, value⟩ := h
  match digits, length with
  | [a, b, c, d], _ => simp only [List.cons_append, List.nil_append, readCodeUnit, value]

theorem readEscape_append {raw : List Char} (h : Escape raw c) (rest : List Char) :
    readEscape (raw ++ rest) = .ok (c, rest) := by
  cases h with
  | @named letter _ h =>
    have noUnit : letter ≠ 'u' := by
      rintro rfl
      cases h
    simp [readEscape, noUnit, h]
  | unit h leading trailing =>
    simp [readEscape, readCodePoint, readCodeUnit_append h, leading, trailing]
  | @pair first second m n h leading h' trailing =>
    have other : isTrailingSurrogate m = false := by
      simp only [isLeadingSurrogate, isTrailingSurrogate, Bool.and_eq_true, decide_eq_true_eq,
        Bool.and_eq_false_iff, decide_eq_false_iff_not] at leading ⊢
      omega
    simp [readEscape, readCodePoint, readCodeUnit_append h, leading, other, readTrailing,
      readCodeUnit_append h', trailing]

/-- A string is read however it is spelled. -/
theorem readString_append {raw text : List Char} (h : Spells raw text) (rest : List Char) :
    readString (raw ++ '"' :: rest) = .ok (text, rest) := by
  induction h with
  | nil => exact readString_quote rest
  | plain h _ ih =>
    rw [List.cons_append, readString_plain h, ih]
    rfl
  | escape h _ ih =>
    rw [List.cons_append, List.append_assoc, readString_escape (readEscape_append h _), ih]
    rfl

theorem isCodeUnit_hexDigits {n : Nat} (h : n < 65536) : IsCodeUnit (hexDigits 4 n) n := by
  have value := Text.radixValue?_hexDigits 4 n
  rw [Nat.mod_eq_of_lt (show n < Nat.pow 16 4 from h)] at value
  exact ⟨Text.length_hexDigits 4 n, value⟩

/-- A control character is no surrogate, so its code unit alone denotes it. -/
theorem escape_control (h : isControl c = true) : Escape ('u' :: hexDigits 4 c.toNat) c := by
  have small : c.toNat < 0x20 := of_decide_eq_true h
  have escape : Escape ('u' :: hexDigits 4 c.toNat) (Char.ofNat c.toNat) := by
    refine .unit (isCodeUnit_hexDigits (by omega)) ?_ ?_
    all_goals
      simp only [isLeadingSurrogate, isTrailingSurrogate, Bool.and_eq_false_iff,
        decide_eq_false_iff_not]
      omega
  rwa [Char.ofNat_toNat] at escape

theorem spells_writeChar {raw text : List Char} (c : Char) (h : Spells raw text) :
    Spells (writeChar c ++ raw) (c :: text) := by
  unfold writeChar
  -- The seven escapes that have a letter of their own.
  iterate 7
    split
    · subst c
      exact .escape (.named rfl) h
  split
  · rename_i control
    exact .escape (escape_control control) h
  · rename_i notQuote notEscape _ _ _ _ _ plain
    exact .plain ⟨notQuote, notEscape, Bool.eq_false_iff.mpr plain⟩ h

/-- What is written for a text spells it. -/
theorem spells_written (s : List Char) : Spells (s.flatMap writeChar) s := by
  induction s with
  | nil => exact .nil
  | cons c s ih => exact spells_writeChar c ih

theorem quoted_writeString (s : List Char) : Quoted s (writeString s) :=
  ⟨_, rfl, spells_written s⟩

section Blanks

variable {α : Type} {before : List Char} (h : Blank before)
include h

theorem readText_blank (s : List Char) : readText (before ++ s) = readText s := by
  simp [readText, skipBlanks_blank h]

theorem readTextAs_blank (parse : List Char → Option α) (s : List Char) :
    readTextAs parse (before ++ s) = readTextAs parse s := by
  simp [readTextAs, readText_blank h]

theorem readChoice_blank (ofName? : List Char → Option α) (s : List Char) :
    readChoice ofName? (before ++ s) = readChoice ofName? s := by
  simp [readChoice, skipBlanks_blank h]

theorem readOptional_blank (ofName? : List Char → Option α) (s : List Char) :
    readOptional (readChoice ofName?) (before ++ s) = readOptional (readChoice ofName?) s := by
  simp only [readOptional, skipBlanks_blank h, readChoice_blank h]

theorem readNumberAs_blank (parse : Number → Option α) (s : List Char) :
    readNumberAs parse (before ++ s) = readNumberAs parse s := by
  simp [readNumberAs, skipBlanks_blank h]

end Blanks

section Choices

variable {α : Type} {parse : List Char → Option α} {a : α} {text : List Char}

theorem readTextAs_quoted {quoted : List Char} (h : Quoted text quoted)
    (parsed : parse text = some a) (rest : List Char) :
    readTextAs parse (quoted ++ rest) = .ok (a, rest) := by
  obtain ⟨raw, rfl, spells⟩ := h
  have quote : isBlank '"' = false := rfl
  simp [readTextAs, readText, skipBlanks_cons quote, readString_append spells, parsed]

theorem readChoice_append {chosen : List Char} (h : Chooses text chosen)
    (parsed : parse text = some a) (rest : List Char) :
    readChoice parse (chosen ++ rest) = .ok (a, rest) := by
  have quote : isBlank '"' = false := rfl
  have brace : isBlank '{' = false := rfl
  have close : isBlank '}' = false := rfl
  have letter : isBlank 'n' = false := rfl
  cases h with
  | string h =>
    have read := readTextAs_quoted h parsed rest
    obtain ⟨raw, rfl, _⟩ := h
    rw [List.cons_append] at read ⊢
    rw [readChoice, skipBlanks_cons quote]
    exact read
  | object m key null =>
    have name (rest : List Char) := readTextAs_quoted ⟨m.name.core, rfl, key⟩ parsed rest
    simp only [List.cons_append, List.append_assoc, List.nil_append] at name
    simp [readChoice, skipBlanks_cons brace, Member.text, Padded.text, readKeyAs,
      skipBlanks_blank_cons m.name.blankBefore quote, name, readColon_blank m.name.blankAfter,
      null, readNull, skipBlanks_blank_cons m.value.blankBefore letter, readWord, readObjectEnd,
      skipBlanks_blank_cons m.value.blankAfter close, bind, Except.bind, pure, Except.pure]

theorem readOptional_append {chosen : List Char} (h : Chooses text chosen)
    (parsed : parse text = some a) (rest : List Char) :
    readOptional (readChoice parse) (chosen ++ rest) = .ok (some a, rest) := by
  have notNull : ∀ more, skipBlanks (chosen ++ rest) ≠ 'n' :: more := by
    intro more
    cases h with
    | string h =>
      obtain ⟨raw, rfl, _⟩ := h
      simp [skipBlanks_cons (show isBlank '"' = false from rfl)]
    | object => simp [skipBlanks_cons (show isBlank '{' = false from rfl)]
  unfold readOptional
  split
  · exact absurd ‹_› (notNull _)
  · rw [readChoice_append h parsed rest]
    rfl

end Choices

end Strings

/-! ### Integers -/

section Integers

variable {digits rest : List Char}

/-- Digits are absorbed to the last if their value fits a word. -/
theorem absorb_eq {n : Nat}
    (h : digits.foldl (fun n c => n * 10 + digitValue c) n ≤ maxWord) :
    absorb n digits = (digits.foldl (fun n c => n * 10 + digitValue c) n, []) := by
  induction digits generalizing n with
  | nil => rfl
  | cons d digits ih =>
    have fits : n * 10 + digitValue d ≤ maxWord := Nat.le_trans (Text.le_appendDigits _ digits) h
    rw [absorb, if_pos fits]
    exact ih h

theorem readDigits_append (all : ∀ c ∈ digits, isDigit c = true) (some : digits ≠ [])
    (h : NoDigit rest) : readDigits (digits ++ rest) = .ok (digits, rest) := by
  rw [readDigits, Text.takeWhile_isDigit all h, Text.dropWhile_isDigit all h]
  split
  · exact absurd rfl some
  · rfl

/-- A numeral has no superfluous zero in front. -/
theorem no_leading_zero (n : Nat) :
    ¬(1 < (decimal n).length ∧ (decimal n).head? = some '0') := by
  rintro ⟨long, zero⟩
  by_cases h : n = 0
  · subst h
    rw [decimal] at long
    cases long with
    | step long => cases long
  · exact Text.head_decimal h zero

theorem readNumber_decimal {n : Nat} (fits : n ≤ maxWord) (h : Delimited rest) (negative : Bool) :
    readNumber negative (decimal n ++ rest) =
      .ok (if !negative then .integer n
        else if 0 < n ∧ n ≤ Nat.pow 2 63 then .integer (-n) else .inexact, rest) := by
  have value : (decimal n).foldl (fun n c => n * 10 + digitValue c) 0 = n :=
    Text.decimalValue_decimal n
  have absorbed : absorb 0 (decimal n) = (n, []) := by
    have h := @absorb_eq (decimal n) 0 (by rwa [value])
    rwa [value] at h
  rw [readNumber, readDigits_append (Text.isDigit_decimal n) (Text.decimal_ne_nil n) h.noDigit]
  simp only [bind, Except.bind, if_neg (no_leading_zero n), absorbed, pure, Except.pure]
  split
  · exact absurd rfl (h _ rfl).2.1
  · exact absurd rfl (h _ rfl).2.2.1
  · exact absurd rfl (h _ rfl).2.2.2
  · cases negative with
    | false => rfl
    | true =>
      change (if 0 < n ∧ n ≤ Nat.pow 2 63 then _ else _) =
        Except.ok (if 0 < n ∧ n ≤ Nat.pow 2 63 then _ else _, rest)
      split <;> rfl

theorem readNumberAs_signedDecimal {α : Type} {parse : Number → Option α} {n : Int} {a : α}
    (lower : -(Nat.pow 2 63 : Nat) ≤ n) (upper : n ≤ maxWord) (parsed : parse (.integer n) = some a)
    (h : Delimited rest) : readNumberAs parse (signedDecimal n ++ rest) = .ok (a, rest) := by
  have limit : Nat.pow 2 63 ≤ maxWord := by decide
  have fits : n.natAbs ≤ maxWord := by omega
  rw [readNumberAs, signedDecimal]
  by_cases negative : n < 0
  · have inRange : 0 < n.natAbs ∧ n.natAbs ≤ Nat.pow 2 63 := by omega
    have value : -(n.natAbs : Int) = n := by omega
    rw [if_pos negative, List.cons_append, skipBlanks_cons (by decide)]
    simp only [if_true, readNumber_decimal fits h, Bool.not_true, Bool.false_eq_true, if_false,
      if_pos inRange, value, parsed]
  · have read := readNumber_decimal fits h false
    have value : (n.natAbs : Int) = n := by omega
    obtain ⟨d, more, front⟩ := List.exists_cons_of_ne_nil (Text.decimal_ne_nil n.natAbs)
    have digit : isDigit d = true := Text.isDigit_decimal _ d (front ▸ List.mem_cons_self)
    have notMinus : d ≠ '-' := by
      rintro rfl
      cases digit
    rw [front, List.cons_append] at read
    rw [if_neg negative, front, List.cons_append, skipBlanks_cons (isBlank_of_isDigit digit)]
    simp only [if_neg notMinus, digit, if_true, read, Bool.not_false, value, parsed]

end Integers

end FundsLedger.Json
