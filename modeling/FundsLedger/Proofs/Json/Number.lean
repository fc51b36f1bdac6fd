import FundsLedger.Proofs.Json.Scalar
import Mathlib.Tactic.ByContra

/-!
# Which numbers are integers

Digits are taken into a word one by one, and what no longer fits is dropped. So a number counts as
an integer only if nothing was dropped, nothing follows its digits and it is not `-0`, and then it
counts for exactly what its digits denote, however many there are. The main statements are
`readNumber_integer`, for what is accepted, and `Numeral.text_eq`, for how it is written.
-/

namespace FundsLedger.Json

open FundsLedger.Text (decimal decimalValue digitValue isDigit signedDecimal)

variable {t : Numeral} {rest : List Char}

/-- Where no digit is dropped, the digits denote what was absorbed. -/
theorem absorb_exact {n : Nat} {digits : List Char} (h : (absorb n digits).2 = []) :
    (absorb n digits).1 = digits.foldl (fun n c => n * 10 + digitValue c) n := by
  induction digits generalizing n with
  | nil => rfl
  | cons d digits ih =>
    by_cases fits : n * 10 + digitValue d ≤ maxWord
    · simp only [absorb, if_pos fits, List.foldl_cons] at h ⊢
      exact ih h
    · simp [absorb, if_neg fits] at h

/-- Whether reading a number ends without an integer. -/
def Inexact (result : Except Fault (Number × List Char)) : Prop :=
  ∀ n rest, result = .ok (n, rest) → n = .inexact

theorem inexact_error (fault : Fault) : Inexact (.error fault) := by
  intro n rest h
  cases h

theorem inexact_ok (rest : List Char) : Inexact (.ok (.inexact, rest)) := by
  intro n rest' h
  cases h
  rfl

theorem inexact_bind {α : Type} (result : Except Fault α)
    {next : α → Except Fault (Number × List Char)} (h : ∀ a, Inexact (next a)) :
    Inexact (result >>= next) := by
  cases result with
  | error fault => exact inexact_error fault
  | ok a => exact h a

theorem inexact_readScale (significand : Nat) (shift : Int) (s : List Char) :
    Inexact (readScale significand shift s >>= fun rest => pure (.inexact, rest)) :=
  inexact_bind _ inexact_ok

/-- A number with a fraction or an exponent is no integer. -/
theorem inexact_scale (delimited : Delimited rest) (h : t.fraction ≠ none ∨ t.exponent ≠ none) :
    Inexact (readNumber t.negative (t.unsigned ++ rest)) := by
  rw [Numeral.unsigned, List.append_assoc, readNumber,
    readDigits_append t.whole.isDigit t.whole.nonempty (t.noDigit_scale delimited)]
  simp only [bind, Except.bind, if_neg t.canonical, pure, Except.pure, Numeral.scale, Numeral.power]
  cases fraction : t.fraction with
  | some digits => exact inexact_bind _ fun _ => inexact_readScale _ _ _
  | none =>
    cases exponent : t.exponent with
    | some e =>
      rcases e.isLetter with letter | letter <;> rw [Option.elim_some, Exponent.text, letter] <;>
        exact inexact_readScale _ _ _
    | none => exact absurd exponent (h.resolve_left (not_not_intro fraction))

/-- Without a fraction and an exponent there is nothing but the digits. -/
theorem Numeral.unsigned_eq (fraction : t.fraction = none) (exponent : t.exponent = none) :
    t.unsigned = t.whole.chars := by
  simp [Numeral.unsigned, Numeral.scale, Numeral.power, fraction, exponent]

/-- A number is an integer only if it is written as one, and is what its digits denote then. -/
theorem readNumber_integer {n : Int} {rest' : List Char} (delimited : Delimited rest)
    (h : readNumber t.negative (t.unsigned ++ rest) = .ok (.integer n, rest')) :
    t.IsInteger ∧ n = t.value := by
  have fraction : t.fraction = none := by
    by_contra fraction
    cases inexact_scale delimited (.inl fraction) _ _ h
  have exponent : t.exponent = none := by
    by_contra exponent
    cases inexact_scale delimited (.inr exponent) _ _ h
  rw [Numeral.unsigned_eq fraction exponent, readNumber,
    readDigits_append t.whole.isDigit t.whole.nonempty delimited.noDigit] at h
  simp only [bind, Except.bind, if_neg t.canonical, pure, Except.pure] at h
  split at h
  · exact absurd rfl (delimited _ rfl).2.1
  · exact absurd rfl (delimited _ rfl).2.2.1
  · exact absurd rfl (delimited _ rfl).2.2.2
  · split at h
    · rename_i empty
      have exact : (absorb 0 t.whole.chars).1 = decimalValue t.whole.chars :=
        absorb_exact (List.isEmpty_iff.mp empty)
      rw [exact] at h
      cases negative : t.negative with
      | false =>
        simp only [negative, Bool.not_false, if_true] at h
        cases h
        simp [Numeral.IsInteger, Numeral.value, fraction, exponent, negative]
      | true =>
        simp only [negative, Bool.not_true, Bool.false_eq_true, if_false] at h
        split at h
        · rename_i positive
          cases h
          simp only [Numeral.IsInteger, Numeral.value, fraction, exponent, negative, if_true,
            true_and, and_true]
          omega
        · cases h
    · cases inexact_readScale _ _ _ _ _ h

/-- What is read from a numeral comes from the number behind its sign. -/
theorem readNumberAs_numeral {α : Type} {parse : Number → Option α} {a : α} {rest' : List Char}
    (h : readNumberAs parse (t.text ++ rest) = .ok (a, rest')) :
    ∃ n, readNumber t.negative (t.unsigned ++ rest) = .ok (n, rest') ∧ parse n = some a := by
  rw [readNumberAs] at h
  split at h
  · cases h
  · rename_i c s front
    have number : (if c = '-' then readNumber true s
        else if isDigit c = true then readNumber false (c :: s)
        else .error (faultAt (c :: s))) = readNumber t.negative (t.unsigned ++ rest) := by
      cases negative : t.negative with
      | true =>
        rw [Numeral.text, if_pos negative, List.cons_append, skipBlanks_cons rfl] at front
        obtain ⟨rfl, rfl⟩ := List.cons.inj front
        exact if_pos rfl
      | false =>
        obtain ⟨d, digits, whole⟩ := List.exists_cons_of_ne_nil t.whole.nonempty
        have digit := t.whole.isDigit d (whole ▸ List.mem_cons_self)
        have notMinus : d ≠ '-' := by
          rintro rfl
          cases digit
        rw [Numeral.text, if_neg (Bool.eq_false_iff.mp negative), Numeral.unsigned, whole,
          List.cons_append, List.cons_append, skipBlanks_cons (isBlank_of_isDigit digit)] at front
        obtain ⟨rfl, rfl⟩ := List.cons.inj front
        rw [if_neg notMinus, if_pos digit, Numeral.unsigned, whole, List.cons_append,
          List.cons_append]
    simp only [number] at h
    split at h
    · cases h
    · split at h
      · cases h
        exact ⟨_, ‹_›, ‹_›⟩
      · cases h

/-- An integer is written in one way only. -/
theorem Numeral.text_eq (h : t.IsInteger) : t.text = signedDecimal t.value := by
  obtain ⟨fraction, exponent, notZero⟩ := h
  have whole := Text.decimal_decimalValue t.whole.nonempty t.whole.isDigit t.canonical
  rw [Numeral.text, Numeral.unsigned_eq fraction exponent, Numeral.value, signedDecimal]
  rw [Numeral.value] at notZero
  cases negative : t.negative with
  | true =>
    simp only [negative, if_true, true_and] at notZero ⊢
    rw [if_pos (by omega), Int.natAbs_neg, Int.natAbs_natCast, whole]
  | false =>
    simp only [Bool.false_eq_true, if_false]
    rw [if_neg (by omega), Int.natAbs_natCast, whole]

end FundsLedger.Json
