import FundsLedger.Json.Skip
import FundsLedger.Proofs.Json.Scalar

/-!
# Values that are passed over

Any value of the grammar is passed over to its end, however deep its brackets go, and what stands
behind it is left. The reader keeps its open brackets on a stack; a value on the way to any stack
leaves the stack as it was. The main statement is `skip_isValue`.
-/

namespace FundsLedger.Json

open FundsLedger.Text (isDigit)

variable {rest : List Char}

/-! ### Strings and numbers -/

theorem skipString_plain {c : Char} (h : IsPlain c) (s : List Char) :
    skipString (c :: s) = skipString s := by
  rw [skipString, if_neg h.1, if_neg h.2.1, if_neg (by simp [h.2.2])]

theorem skipString_escape {s : List Char} (h : skipEscape s = .ok rest) :
    skipString ('\\' :: s) = skipString rest := by
  rw [skipString, if_neg (by decide), if_pos rfl]
  split <;> simp_all

theorem skipString_append {raw : List Char} (h : IsBody raw) (rest : List Char) :
    skipString (raw ++ '"' :: rest) = .ok rest := by
  induction h with
  | nil =>
    rw [List.nil_append, skipString]
    rfl
  | plain h _ ih => rw [List.cons_append, skipString_plain h, ih]
  | @named letter raw h _ ih =>
    have noUnit : letter ≠ 'u' := by
      rintro rfl
      cases h
    rw [List.cons_append, List.cons_append, skipString_escape, ih]
    simp [skipEscape, noUnit, h]
  | unit h _ ih =>
    rw [List.cons_append, List.cons_append, List.append_assoc, skipString_escape, ih]
    simp [skipEscape, readCodeUnit_append h]

theorem readExponentSign_append (e : Exponent) (rest : List Char) :
    (readExponentSign (e.sign ++ (e.digits.chars ++ rest))).2 = e.digits.chars ++ rest := by
  rcases e.isSign with h | h | h <;> rw [h]
  · obtain ⟨d, digits, front⟩ := List.exists_cons_of_ne_nil e.digits.nonempty
    have digit := e.digits.isDigit d (front ▸ List.mem_cons_self)
    rw [List.nil_append, front, List.cons_append]
    unfold readExponentSign
    split
    · simp_all [isDigit]
    · simp_all [isDigit]
    · rfl
  · rfl
  · rfl

theorem takeWhile_digits (digits : Digits) {s : List Char} (h : Text.NoDigit s) :
    (digits.chars ++ s).takeWhile isDigit = digits.chars :=
  Text.takeWhile_isDigit digits.isDigit h

theorem dropWhile_digits (digits : Digits) {s : List Char} (h : Text.NoDigit s) :
    (digits.chars ++ s).dropWhile isDigit = s :=
  Text.dropWhile_isDigit digits.isDigit h

theorem skipExponent_append (e : Exponent) (h : Delimited rest) :
    skipExponent (e.sign ++ (e.digits.chars ++ rest)) = .ok rest := by
  simp only [skipExponent, readExponentSign_append]
  rw [takeWhile_digits _ h.noDigit, dropWhile_digits _ h.noDigit]
  split
  · exact absurd ‹_› e.digits.nonempty
  · rfl

theorem skipScale_append (t : Numeral) (h : Delimited rest) :
    skipScale (t.power ++ rest) = .ok rest := by
  rw [Numeral.power]
  cases t.exponent with
  | some e =>
    have skipped := skipExponent_append e h
    rcases e.isLetter with letter | letter <;>
      simpa [Exponent.text, letter, skipScale] using skipped
  | none =>
    rw [Option.elim_none, List.nil_append]
    unfold skipScale
    split
    · exact absurd rfl (h _ rfl).2.2.1
    · exact absurd rfl (h _ rfl).2.2.2
    · rfl

theorem skipNumber_append (t : Numeral) (h : Delimited rest) :
    skipNumber (t.unsigned ++ rest) = .ok rest := by
  have nonempty (digits : Digits) : digits.chars.isEmpty = false := by
    simp [digits.nonempty]
  have front := t.front_power h
  have power := skipScale_append t h
  rw [Numeral.unsigned, List.append_assoc, skipNumber]
  simp only [takeWhile_digits _ (t.noDigit_scale h), dropWhile_digits _ (t.noDigit_scale h),
    nonempty, t.canonical, Bool.false_eq_true, or_self, if_false]
  rw [Numeral.scale]
  cases t.fraction with
  | some digits =>
    have noDigit : Text.NoDigit (t.power ++ rest) := fun c hc => (front c hc).1
    simp only [Option.elim_some, List.cons_append, List.append_assoc, takeWhile_digits _ noDigit,
      dropWhile_digits _ noDigit, nonempty, Bool.false_eq_true, if_false, power]
  | none =>
    rw [Option.elim_none, List.nil_append]
    split
    · rename_i point
      rw [point] at front
      exact absurd rfl (front _ rfl).2
    · exact power

/-! ### The stack machine -/

section Machine

variable {s : List Char} {stack outer : List Bracket} {b : Bracket}

theorem skipValue_eq (stack : List Bracket) (s : List Char) :
    skipValue stack s =
      match skipOpening (skipBlanks s) with
      | .error fault => .error fault
      | .ok (.scalar rest) => skipRest stack true rest
      | .ok (.bracket b rest) => skipRest (b :: stack) false rest := by
  rw [skipValue]
  split <;> simp_all

theorem skipValue_blank (h : Blank s) (stack : List Bracket) (rest : List Char) :
    skipValue stack (s ++ rest) = skipValue stack rest := by
  rw [skipValue_eq, skipValue_eq, skipBlanks_blank h]

theorem skipRest_eq (b : Bracket) (outer : List Bracket) (afterValue : Bool) (s : List Char) :
    skipRest (b :: outer) afterValue s =
      match skipBlanks s with
      | [] => .error .truncated
      | c :: rest =>
        if c = b.closing then skipRest outer true rest
        else if afterValue = true ∧ c ≠ ',' then .error .malformed
        else match b.skipLabel (if afterValue then rest else s) with
          | .error fault => .error fault
          | .ok next => skipValue (b :: outer) next := by
  rw [skipRest]
  split
  · simp_all
  · rename_i c rest heq
    by_cases closing : c = b.closing
    · simp [heq, closing]
    · cases afterValue with
      | true =>
        by_cases comma : c = ','
        · subst comma
          simp only [heq, if_neg closing, ne_eq, not_true_eq_false, and_false, if_false, if_true]
          split <;> simp_all
        · simp [heq, closing, comma]
      | false =>
        simp only [heq, closing, if_false, Bool.false_eq_true, false_and]
        split <;> simp_all

theorem skipRest_blank (h : Blank s) (afterValue : Bool) (rest : List Char) :
    skipRest (b :: outer) afterValue (s ++ rest) = skipRest (b :: outer) afterValue rest := by
  rw [skipRest_eq, skipRest_eq, skipBlanks_blank h]
  cases afterValue with
  | true => rfl
  | false =>
    cases b with
    | list => simp [Bracket.skipLabel, skipValue_blank h]
    | object => simp [Bracket.skipLabel, skipName, skipBlanks_blank h]

theorem skipRest_closing (b : Bracket) (outer : List Bracket) (afterValue : Bool)
    (rest : List Char) :
    skipRest (b :: outer) afterValue (b.closing :: rest) = skipRest outer true rest := by
  have visible : isBlank b.closing = false := by cases b <;> rfl
  simp [skipRest_eq, skipBlanks_cons visible]

/-- Whether a text is a value as far as the machine is concerned. -/
def Passes (text : List Char) : Prop :=
  ∀ stack {rest}, Delimited rest → skipValue stack (text ++ rest) = skipRest stack true rest

/-- Whether a text is one part of what a bracket encloses: an item or a member. -/
structure Bracket.IsPart (b : Bracket) (part : List Char) : Prop where
  opens : ∀ rest, ∃ c more, skipBlanks (part ++ rest) = c :: more ∧ c ≠ b.closing
  passes : ∀ outer {rest}, Delimited rest → ∃ next, b.skipLabel (part ++ rest) = .ok next ∧
    skipValue (b :: outer) next = skipRest (b :: outer) true rest

theorem delimited_closing (b : Bracket) (rest : List Char) : Delimited (b.closing :: rest) := by
  cases b <;> exact delimited_cons (by decide) rest

/-- What a bracket encloses is passed over part by part. -/
theorem skipRest_joined {parts : List (List Char)} (h : ∀ part ∈ parts, b.IsPart part)
    (first : Bool) (rest : List Char) :
    skipRest (b :: outer) (!first) (joined first parts ++ b.closing :: rest) =
      skipRest outer true rest := by
  induction parts generalizing first with
  | nil => exact skipRest_closing b outer _ rest
  | cons part parts ih =>
    have others := ih (fun p hp => h p (List.mem_cons_of_mem _ hp)) false
    have more := delimited_joined parts (delimited_closing b rest)
    obtain ⟨opens, passes⟩ := h part List.mem_cons_self
    obtain ⟨next, label, value⟩ := passes outer more
    obtain ⟨c, tail, front, notClosing⟩ := opens (joined false parts ++ b.closing :: rest)
    have comma : ',' ≠ b.closing := by cases b <;> decide
    rw [joined, List.append_assoc, List.append_assoc, skipRest_eq]
    cases first with
    | true => simp [front, notClosing, label, value, ← others]
    | false =>
      simp [skipBlanks_cons (show isBlank ',' = false from rfl), comma, label, value, ← others]

/-- A bracket with its parts is passed over if it is told by its opening character. -/
theorem passes_enclosed {opening : Char} {lead : List Char} {parts : List (List Char)}
    (visible : isBlank opening = false)
    (opens : ∀ rest, skipOpening (opening :: rest) = .ok (.bracket b rest)) (blank : Blank lead)
    (h : ∀ part ∈ parts, b.IsPart part) : Passes (enclosed opening b.closing lead parts) := by
  intro stack rest _
  rw [enclosed, List.cons_append, skipValue_eq, skipBlanks_cons visible, opens]
  simp only [List.append_assoc, List.cons_append, List.nil_append]
  rw [skipRest_blank blank]
  exact skipRest_joined h true rest

end Machine

/-! ### Values -/

theorem passes_scalar {text : List Char} (visible : Visible text)
    (h : ∀ {rest}, Delimited rest → skipOpening (text ++ rest) = .ok (.scalar rest)) :
    Passes text := by
  intro stack rest delimited
  have opening := h delimited
  obtain ⟨c, more, rfl, visible, _⟩ := visible
  rw [List.cons_append] at opening
  rw [skipValue_eq, List.cons_append, skipBlanks_cons visible, opening]

theorem skipOpening_digit {c : Char} (h : isDigit c = true) (s : List Char) :
    skipOpening (c :: s) = (skipNumber (c :: s)).map .scalar := by
  have other {d : Char} (hd : isDigit d = false) : c ≠ d := by
    rintro rfl
    simp [h] at hd
  simp [skipOpening, h, other (show isDigit '[' = false from rfl),
    other (show isDigit '{' = false from rfl), other (show isDigit '"' = false from rfl),
    other (show isDigit '-' = false from rfl)]

theorem skipOpening_numeral (t : Numeral) (h : Delimited rest) :
    skipOpening (t.text ++ rest) = .ok (.scalar rest) := by
  have number := skipNumber_append t h
  rw [Numeral.text]
  split
  · simp [skipOpening, number, Except.map]
  · obtain ⟨c, digits, whole⟩ := List.exists_cons_of_ne_nil t.whole.nonempty
    have digit := t.whole.isDigit c (whole ▸ List.mem_cons_self)
    rw [Numeral.unsigned, whole, List.cons_append, List.cons_append] at number ⊢
    rw [skipOpening_digit digit, number]
    rfl

/-- Every value is passed over. -/
theorem IsValue.passes {text : List Char} (h : IsValue text) : Passes text := by
  induction h with
  | isNull => exact passes_scalar IsValue.isNull.visible fun _ => rfl
  | isTrue => exact passes_scalar IsValue.isTrue.visible fun _ => rfl
  | isFalse => exact passes_scalar IsValue.isFalse.visible fun _ => rfl
  | number t => exact passes_scalar t.visible (skipOpening_numeral t)
  | string h =>
    refine passes_scalar (IsValue.string h).visible fun {rest} _ => ?_
    simp [skipOpening, skipString_append h, Except.map]
  | list blank items values ih =>
    refine passes_enclosed (b := .list) rfl (fun _ => rfl) blank fun part hpart => ?_
    obtain ⟨p, hp, rfl⟩ := List.mem_map.mp hpart
    obtain ⟨c, more, front, visible, notClosing⟩ := (values p hp).visible
    constructor
    · intro rest
      refine ⟨c, more ++ (p.after ++ rest), ?_, notClosing⟩
      rw [Padded.text_append, front, List.cons_append,
        skipBlanks_blank_cons p.blankBefore visible]
    · intro outer rest h
      refine ⟨_, rfl, ?_⟩
      rw [Padded.text_append, skipValue_blank p.blankBefore, ih p hp _ (h.blank p.blankAfter),
        skipRest_blank p.blankAfter]
  | object blank members names values ih =>
    refine passes_enclosed (b := .object) rfl (fun _ => rfl) blank fun part hpart => ?_
    obtain ⟨m, hm, rfl⟩ := List.mem_map.mp hpart
    have open' (rest : List Char) := skipBlanks_blank_cons m.name.blankBefore
      (show isBlank '"' = false from rfl) rest
    constructor
    · intro rest
      rw [Member.text_append, open']
      exact ⟨_, _, rfl, by decide⟩
    · intro outer rest h
      refine ⟨m.value.text ++ rest, ?_, ?_⟩
      · simp [Bracket.skipLabel, skipName, Member.text_append, open',
          skipString_append (names m hm), readColon_blank m.name.blankAfter]
      · rw [Padded.text_append, skipValue_blank m.value.blankBefore,
          ih m hm _ (h.blank m.value.blankAfter), skipRest_blank m.value.blankAfter]

/-- A value in blanks is passed over up to the blanks behind it. -/
theorem skip_isValue {before text : List Char} (blank : Blank before) (h : IsValue text)
    (delimited : Delimited rest) : skip (before ++ (text ++ rest)) = .ok rest := by
  rw [skip, skipValue_blank blank, h.passes [] delimited, skipRest]

end FundsLedger.Json
