import FundsLedger.Json.Number
import FundsLedger.Json.Text
import FundsLedger.Proofs.Text.Numerals

/-!
# The texts of JSON

What a text of each sort looks like, apart from how it is read: strings and the texts they denote,
numbers of any length, and values of any depth with blanks wherever JSON allows them. A string that
is only passed over may hold lone surrogates; one that denotes a text may not.
-/

namespace FundsLedger.Json

open FundsLedger.Text (NoDigit decimalValue isDigit radixValue?)

/-! ### Blanks -/

def Blank (s : List Char) : Prop :=
  ∀ c ∈ s, isBlank c = true

instance : DecidablePred Blank :=
  fun _ => decidable_of_iff _ List.all_eq_true

/-- Whether a text starts with a character that is neither blank nor the end of a list. -/
def Visible (s : List Char) : Prop :=
  ∃ c more, s = c :: more ∧ isBlank c = false ∧ c ≠ ']'

section Blanks

variable {c : Char} {s : List Char}

theorem blank_nil : Blank [] :=
  List.forall_mem_nil _

theorem skipBlanks_cons (h : isBlank c = false) (s : List Char) :
    skipBlanks (c :: s) = c :: s :=
  List.dropWhile_cons_of_neg (by simp [h])

theorem skipBlanks_blank (h : Blank s) (rest : List Char) :
    skipBlanks (s ++ rest) = skipBlanks rest :=
  List.dropWhile_append_of_pos h

/-- The first character that is not blank. -/
theorem skipBlanks_blank_cons (h : Blank s) (visible : isBlank c = false) (rest : List Char) :
    skipBlanks (s ++ c :: rest) = c :: rest := by
  rw [skipBlanks_blank h, skipBlanks_cons visible]

theorem readColon_blank (h : Blank s) (rest : List Char) :
    readColon (s ++ ':' :: rest) = .ok rest := by
  simp [readColon, skipBlanks_blank_cons h (show isBlank ':' = false from rfl)]

theorem isBlank_of_isDigit (h : isDigit c = true) : isBlank c = false := by
  rw [Text.isDigit_iff] at h
  simp only [isBlank, Bool.or_eq_false_iff, decide_eq_false_iff_not]
  refine ⟨⟨⟨?_, ?_⟩, ?_⟩, ?_⟩ <;> rintro rfl <;> exact absurd h (by decide)

end Blanks

/-! ### Strings -/

/-- Whether a character stands for itself in a string. -/
def IsPlain (c : Char) : Prop :=
  c ≠ '"' ∧ c ≠ '\\' ∧ isControl c = false

instance : DecidablePred IsPlain :=
  fun c => inferInstanceAs (Decidable (c ≠ '"' ∧ c ≠ '\\' ∧ isControl c = false))

def IsCodeUnit (digits : List Char) (n : Nat) : Prop :=
  digits.length = 4 ∧ radixValue? 16 digits = some n

/-- What may stand after a backslash, and the character that it denotes. -/
inductive Escape : List Char → Char → Prop
  | named {letter c : Char} (h : namedEscape? letter = some c) : Escape [letter] c
  | unit {digits : List Char} {n : Nat} (h : IsCodeUnit digits n)
      (leading : isLeadingSurrogate n = false) (trailing : isTrailingSurrogate n = false) :
      Escape ('u' :: digits) (Char.ofNat n)
  | pair {first second : List Char} {m n : Nat} (h : IsCodeUnit first m)
      (leading : isLeadingSurrogate m = true) (h' : IsCodeUnit second n)
      (trailing : isTrailingSurrogate n = true) :
      Escape ('u' :: (first ++ '\\' :: 'u' :: second)) (joinSurrogates m n)

/-- What may stand between the quotes of a string, and the text that it denotes. -/
inductive Spells : List Char → List Char → Prop
  | nil : Spells [] []
  | plain {c : Char} {raw text : List Char} (h : IsPlain c) (rest : Spells raw text) :
      Spells (c :: raw) (c :: text)
  | escape {raw' raw text : List Char} {c : Char} (h : Escape raw' c) (rest : Spells raw text) :
      Spells ('\\' :: (raw' ++ raw)) (c :: text)

theorem spells_plain {s : List Char} (h : s.all (fun c => decide (IsPlain c)) = true) :
    Spells s s := by
  induction s with
  | nil => exact .nil
  | cons c s ih =>
    rw [List.all_cons, Bool.and_eq_true, decide_eq_true_eq] at h
    exact .plain h.1 (ih h.2)

/-- What may stand between the quotes of a string that nobody reads. Surrogates need no partner. -/
inductive IsBody : List Char → Prop
  | nil : IsBody []
  | plain {c : Char} {raw : List Char} (h : IsPlain c) (rest : IsBody raw) : IsBody (c :: raw)
  | named {letter : Char} {raw : List Char} (h : (namedEscape? letter).isSome)
      (rest : IsBody raw) : IsBody ('\\' :: letter :: raw)
  | unit {digits raw : List Char} {n : Nat} (h : IsCodeUnit digits n) (rest : IsBody raw) :
      IsBody ('\\' :: 'u' :: (digits ++ raw))

def Quoted (text quoted : List Char) : Prop :=
  ∃ raw, quoted = '"' :: (raw ++ ['"']) ∧ Spells raw text

/-! ### Numbers -/

structure Digits where
  chars : List Char
  nonempty : chars ≠ []
  all : chars.all isDigit = true

theorem Digits.isDigit (digits : Digits) : ∀ c ∈ digits.chars, Text.isDigit c = true :=
  List.all_eq_true.mp digits.all

/-- What raises or lowers the magnitude of a number. -/
structure Exponent where
  letter : Char
  sign : List Char
  digits : Digits
  isLetter : letter = 'e' ∨ letter = 'E'
  isSign : sign = [] ∨ sign = ['+'] ∨ sign = ['-']

def Exponent.text (e : Exponent) : List Char :=
  e.letter :: (e.sign ++ e.digits.chars)

structure Numeral where
  negative : Bool
  whole : Digits
  fraction : Option Digits
  exponent : Option Exponent
  /-- No zero stands in front of other digits. -/
  canonical : ¬(1 < whole.chars.length ∧ whole.chars.head? = some '0')

namespace Numeral

/-- What follows the digits before and after the point. -/
def power (t : Numeral) : List Char :=
  t.exponent.elim [] Exponent.text

/-- What follows the digits before the point. -/
def scale (t : Numeral) : List Char :=
  (t.fraction.elim [] fun digits => '.' :: digits.chars) ++ t.power

def unsigned (t : Numeral) : List Char :=
  t.whole.chars ++ t.scale

def text (t : Numeral) : List Char :=
  if t.negative then '-' :: t.unsigned else t.unsigned

def value (t : Numeral) : Int :=
  if t.negative then -(decimalValue t.whole.chars : Int) else decimalValue t.whole.chars

/-- Whether a numeral has neither fraction nor exponent and is not `-0`. -/
def IsInteger (t : Numeral) : Prop :=
  t.fraction = none ∧ t.exponent = none ∧ ¬(t.negative = true ∧ t.value = 0)

end Numeral

theorem visible_minus (s : List Char) : Visible ('-' :: s) :=
  ⟨_, _, rfl, rfl, by decide⟩

theorem visible_digits {digits : List Char} (nonempty : digits ≠ [])
    (all : ∀ c ∈ digits, isDigit c = true) (s : List Char) : Visible (digits ++ s) := by
  obtain ⟨c, digits, rfl⟩ := List.exists_cons_of_ne_nil nonempty
  have digit := all c List.mem_cons_self
  refine ⟨c, _, rfl, isBlank_of_isDigit digit, ?_⟩
  rintro rfl
  cases digit

theorem Numeral.visible (t : Numeral) : Visible t.text := by
  rw [Numeral.text]
  split
  · exact visible_minus _
  · exact visible_digits t.whole.nonempty t.whole.isDigit t.scale

theorem visible_signedDecimal (n : Int) : Visible (Text.signedDecimal n) := by
  rw [Text.signedDecimal]
  split
  · exact visible_minus _
  · have digits := visible_digits (Text.decimal_ne_nil n.natAbs) (Text.isDigit_decimal _) []
    rwa [List.append_nil] at digits

/-- A text at whose front no number goes on. -/
def Delimited (rest : List Char) : Prop :=
  ∀ c ∈ rest.head?, isDigit c = false ∧ c ≠ '.' ∧ c ≠ 'e' ∧ c ≠ 'E'

section Delimiters

variable {c : Char} {rest : List Char}

theorem Delimited.noDigit (h : Delimited rest) : NoDigit rest :=
  fun c hc => (h c hc).1

theorem delimited_nil : Delimited [] := by
  intro c hc
  cases hc

theorem delimited_cons (h : isDigit c = false ∧ c ≠ '.' ∧ c ≠ 'e' ∧ c ≠ 'E') (s : List Char) :
    Delimited (c :: s) := by
  intro d hd
  cases hd
  exact h

theorem Delimited.blank {s : List Char} (hs : Blank s) (h : Delimited rest) :
    Delimited (s ++ rest) := by
  cases s with
  | nil => exact h
  | cons c s =>
    have blank := hs c List.mem_cons_self
    refine delimited_cons ⟨?_, ?_, ?_, ?_⟩ _
    · refine Bool.eq_false_iff.mpr fun digit => ?_
      simp [isBlank_of_isDigit digit] at blank
    all_goals
      rintro rfl
      exact absurd blank (by decide)

/-- The digits after the point end where the power begins, and it does not begin with a point. -/
theorem Numeral.front_power (t : Numeral) (h : Delimited rest) :
    ∀ c ∈ (t.power ++ rest).head?, isDigit c = false ∧ c ≠ '.' := by
  intro c hc
  rw [Numeral.power] at hc
  cases power : t.exponent with
  | some e =>
    rw [power] at hc
    cases hc
    rcases e.isLetter with letter | letter <;> rw [letter] <;> decide
  | none =>
    rw [power] at hc
    exact ⟨(h c hc).1, (h c hc).2.1⟩

/-- The digits before the point end where the scale begins. -/
theorem Numeral.noDigit_scale (t : Numeral) (h : Delimited rest) : NoDigit (t.scale ++ rest) := by
  rw [Numeral.scale]
  cases t.fraction with
  | some digits => exact Text.noDigit_cons rfl
  | none => exact fun c hc => (t.front_power h c hc).1

end Delimiters

/-! ### Values -/

structure Padded where
  before : List Char
  core : List Char
  after : List Char
  blankBefore : Blank before
  blankAfter : Blank after

def Padded.bare (core : List Char) : Padded :=
  ⟨[], core, [], blank_nil, blank_nil⟩

def Padded.text (p : Padded) : List Char :=
  p.before ++ (p.core ++ p.after)

/-- A member of an object: what stands between the quotes of its name, and its value. -/
structure Member where
  name : Padded
  value : Padded

def Member.text (m : Member) : List Char :=
  m.name.before ++ '"' :: (m.name.core ++ '"' :: (m.name.after ++ ':' :: m.value.text))

theorem Padded.text_append (p : Padded) (rest : List Char) :
    p.text ++ rest = p.before ++ (p.core ++ (p.after ++ rest)) := by
  simp [Padded.text]

theorem Member.text_append (m : Member) (rest : List Char) :
    m.text ++ rest = m.name.before ++ '"' :: (m.name.core ++ '"' ::
      (m.name.after ++ ':' :: (m.value.text ++ rest))) := by
  simp [Member.text]

def joined : (first : Bool) → List (List Char) → List Char
  | _, [] => []
  | first, part :: parts => (if first then [] else [',']) ++ part ++ joined false parts

theorem joined_append (first : Bool) (parts parts' : List (List Char)) :
    joined first (parts ++ parts') =
      joined first parts ++ joined (first && parts.isEmpty) parts' := by
  induction parts generalizing first with
  | nil => simp [joined]
  | cons part parts ih => simp [joined, ih]

theorem length_le_joined {parts : List (List Char)} (h : ∀ part ∈ parts, part ≠ [])
    (first : Bool) : parts.length ≤ (joined first parts).length := by
  induction parts generalizing first with
  | nil => exact Nat.zero_le _
  | cons part parts ih =>
    have rest := ih (fun p hp => h p (List.mem_cons_of_mem _ hp)) false
    have positive := List.length_pos_iff.mpr (h part List.mem_cons_self)
    rw [joined, List.length_append, List.length_append, List.length_cons]
    omega

/-- After a part comes a comma or what ends the parts. -/
theorem delimited_joined (parts : List (List Char)) {rest : List Char} (h : Delimited rest) :
    Delimited (joined false parts ++ rest) := by
  cases parts with
  | nil => exact h
  | cons part parts => exact delimited_cons (by decide) _

theorem Member.delimited (m : Member) (rest : List Char) : Delimited (m.text ++ rest) := by
  rw [Member.text_append]
  exact (delimited_cons (by decide) _).blank m.name.blankBefore

theorem Member.text_ne_nil (m : Member) : m.text ≠ [] := by
  simp [Member.text]

/-- Parts between brackets. There may be blanks where there is no part, so they come apart. -/
def enclosed (opening closing : Char) (lead : List Char) (parts : List (List Char)) : List Char :=
  opening :: (lead ++ (joined true parts ++ [closing]))

theorem enclosed_append (opening closing : Char) (lead : List Char) (parts : List (List Char))
    (rest : List Char) : enclosed opening closing lead parts ++ rest =
      opening :: (lead ++ (joined true parts ++ closing :: rest)) := by
  simp [enclosed]

/-- The texts that choose among names: the name itself, or an object with `null` under it. -/
inductive Chooses (name : List Char) : List Char → Prop
  | string {quoted : List Char} (h : Quoted name quoted) : Chooses name quoted
  | object (m : Member) (key : Spells m.name.core name)
      (null : m.value.core = ['n', 'u', 'l', 'l']) : Chooses name ('{' :: (m.text ++ ['}']))

inductive IsValue : List Char → Prop
  | isNull : IsValue ['n', 'u', 'l', 'l']
  | isTrue : IsValue ['t', 'r', 'u', 'e']
  | isFalse : IsValue ['f', 'a', 'l', 's', 'e']
  | number (t : Numeral) : IsValue t.text
  | string {raw : List Char} (h : IsBody raw) : IsValue ('"' :: (raw ++ ['"']))
  | list {lead : List Char} (blank : Blank lead) (items : List Padded)
      (values : ∀ p ∈ items, IsValue p.core) :
      IsValue (enclosed '[' ']' lead (items.map Padded.text))
  | object {lead : List Char} (blank : Blank lead) (members : List Member)
      (names : ∀ m ∈ members, IsBody m.name.core) (values : ∀ m ∈ members, IsValue m.value.core) :
      IsValue (enclosed '{' '}' lead (members.map Member.text))

theorem IsValue.visible {text : List Char} (h : IsValue text) : Visible text := by
  cases h with
  | number t => exact t.visible
  | isNull | isTrue | isFalse | string | list | object => exact ⟨_, _, rfl, rfl, by decide⟩

theorem Quoted.visible {text quoted : List Char} (h : Quoted text quoted) : Visible quoted := by
  obtain ⟨raw, rfl, _⟩ := h
  exact ⟨_, _, rfl, rfl, by decide⟩

theorem Chooses.visible {name chosen : List Char} (h : Chooses name chosen) : Visible chosen := by
  cases h with
  | string h => exact h.visible
  | object => exact ⟨_, _, rfl, rfl, by decide⟩

end FundsLedger.Json
