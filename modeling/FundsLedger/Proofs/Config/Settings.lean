import FundsLedger.Config.Settings
import FundsLedger.Proofs.Text.Numerals
import Mathlib.Data.List.TakeWhile
import Mathlib.Data.Nat.Digits.Defs

/-!
# Which settings are accepted

What a value denotes is told here without reading it: blanks may stand around it, and between them a
numeral or a word. Validation accepts just what denotes something within its limit, and takes it for
that. The main statement is `ofLookup_eq_iff`, with a case for each way in which validation can end.
-/

namespace FundsLedger

namespace Text

/-! ### Blanks around a text -/

section Blanks

variable {front core back : List Char}

theorem dropWhile_isBlank (solid : ∀ c ∈ core, isBlank c = false) :
    core.dropWhile isBlank = core := by
  cases core with
  | nil => rfl
  | cons c core => exact List.dropWhile_cons_of_neg (by rw [solid c List.mem_cons_self]; decide)

theorem trimEnd_append (hback : ∀ c ∈ back, isBlank c = true)
    (solid : ∀ c ∈ core, isBlank c = false) : trimEnd (core ++ back) = core := by
  rw [trimEnd, List.reverse_append,
    List.dropWhile_append_of_pos fun c hc => hback c (List.mem_reverse.mp hc),
    dropWhile_isBlank fun c hc => solid c (List.mem_reverse.mp hc), List.reverse_reverse]

/-- Blanks around a text that has none are cut off. -/
theorem trim_append (hfront : ∀ c ∈ front, isBlank c = true) (hback : ∀ c ∈ back, isBlank c = true)
    (solid : ∀ c ∈ core, isBlank c = false) : trim (front ++ core ++ back) = core := by
  rw [trim, trimStart, List.append_assoc, List.dropWhile_append_of_pos hfront]
  cases core with
  | nil =>
    rw [List.nil_append, List.dropWhile_eq_nil_iff.mpr hback]
    rfl
  | cons c core =>
    have visible : isBlank c = false := solid c List.mem_cons_self
    rw [List.cons_append, List.dropWhile_cons_of_neg (by rw [visible]; decide), ← List.cons_append,
      trimEnd_append hback solid]

/-- What is cut off are blanks. -/
theorem exists_eq_append_trim (s : List Char) :
    ∃ front back, s = front ++ trim s ++ back ∧ (∀ c ∈ front, isBlank c = true) ∧
      ∀ c ∈ back, isBlank c = true := by
  refine ⟨s.takeWhile isBlank, ((trimStart s).reverse.takeWhile isBlank).reverse, ?_,
    fun c hc => List.mem_takeWhile_imp hc,
    fun c hc => List.mem_takeWhile_imp (List.mem_reverse.mp hc)⟩
  have cut : trim s ++ ((trimStart s).reverse.takeWhile isBlank).reverse = trimStart s := by
    rw [trim, trimEnd, ← List.reverse_append, List.takeWhile_append_dropWhile, List.reverse_reverse]
  rw [List.append_assoc, cut]
  exact List.takeWhile_append_dropWhile.symm

end Blanks

/-! ### Counts -/

/-- The value of digits is the sum of what they count, each ten times as much as the next. -/
theorem decimalValue_eq_ofDigits (digits : List Char) :
    decimalValue digits = Nat.ofDigits 10 (digits.map digitValue).reverse := by
  induction digits using List.reverseRecOn with
  | nil => rfl
  | append_singleton digits d ih =>
    rw [decimalValue_concat, ih, List.map_append, List.reverse_append]
    simp only [List.map_cons, List.map_nil, List.reverse_singleton, List.singleton_append,
      Nat.ofDigits_cons]
    omega

/-- Whether a text is a numeral of `n`: digits, with zeros in front or without, after a plus sign or
none. -/
def IsNumeral (s : List Char) (n : Nat) : Prop :=
  ∃ sign digits, s = sign ++ digits ∧ (sign = [] ∨ sign = ['+']) ∧ digits ≠ [] ∧
    (∀ c ∈ digits, '0' ≤ c ∧ c ≤ '9') ∧ n = Nat.ofDigits 10 (digits.map digitValue).reverse

theorem readCount?_unsigned {s : List Char} (unsigned : ∀ rest, s ≠ '+' :: rest) :
    readCount? s = if s.isEmpty || !s.all isDigit then none else some (decimalValue s) := by
  rw [readCount?]
  exact unsigned

theorem readCount?_eq_some_iff {s : List Char} {n : Nat} :
    readCount? s = some n ↔ IsNumeral s n := by
  have digits_iff (digits : List Char) :
      (if digits.isEmpty || !digits.all isDigit then none else some (decimalValue digits)) = some n ↔
        digits ≠ [] ∧ (∀ c ∈ digits, '0' ≤ c ∧ c ≤ '9') ∧
          n = Nat.ofDigits 10 (digits.map digitValue).reverse := by
    rw [← decimalValue_eq_ofDigits, Option.ite_none_left_eq_some, Option.some.injEq, eq_comm (a := n)]
    simp [isDigit, and_assoc]
  constructor
  · intro read
    by_cases signed : ∃ digits, s = '+' :: digits
    · obtain ⟨digits, rfl⟩ := signed
      exact ⟨['+'], digits, rfl, .inr rfl, (digits_iff digits).mp read⟩
    · rw [readCount?_unsigned (not_exists.mp signed)] at read
      exact ⟨[], s, rfl, .inl rfl, (digits_iff s).mp read⟩
  · rintro ⟨sign, digits, rfl, rfl | rfl, isNumeral⟩
    · have unsigned : ∀ rest, digits ≠ '+' :: rest := by
        rintro rest rfl
        exact absurd (isNumeral.2.1 '+' List.mem_cons_self) (by decide)
      rw [List.nil_append, readCount?_unsigned unsigned]
      exact (digits_iff digits).mpr isNumeral
    · exact (digits_iff digits).mpr isNumeral

theorem IsNumeral.solid {s : List Char} {n : Nat} (h : IsNumeral s n) :
    ∀ c ∈ s, isBlank c = false := by
  obtain ⟨sign, digits, rfl, signs, _, all, _⟩ := h
  have digit : ∀ c, isDigit c = true → isBlank c = false := by
    intro c hc
    rw [isDigit_iff] at hc
    simp [isBlank]
    omega
  intro c hc
  rcases List.mem_append.mp hc with hc | hc
  · rcases signs with rfl | rfl
    · cases hc
    · rw [List.mem_singleton.mp hc]
      decide
  · exact digit c (by simpa [isDigit] using all c hc)

end Text

namespace Config

open Text (IsNumeral isBlank trim)

/-! ### What a value denotes -/

def IsCount (limit : Nat) (s : List Char) (n : Nat) : Prop :=
  IsNumeral s n ∧ n ≤ limit

def IsFlag (s : List Char) (b : Bool) : Prop :=
  s = (if b then "true" else "false").toList

variable {α : Type} {Means : List Char → α → Prop} {parse : List Char → Option α} {default a : α}
  {lookup : String → Option String} {name value : String}

/-- Whether a value means something, with blanks around it or without. -/
def Denotes (Means : List Char → α → Prop) (value : String) (a : α) : Prop :=
  ∃ front core back, value.toList = front ++ core ++ back ∧ (∀ c ∈ front, isBlank c = true) ∧
    (∀ c ∈ back, isBlank c = true) ∧ Means core a

/-- Whether `parse` reads the texts that mean something, which have no blanks, and no others. -/
structure Recognises (parse : List Char → Option α) (Means : List Char → α → Prop) : Prop where
  eq_some_iff : ∀ {s a}, parse s = some a ↔ Means s a
  solid : ∀ {s a}, Means s a → ∀ c ∈ s, isBlank c = false

theorem Recognises.denotes_iff (h : Recognises parse Means) :
    Denotes Means value a ↔ parse (trim value.toList) = some a := by
  constructor
  · rintro ⟨front, core, back, hvalue, hfront, hback, means⟩
    rw [hvalue, Text.trim_append hfront hback (h.solid means)]
    exact h.eq_some_iff.mpr means
  · intro read
    obtain ⟨front, back, hvalue, hfront, hback⟩ := Text.exists_eq_append_trim value.toList
    exact ⟨front, _, back, hvalue, hfront, hback, h.eq_some_iff.mp read⟩

theorem recognises_countUpTo (limit : Nat) : Recognises (countUpTo limit) (IsCount limit) where
  eq_some_iff := by
    intro s n
    simp [countUpTo, IsCount, ← Text.readCount?_eq_some_iff, Option.filter_eq_some_iff]
  solid h := h.1.solid

theorem recognises_flag? : Recognises flag? IsFlag where
  eq_some_iff := by
    intro s b
    cases b with
    | true => simp [flag?, IsFlag]
    | false =>
      simp only [flag?, IsFlag]
      split
      · simp_all
      · simp
  solid := by
    rintro s (_ | _) rfl <;> exact List.forall_iff_forall_mem.mp (by decide)

/-! ### Variables -/

/-- What is taken from a variable: what its value denotes, or the default where it is absent. -/
inductive Taken (lookup : String → Option String) (name : String) (Means : List Char → α → Prop)
    (default : α) : α → Prop
  | absent (absent : lookup name = none) : Taken lookup name Means default default
  | present {value : String} {a : α} (present : lookup name = some value)
      (denotes : Denotes Means value a) : Taken lookup name Means default a

/-- Whether a variable is there with a value that denotes nothing. -/
def Wrong (lookup : String → Option String) (name : String) (Means : List Char → α → Prop)
    (value : String) : Prop :=
  lookup name = some value ∧ ∀ a, ¬Denotes Means value a

theorem readOr_eq_ok_iff (h : Recognises parse Means) :
    readOr lookup name parse default = .ok a ↔ Taken lookup name Means default a := by
  rw [readOr]
  constructor
  · intro read
    split at read
    · cases read
      exact .absent ‹_›
    · split at read
      · cases read
        exact .present ‹_› (h.denotes_iff.mpr ‹_›)
      · cases read
  · rintro (absent | ⟨present, denotes⟩)
    · rw [absent]
    · rw [present]
      dsimp only
      rw [h.denotes_iff.mp denotes]

theorem readOr_eq_error_iff (h : Recognises parse Means) {e : ConfigError} :
    readOr lookup name parse default = .error e ↔
      ∃ value, Wrong lookup name Means value ∧ e = .invalid name value := by
  rw [readOr]
  constructor
  · intro read
    split at read
    · cases read
    · split at read
      · cases read
      · cases read
        refine ⟨_, ⟨‹_›, fun a denotes => ?_⟩, rfl⟩
        have unread := h.denotes_iff.mp denotes
        simp_all
  · rintro ⟨value, ⟨present, wrong⟩, rfl⟩
    rw [present]
    dsimp only
    cases read : parse (trim value.toList) with
    | none => rfl
    | some a => exact absurd (h.denotes_iff.mpr read) (wrong a)

/-! ### How validation ends -/

/-- The ways in which validation ends. Each variable is looked at only if the ones before it are as
they should be. -/
inductive Outcome (lookup : String → Option String) : Except ConfigError Settings → Prop
  | missing (absent : lookup "DATABASE_URL" = none) :
      Outcome lookup (.error (.missing "DATABASE_URL"))
  | connections {url value} (address : lookup "DATABASE_URL" = some url)
      (wrong : Wrong lookup "DB_MAX_CONNECTIONS" (IsCount (2 ^ 32 - 1)) value) :
      Outcome lookup (.error (.invalid "DB_MAX_CONNECTIONS" value))
  | timeout {url connections value} (address : lookup "DATABASE_URL" = some url)
      (taken : Taken lookup "DB_MAX_CONNECTIONS" (IsCount (2 ^ 32 - 1)) 10 connections)
      (wrong : Wrong lookup "DB_CONNECT_TIMEOUT_SECS" (IsCount (2 ^ 64 - 1)) value) :
      Outcome lookup (.error (.invalid "DB_CONNECT_TIMEOUT_SECS" value))
  | logging {url connections timeout value} (address : lookup "DATABASE_URL" = some url)
      (taken : Taken lookup "DB_MAX_CONNECTIONS" (IsCount (2 ^ 32 - 1)) 10 connections)
      (taken' : Taken lookup "DB_CONNECT_TIMEOUT_SECS" (IsCount (2 ^ 64 - 1)) 8 timeout)
      (wrong : Wrong lookup "DB_SQL_LOGGING" IsFlag value) :
      Outcome lookup (.error (.invalid "DB_SQL_LOGGING" value))
  | accepted {settings : Settings} (address : lookup "DATABASE_URL" = some settings.databaseUrl)
      (connections : Taken lookup "DB_MAX_CONNECTIONS" (IsCount (2 ^ 32 - 1)) 10
        settings.maxConnections)
      (timeout : Taken lookup "DB_CONNECT_TIMEOUT_SECS" (IsCount (2 ^ 64 - 1)) 8
        settings.connectTimeoutSecs)
      (logging : Taken lookup "DB_SQL_LOGGING" IsFlag false settings.sqlLogging) :
      Outcome lookup (.ok settings)

theorem outcome_ofLookup (lookup : String → Option String) :
    Outcome lookup (Settings.ofLookup lookup) := by
  rw [Settings.ofLookup]
  cases address : lookup urlVariable with
  | none => exact .missing address
  | some url =>
    cases connections : readOr lookup connectionsVariable (countUpTo maxConnectionsLimit) 10 with
    | error e =>
      obtain ⟨value, wrong, rfl⟩ := (readOr_eq_error_iff (recognises_countUpTo _)).mp connections
      exact .connections address wrong
    | ok n =>
      have taken := (readOr_eq_ok_iff (recognises_countUpTo _)).mp connections
      cases timeout : readOr lookup timeoutVariable (countUpTo timeoutLimit) 8 with
      | error e =>
        obtain ⟨value, wrong, rfl⟩ := (readOr_eq_error_iff (recognises_countUpTo _)).mp timeout
        exact .timeout address taken wrong
      | ok seconds =>
        have taken' := (readOr_eq_ok_iff (recognises_countUpTo _)).mp timeout
        cases logging : readOr lookup loggingVariable flag? false with
        | error e =>
          obtain ⟨value, wrong, rfl⟩ := (readOr_eq_error_iff recognises_flag?).mp logging
          exact .logging address taken taken' wrong
        | ok b => exact .accepted address taken taken' ((readOr_eq_ok_iff recognises_flag?).mp logging)

/-- There is no other way in which validation could have ended. -/
theorem Outcome.eq {result : Except ConfigError Settings} (h : Outcome lookup result) :
    Settings.ofLookup lookup = result := by
  have counted {name : String} {limit n default : Nat}
      (taken : Taken lookup name (IsCount limit) default n) :
      readOr lookup name (countUpTo limit) default = .ok n :=
    (readOr_eq_ok_iff (recognises_countUpTo limit)).mpr taken
  have miscounted {name value : String} {limit default : Nat}
      (wrong : Wrong lookup name (IsCount limit) value) :
      readOr lookup name (countUpTo limit) default = .error (.invalid name value) :=
    (readOr_eq_error_iff (recognises_countUpTo limit)).mpr ⟨value, wrong, rfl⟩
  cases h with
  | missing absent =>
    rw [Settings.ofLookup, urlVariable, absent]
    rfl
  | connections address wrong =>
    have first : readOr lookup connectionsVariable (countUpTo maxConnectionsLimit) 10 = _ :=
      miscounted wrong
    rw [Settings.ofLookup, urlVariable, address, first]
    rfl
  | timeout address taken wrong =>
    have first : readOr lookup connectionsVariable (countUpTo maxConnectionsLimit) 10 = _ :=
      counted taken
    have second : readOr lookup timeoutVariable (countUpTo timeoutLimit) 8 = _ := miscounted wrong
    rw [Settings.ofLookup, urlVariable, address, first, second]
    rfl
  | logging address taken taken' wrong =>
    have first : readOr lookup connectionsVariable (countUpTo maxConnectionsLimit) 10 = _ :=
      counted taken
    have second : readOr lookup timeoutVariable (countUpTo timeoutLimit) 8 = _ := counted taken'
    have third : readOr lookup loggingVariable flag? false = _ :=
      (readOr_eq_error_iff recognises_flag?).mpr ⟨_, wrong, rfl⟩
    rw [Settings.ofLookup, urlVariable, address, first, second, third]
    rfl
  | accepted address taken taken' taken'' =>
    have first : readOr lookup connectionsVariable (countUpTo maxConnectionsLimit) 10 = _ :=
      counted taken
    have second : readOr lookup timeoutVariable (countUpTo timeoutLimit) 8 = _ := counted taken'
    have third : readOr lookup loggingVariable flag? false = _ :=
      (readOr_eq_ok_iff recognises_flag?).mpr taken''
    rw [Settings.ofLookup, urlVariable, address, first, second, third]
    rfl

/-- Validation ends in one way for each look-up, and tells of a missing address if and only if there
is none. Otherwise the first variable that is there and denotes nothing is reported with its value as
it was given; and if there is no such variable, the address is taken as it is, and each of the others
as what its value denotes or by default. -/
theorem ofLookup_eq_iff (lookup : String → Option String) :
    (∀ result, Settings.ofLookup lookup = result ↔ Outcome lookup result) ∧
      (Settings.ofLookup lookup = .error (.missing "DATABASE_URL") ↔
        lookup "DATABASE_URL" = none) := by
  have exact (result : Except ConfigError Settings) :
      Settings.ofLookup lookup = result ↔ Outcome lookup result := by
    refine ⟨fun ends => ?_, Outcome.eq⟩
    rw [← ends]
    exact outcome_ofLookup lookup
  refine ⟨exact, fun ends => ?_, fun absent => (exact _).mpr (.missing absent)⟩
  cases (exact _).mp ends with
  | missing absent => exact absent

/-- A look-up with an address and one more variable. -/
def withAddress (name value : String) (asked : String) : Option String :=
  [("DATABASE_URL", "postgres://localhost/wallet"), (name, value)].lookup asked

/-- Zeros in front and blanks of any kind do not count, and the limit is exact. -/
theorem ofLookup_eq_iff_atLimit :
    Outcome (withAddress "DB_MAX_CONNECTIONS" "\u00a0+00000000000000004294967295\u3000\n")
        (.ok ⟨"postgres://localhost/wallet", 4294967295, 8, false⟩) ∧
      Outcome (withAddress "DB_MAX_CONNECTIONS" " 4294967296")
        (.error (.invalid "DB_MAX_CONNECTIONS" " 4294967296")) :=
  ⟨((ofLookup_eq_iff _).1 _).mp (by decide +kernel),
    ((ofLookup_eq_iff _).1 _).mp (by decide +kernel)⟩

end Config

end FundsLedger
