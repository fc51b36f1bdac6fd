import FundsLedger.Command.Seed
import FundsLedger.Proofs.Store.Statements
import FundsLedger.Proofs.Uuid

/-!
# Currency codes from identifiers

The code of a seed currency stands for the first six bytes of its id, no more and no less: two digits
of the id's text make one byte, and upper case loses nothing. It always fits its column. So the only
thing that can be wrong with a new seed currency is that its code is taken, by a currency with
another id, and the store then refuses it. The main statement is `currencyCode_identifies`.
-/

namespace FundsLedger

open Database (Statement)
open Text (hexDigits length_hexDigits mem_hexDigits take_hexDigits)
open Time (Timestamp)

namespace Uuid

/-- A byte of an identifier, counted from the most significant of the sixteen. -/
def byte (id : Uuid) (i : Nat) : Nat :=
  id.value / Nat.pow 256 (15 - i) % 256

/-- The sixteen bytes of an identifier, the most significant first. -/
def bytes (id : Uuid) : List Nat :=
  (List.range 16).map id.byte

/-- The number that the first six bytes make. -/
def front (id : Uuid) : Nat :=
  id.value / Nat.pow 16 20

theorem front_lt (id : Uuid) : id.front < Nat.pow 16 12 :=
  Nat.div_lt_of_lt_mul id.value_lt

/-- Numbers of a few bytes are equal if all those bytes are. -/
theorem eq_of_bytes_eq (count : Nat) {m n : Nat} (hm : m < Nat.pow 256 count)
    (hn : n < Nat.pow 256 count)
    (h : ∀ i < count, m / Nat.pow 256 i % 256 = n / Nat.pow 256 i % 256) : m = n := by
  induction count generalizing m n with
  | zero =>
    change m < 1 at hm
    change n < 1 at hn
    omega
  | succ count ih =>
    have shift (k i : Nat) : k / 256 / Nat.pow 256 i = k / Nat.pow 256 (i + 1) := by
      rw [Nat.div_div_eq_div_mul, Nat.mul_comm]
      rfl
    have smaller {k : Nat} (hk : k < Nat.pow 256 (count + 1)) : k / 256 < Nat.pow 256 count :=
      Nat.div_lt_of_lt_mul (Nat.lt_of_lt_of_eq hk (Nat.mul_comm ..))
    have low : m / 1 % 256 = n / 1 % 256 := h 0 (Nat.succ_pos count)
    have high : m / 256 = n / 256 := ih (smaller hm) (smaller hn) fun i hi => by
      rw [shift, shift]
      exact h (i + 1) (Nat.succ_lt_succ hi)
    omega

/-- A byte among the first six, as a byte of the number that they make. -/
theorem byte_eq_front (id : Uuid) {i : Nat} (hi : i < 6) :
    id.byte i = id.front / Nat.pow 256 (5 - i) % 256 := by
  have split : Nat.pow 256 (15 - i) = Nat.pow 16 20 * Nat.pow 256 (5 - i) := by
    have power : (15 : Nat) - i = 10 + (5 - i) := by omega
    rw [power]
    exact Nat.pow_add 256 10 (5 - i)
  rw [byte, front, split, Nat.div_div_eq_div_mul]

theorem take_bytes_inj {a b : Uuid} : a.bytes.take 6 = b.bytes.take 6 ↔ a.front = b.front := by
  have each : a.bytes.take 6 = b.bytes.take 6 ↔ ∀ i < 6, a.byte i = b.byte i := by
    simp only [bytes, ← List.map_take, List.take_range, List.map_inj_left, List.mem_range]
    rfl
  rw [each]
  constructor
  · intro same
    refine eq_of_bytes_eq 6 a.front_lt b.front_lt fun i hi => ?_
    have place : 5 - (5 - i) = i := by omega
    have bytes := same (5 - i) (by omega)
    rwa [byte_eq_front a (by omega), byte_eq_front b (by omega), place] at bytes
  · intro same i hi
    rw [byte_eq_front a hi, byte_eq_front b hi, same]

theorem take_simple (id : Uuid) : id.simple.take 12 = hexDigits 12 id.front :=
  take_hexDigits 12 20 id.value

/-- Digits take up one byte each. -/
theorem utf8ByteSize_digits {digits : List Char} (h : ∀ c ∈ digits, c ∈ Text.radixDigits) :
    (String.ofList digits).utf8ByteSize = digits.length := by
  have one : ∀ c ∈ Text.radixDigits, c.utf8Size = 1 :=
    List.forall_iff_forall_mem.mp (by decide)
  induction digits with
  | nil => rfl
  | cons c digits ih =>
    have rest := ih fun d hd => h d (List.mem_cons_of_mem c hd)
    have first : (String.ofList [c]).utf8ByteSize = 1 := by
      rw [← String.singleton_eq_ofList, String.utf8ByteSize_singleton,
        one c (h c List.mem_cons_self)]
    rw [← List.singleton_append, String.ofList_append, String.utf8ByteSize_append, first, rest,
      List.length_append, List.length_singleton]

/-- The first twelve bytes of the text are whole characters, the first twelve. -/
theorem simple_split (id : Uuid) :
    String.ofList id.simple =
        String.ofList (id.simple.take 12) ++ String.ofList (id.simple.drop 12) ∧
      (String.ofList (id.simple.take 12)).utf8ByteSize = 12 := by
  constructor
  · rw [← String.ofList_append, List.take_append_drop]
  · rw [take_simple, utf8ByteSize_digits (mem_hexDigits 12 id.front), length_hexDigits]

theorem simple_isValid (id : Uuid) : (⟨12⟩ : String.Pos.Raw).IsValid (String.ofList id.simple) := by
  obtain ⟨split, size⟩ := id.simple_split
  refine String.Pos.Raw.isValid_iff_exists_append.mpr ⟨_, _, split, ?_⟩
  rw [String.rawEndPos, size]

end Uuid

namespace Store

variable {store : Store} {table : Relation Currency} {code : String}

/-- What a store answers to a currency whose code fits: the id is looked at first, then the code. -/
theorem execute_insertCurrency (here : store.currencies = some table)
    (fits : code.length ≤ codeLength) (time : Timestamp) (id : Uuid) (digits : DigitCount) :
    store.execute time (.insertCurrency id code digits) =
      if id ∈ table.rows.map Currency.id then .error (.duplicate "currencies_pkey")
      else if code ∈ table.rows.map Currency.code then .error (.duplicate "currencies_code_key")
      else .ok (.rows [.ofCurrency ⟨id, code, digits, time⟩],
        { store with currencies := some (appendRow table ⟨id, code, digits, time⟩) }) := by
  simp only [execute, insertCurrency, here, require, check, fitCode_of_le fits, bind, Except.bind]
  by_cases known : id ∈ table.rows.map Currency.id
  · rw [if_neg (not_not_intro known), if_pos known]
  by_cases taken : code ∈ table.rows.map Currency.code
  · rw [if_pos known, if_neg (not_not_intro taken), if_neg known, if_pos taken]
  · rw [if_pos known, if_pos taken, if_neg known, if_neg taken]
    rfl

end Store

namespace Command.Seed

theorem toList_currencyCode (id : Uuid) :
    (currencyCode id).toList = 'T' :: (hexDigits 12 id.front).map Char.toUpper := by
  rw [currencyCode, String.toList_ofList, id.take_simple]

theorem length_currencyCode (id : Uuid) : (currencyCode id).length = 13 := by
  rw [← String.length_toList, toList_currencyCode, List.length_cons, List.length_map,
    length_hexDigits]

theorem currencyCode_inj {a b : Uuid} : currencyCode a = currencyCode b ↔ a.front = b.front := by
  rw [← String.toList_inj, toList_currencyCode, toList_currencyCode, List.cons_inj_right,
    Text.map_toUpper_hexDigits_inj a.front_lt b.front_lt]

theorem mem_toUpper_hexDigits (n : Nat) :
    ∀ c ∈ (hexDigits 12 n).map Char.toUpper, c ∈ "0123456789ABCDEF".toList := by
  have upper : ∀ c ∈ Text.radixDigits, c.toUpper ∈ "0123456789ABCDEF".toList :=
    List.forall_iff_forall_mem.mp (by decide)
  intro c hc
  obtain ⟨d, hd, rfl⟩ := List.mem_map.mp hc
  exact upper d (mem_hexDigits 12 n d hd)

/-- The code of a seed currency identifies the first six bytes of its id. It is a `T` and twelve
digits, for which the text of the id is cut at a place where it can be, and it fits its column. So
where there is a table of currencies, a seed currency is refused for its code if and only if a
currency of that code is there, unless the very id is there, which is noticed before; and it is
stored if neither is. -/
theorem currencyCode_identifies :
    (∀ a b : Uuid, currencyCode a = currencyCode b ↔ a.bytes.take 6 = b.bytes.take 6) ∧
    ∀ id : Uuid,
      ((currencyCode id).length = 13 ∧
        (∃ digits, (currencyCode id).toList = 'T' :: digits ∧ digits.length = 12 ∧
          ∀ c ∈ digits, c ∈ "0123456789ABCDEF".toList) ∧
        (currencyCode id).length ≤ Store.codeLength) ∧
      ((⟨12⟩ : String.Pos.Raw).IsValid (String.ofList id.simple) ∧
        String.ofList id.simple =
          String.ofList (id.simple.take 12) ++ String.ofList (id.simple.drop 12) ∧
        (String.ofList (id.simple.take 12)).utf8ByteSize = 12) ∧
      ∀ (store : Store) (table : Relation Currency) (time : Timestamp) (digits : DigitCount),
        store.currencies = some table →
        let inserted := store.execute time (.insertCurrency id (currencyCode id) digits)
        let known := ∃ c ∈ table.rows, c.id = id
        let taken := ∃ c ∈ table.rows, c.code = currencyCode id
        (inserted = .error (.duplicate "currencies_code_key") ↔ taken ∧ ¬known) ∧
        (inserted = .error (.duplicate "currencies_pkey") ↔ known) ∧
        ((∃ answer after, inserted = .ok (answer, after)) ↔ ¬taken ∧ ¬known) := by
  refine ⟨fun a b => currencyCode_inj.trans Uuid.take_bytes_inj.symm,
    fun id => ⟨⟨?_, ?_, ?_⟩, ?_, ?_⟩⟩
  · exact length_currencyCode id
  · refine ⟨_, toList_currencyCode id, ?_, mem_toUpper_hexDigits id.front⟩
    rw [List.length_map, length_hexDigits]
  · rw [length_currencyCode]
    decide
  · exact ⟨id.simple_isValid, id.simple_split⟩
  · intro store table time digits here
    have fits : (currencyCode id).length ≤ Store.codeLength := by
      rw [length_currencyCode]
      decide
    dsimp only
    rw [Store.execute_insertCurrency here fits time id digits]
    simp only [← List.mem_map]
    by_cases known : id ∈ table.rows.map Currency.id
    · simp [known]
    by_cases taken : currencyCode id ∈ table.rows.map Currency.code
    · simp [known, taken]
    · simp [known, taken]

/-- A currency with the code that belongs to its id. -/
def firstCurrency : Currency where
  id := ⟨2 ^ 64 + 1, by decide⟩
  code := currencyCode ⟨2 ^ 64 + 1, by decide⟩
  minorUnitDigits
  createdAt := .ofUnixSeconds 0

/-- Two ids that differ only after their first six bytes give one code, so that only one of them can
be stored. -/
theorem currencyCode_identifies_twins :
    let store : Store := { currencies := some { rows := [firstCurrency] } }
    let id : Uuid := ⟨2 ^ 64 + 2, by decide⟩
    currencyCode id = firstCurrency.code ∧
      store.execute (.ofUnixSeconds 0) (.insertCurrency id (currencyCode id) minorUnitDigits) =
        .error (.duplicate "currencies_code_key") := by
  intro store id
  have twin : currencyCode firstCurrency.id = currencyCode id :=
    (currencyCode_identifies.1 _ _).mpr (by decide +kernel)
  obtain ⟨_, _, stored⟩ := currencyCode_identifies.2 id
  have refused := (stored store _ (.ofUnixSeconds 0) minorUnitDigits rfl).1
  refine ⟨twin.symm, refused.mpr ⟨⟨firstCurrency, List.mem_cons_self, twin⟩, ?_⟩⟩
  rintro ⟨c, hc, same⟩
  cases List.mem_singleton.mp hc
  exact absurd same (by decide)

end Command.Seed

end FundsLedger
