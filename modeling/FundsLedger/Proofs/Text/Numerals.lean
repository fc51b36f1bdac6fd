import FundsLedger.Text.Decimal
import FundsLedger.Text.Radix
import Mathlib.Data.List.Basic
import Mathlib.Data.List.Induction

/-!
# Numerals and their values

A numeral that is written denotes the number it was written for, whatever stands behind it. This
holds for decimal numerals, with zeros in front or without, and for a fixed number of hexadecimal
digits.
-/

namespace FundsLedger.Text

/-! ### Digits -/

theorem isDigit_digitChar : ∀ n < 10, isDigit (digitChar n) = true := by decide

theorem digitValue_digitChar : ∀ n < 10, digitValue (digitChar n) = n := by decide

theorem isDigit_iff {c : Char} : isDigit c = true ↔ 48 ≤ c.toNat ∧ c.toNat ≤ 57 := by
  simp only [isDigit, Bool.and_eq_true, decide_eq_true_eq, Char.le_def, UInt32.le_iff_toNat_le]
  rfl

def NoDigit (s : List Char) : Prop :=
  ∀ c ∈ s.head?, isDigit c = false

theorem noDigit_nil : NoDigit [] := by
  intro c hc
  cases hc

theorem noDigit_cons {c : Char} {s : List Char} (h : isDigit c = false) : NoDigit (c :: s) := by
  intro d hd
  cases hd
  exact h

section Runs

variable {digits rest : List Char}

theorem takeWhile_isDigit (all : ∀ c ∈ digits, isDigit c = true) (h : NoDigit rest) :
    (digits ++ rest).takeWhile isDigit = digits := by
  rw [List.takeWhile_append_of_pos all]
  cases rest with
  | nil => exact List.append_nil _
  | cons c rest => rw [List.takeWhile_cons_of_neg (by rw [h c rfl]; decide), List.append_nil]

theorem dropWhile_isDigit (all : ∀ c ∈ digits, isDigit c = true) (h : NoDigit rest) :
    (digits ++ rest).dropWhile isDigit = rest := by
  rw [List.dropWhile_append_of_pos all]
  cases rest with
  | nil => rfl
  | cons c rest => rw [List.dropWhile_cons_of_neg (by rw [h c rfl]; decide)]

end Runs

/-! ### Decimal numerals -/

theorem decimalValue_concat (digits : List Char) (d : Char) :
    decimalValue (digits ++ [d]) = decimalValue digits * 10 + digitValue d := by
  simp only [decimalValue, List.foldl_append, List.foldl_cons, List.foldl_nil]

theorem decimalValue_decimal (n : Nat) : decimalValue (decimal n) = n := by
  fun_induction decimal n with
  | case1 n small => simpa [decimalValue] using digitValue_digitChar n small
  | case2 n large ih =>
    rw [decimalValue_concat, ih, digitValue_digitChar _ (Nat.mod_lt _ (by decide))]
    omega

theorem isDigit_decimal (n : Nat) : ∀ c ∈ decimal n, isDigit c = true := by
  intro c hc
  fun_induction decimal n with
  | case1 n small =>
    rw [List.mem_singleton] at hc
    exact hc ▸ isDigit_digitChar n small
  | case2 n large ih =>
    rcases List.mem_append.mp hc with hc | hc
    · exact ih hc
    · rw [List.mem_singleton] at hc
      exact hc ▸ isDigit_digitChar _ (Nat.mod_lt _ (by decide))

theorem decimal_ne_nil (n : Nat) : decimal n ≠ [] := by
  rw [decimal]
  split <;> simp

/-- Only the numeral of zero starts with a zero. -/
theorem head_decimal {n : Nat} (h : n ≠ 0) : (decimal n).head? ≠ some '0' := by
  fun_induction decimal n with
  | case1 n small =>
    have nonzero : ∀ n < 10, n ≠ 0 → digitChar n ≠ '0' := by decide
    exact fun zero => nonzero n small h (Option.some.inj zero)
  | case2 n large ih =>
    obtain ⟨d, digits, front⟩ := List.exists_cons_of_ne_nil (decimal_ne_nil (n / 10))
    rw [front] at ih ⊢
    exact ih (by omega)

theorem length_decimal_le {width n : Nat} (positive : 0 < width) (h : n < Nat.pow 10 width) :
    (decimal n).length ≤ width := by
  induction width generalizing n with
  | zero => exact absurd positive (Nat.lt_irrefl 0)
  | succ width ih =>
    change n < Nat.pow 10 width * 10 at h
    rw [decimal]
    split
    · simp
    · rename_i large
      rw [List.length_append, List.length_singleton]
      have wide : 0 < width := by
        rcases width with _ | width
        · exact absurd h large
        · exact Nat.succ_pos _
      exact Nat.succ_le_succ (ih wide (by omega))

theorem digitChar_digitValue {d : Char} (h : isDigit d = true) : digitChar (digitValue d) = d := by
  rw [isDigit_iff] at h
  have back : '0'.toNat + (d.toNat - '0'.toNat) = d.toNat := Nat.add_sub_cancel' h.1
  rw [digitChar, digitValue, back, Char.ofNat_toNat]

theorem digitValue_lt {d : Char} (h : isDigit d = true) : digitValue d < 10 := by
  rw [isDigit_iff] at h
  change d.toNat - 48 < 10
  omega

theorem digitValue_pos {d : Char} (h : isDigit d = true) (nonzero : d ≠ '0') :
    0 < digitValue d := by
  refine Nat.pos_of_ne_zero fun zero => nonzero ?_
  rw [← digitChar_digitValue h, zero]
  rfl

theorem le_appendDigits (n : Nat) (digits : List Char) :
    n ≤ digits.foldl (fun n c => n * 10 + digitValue c) n := by
  induction digits generalizing n with
  | nil => exact Nat.le_refl n
  | cons d digits ih => exact Nat.le_trans (by omega) (ih (n * 10 + digitValue d))

/-- Digits without superfluous zeros in front are the numeral of their value. -/
theorem decimal_decimalValue {digits : List Char} (nonempty : digits ≠ [])
    (all : ∀ c ∈ digits, isDigit c = true)
    (canonical : ¬(1 < digits.length ∧ digits.head? = some '0')) :
    decimal (decimalValue digits) = digits := by
  induction digits using List.reverseRecOn with
  | nil => exact absurd rfl nonempty
  | append_singleton digits d ih =>
    have digit : isDigit d = true := all d (List.mem_append_right _ List.mem_cons_self)
    have small := digitValue_lt digit
    rw [decimalValue_concat]
    cases digits with
    | nil =>
      rw [show decimalValue [] = 0 from rfl, Nat.zero_mul, Nat.zero_add, decimal, if_pos small,
        digitChar_digitValue digit, List.nil_append]
    | cons c digits =>
      have leading : c ≠ '0' := by
        rintro rfl
        exact canonical ⟨by simp, rfl⟩
      have positive : 0 < decimalValue (c :: digits) := by
        have pos := digitValue_pos (all c List.mem_cons_self) leading
        have le : 0 * 10 + digitValue c ≤ decimalValue (c :: digits) := le_appendDigits _ digits
        omega
      have front := ih (List.cons_ne_nil c digits)
        (fun x hx => all x (List.mem_append_left _ hx)) fun h => leading (Option.some.inj h.2)
      have quotient : (decimalValue (c :: digits) * 10 + digitValue d) / 10 =
          decimalValue (c :: digits) := by omega
      have remainder : (decimalValue (c :: digits) * 10 + digitValue d) % 10 = digitValue d := by
        omega
      rw [decimal, if_neg (by omega), quotient, remainder, front, digitChar_digitValue digit]

/-! ### Numerals with zeros in front -/

section Padded

variable {width n : Nat}

theorem decimalValue_zeros (k : Nat) (digits : List Char) :
    decimalValue (List.replicate k '0' ++ digits) = decimalValue digits := by
  induction k with
  | zero => rfl
  | succ k ih => exact ih

theorem decimalValue_paddedDecimal (width n : Nat) : decimalValue (paddedDecimal width n) = n := by
  rw [paddedDecimal, decimalValue_zeros, decimalValue_decimal]

theorem isDigit_paddedDecimal (width n : Nat) : ∀ c ∈ paddedDecimal width n, isDigit c = true := by
  intro c hc
  rcases List.mem_append.mp hc with hc | hc
  · rw [List.eq_of_mem_replicate hc]
    rfl
  · exact isDigit_decimal n c hc

theorem paddedDecimal_ne_nil (width n : Nat) : paddedDecimal width n ≠ [] :=
  List.append_ne_nil_of_right_ne_nil _ (decimal_ne_nil n)

theorem length_paddedDecimal (positive : 0 < width) (h : n < Nat.pow 10 width) :
    (paddedDecimal width n).length = width := by
  rw [paddedDecimal, List.length_append, List.length_replicate]
  exact Nat.sub_add_cancel (length_decimal_le positive h)

end Padded

/-! ### Hexadecimal digits -/

theorem length_hexDigits (width n : Nat) : (hexDigits width n).length = width := by
  induction width generalizing n with
  | zero => rfl
  | succ width ih => rw [hexDigits, List.length_append, ih, List.length_singleton]

theorem radixDigit?_radixDigit : ∀ n < 16, radixDigit? 16 (radixDigit n) = some n := by decide

theorem radixValue?_concat (digits : List Char) (d : Char) :
    radixValue? 16 (digits ++ [d]) =
      (radixValue? 16 digits).bind fun n => (radixDigit? 16 d).map (n * 16 + ·) := by
  simp only [radixValue?, List.foldlM_append, List.foldlM_cons, List.foldlM_nil]
  cases radixDigit? 16 d <;> rfl

theorem radixValue?_hexDigits (width n : Nat) :
    radixValue? 16 (hexDigits width n) = some (n % Nat.pow 16 width) := by
  induction width generalizing n with
  | zero => simp [radixValue?, hexDigits, Nat.mod_one]
  | succ width ih =>
    have cut : n % Nat.pow 16 (width + 1) = n / 16 % Nat.pow 16 width * 16 + n % 16 := by
      change n % (Nat.pow 16 width * 16) = _
      rw [Nat.mul_comm, Nat.mod_mul]
      omega
    rw [hexDigits, radixValue?_concat, ih, radixDigit?_radixDigit _ (Nat.mod_lt _ (by decide)), cut]
    rfl

theorem mem_hexDigits (width n : Nat) : ∀ c ∈ hexDigits width n, c ∈ radixDigits := by
  have digit : ∀ m < 16, radixDigit m ∈ radixDigits := by decide
  induction width generalizing n with
  | zero => exact fun _ hc => absurd hc List.not_mem_nil
  | succ width ih =>
    intro c hc
    rcases List.mem_append.mp hc with hc | hc
    · exact ih (n / 16) c hc
    · rw [List.mem_singleton.mp hc]
      exact digit _ (Nat.mod_lt _ (by decide))

/-- The first digits are those of the number without its last digits. -/
theorem take_hexDigits (width rest n : Nat) :
    (hexDigits (width + rest) n).take width = hexDigits width (n / Nat.pow 16 rest) := by
  induction rest generalizing n with
  | zero =>
    rw [Nat.add_zero, List.take_of_length_le (Nat.le_of_eq (length_hexDigits width n))]
    exact congrArg (hexDigits width) (Nat.div_one n).symm
  | succ rest ih =>
    have cut : n / Nat.pow 16 (rest + 1) = n / 16 / Nat.pow 16 rest := by
      rw [Nat.div_div_eq_div_mul, Nat.mul_comm]
      rfl
    have long : width ≤ (hexDigits (width + rest) (n / 16)).length := by
      rw [length_hexDigits]
      omega
    rw [cut, ← ih, ← Nat.add_assoc, hexDigits, List.take_append_of_le_length long]

theorem radixDigit?_toUpper : ∀ c ∈ radixDigits, radixDigit? 16 c.toUpper = radixDigit? 16 c :=
  List.forall_iff_forall_mem.mp (by decide)

/-- Upper-case digits denote what the digits denote. -/
theorem radixValue?_toUpper {digits : List Char} (h : ∀ c ∈ digits, c ∈ radixDigits) :
    radixValue? 16 (digits.map Char.toUpper) = radixValue? 16 digits := by
  induction digits using List.reverseRecOn with
  | nil => rfl
  | append_singleton digits d ih =>
    have front := ih fun c hc => h c (List.mem_append_left _ hc)
    have last := radixDigit?_toUpper d (h d (List.mem_append_right _ List.mem_cons_self))
    rw [List.map_append, List.map_singleton, radixValue?_concat, radixValue?_concat, front, last]

/-- Numbers that have as many digits as are written are told apart by them, in either case. -/
theorem map_toUpper_hexDigits_inj {width m n : Nat} (hm : m < Nat.pow 16 width)
    (hn : n < Nat.pow 16 width) :
    (hexDigits width m).map Char.toUpper = (hexDigits width n).map Char.toUpper ↔ m = n := by
  refine ⟨fun same => ?_, fun same => by rw [same]⟩
  have values := congrArg (radixValue? 16) same
  rw [radixValue?_toUpper (mem_hexDigits width m), radixValue?_toUpper (mem_hexDigits width n),
    radixValue?_hexDigits, radixValue?_hexDigits, Nat.mod_eq_of_lt hm, Nat.mod_eq_of_lt hn] at values
  exact Option.some.inj values

end FundsLedger.Text
