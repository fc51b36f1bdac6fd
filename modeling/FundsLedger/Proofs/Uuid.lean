import FundsLedger.Proofs.Text.Numerals
import FundsLedger.Uuid
import Mathlib.Algebra.GroupWithZero.Nat

/-!
# Identifiers as text and back

The hyphenated text of an identifier is read as that identifier.
-/

namespace FundsLedger.Uuid

open Text (length_hexDigits radixValue?_hexDigits)

theorem length_simple (id : Uuid) : id.simple.length = 32 :=
  length_hexDigits 32 id.value

theorem ofSimple?_simple (id : Uuid) : ofSimple? id.simple = some id := by
  have value : Text.radixValue? 16 id.simple = some id.value := by
    rw [simple, radixValue?_hexDigits, Nat.mod_eq_of_lt]
    exact id.value_lt
  rw [ofSimple?, if_pos id.length_simple, value, Option.bind_some, dif_pos id.value_lt]

/-- The hyphens are one fewer than the groups. -/
theorem length_hyphenate (lengths : List Nat) {s : List Char} (h : s.length = lengths.sum) :
    (hyphenate lengths s).length = lengths.sum + (lengths.length - 1) := by
  fun_induction hyphenate lengths s with
  | case1 s => exact h
  | case2 n s => exact h
  | case3 n ns s _ ih =>
    rw [List.sum_cons] at h
    have front : (s.take n).length = n := List.length_take_of_le (by omega)
    have nonempty : 0 < ns.length := List.length_pos_iff.mpr (by assumption)
    rw [List.length_append, List.length_cons, front, ih (by rw [List.length_drop]; omega),
      List.sum_cons, List.length_cons]
    omega

theorem unhyphenate_hyphenate (lengths : List Nat) {s : List Char} (h : s.length = lengths.sum) :
    unhyphenate lengths (hyphenate lengths s) = some s := by
  fun_induction hyphenate lengths s with
  | case1 s =>
    rw [List.length_eq_zero_iff.mp h]
    rfl
  | case2 n s => exact if_pos h
  | case3 n ns s several ih =>
    rw [List.sum_cons] at h
    have front : (s.take n).length = n := List.length_take_of_le (by omega)
    have rest := ih (by rw [List.length_drop]; omega)
    rw [unhyphenate, List.drop_left' front, List.take_left' front]
    · simp only [front, if_true, rest, Option.map_some, List.take_append_drop]
    · exact several

theorem ofText?_text (id : Uuid) : ofText? id.text = some id := by
  have length : id.simple.length = groupLengths.sum := id.length_simple
  have long : ofSimple? id.text = none := by
    rw [ofSimple?, if_neg]
    rw [text, length_hyphenate _ length]
    decide
  have hyphenated : ofHyphenated? id.text = some id := by
    rw [ofHyphenated?, text, unhyphenate_hyphenate _ length, Option.bind_some, ofSimple?_simple]
  rw [ofText?, long, Option.none_or, hyphenated, Option.some_or]

end FundsLedger.Uuid
