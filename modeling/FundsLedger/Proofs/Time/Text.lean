import FundsLedger.Proofs.Text.Numerals
import FundsLedger.Proofs.Time.Calendar
import FundsLedger.Time.Text
import Mathlib.Data.List.Basic

/-!
# Timestamps as text and back

The text of a timestamp is read as that timestamp: the day with any year, the second with leap
seconds, nanoseconds to the last and any offset. The main statement is `Timestamp.ofText?_text`.
-/

namespace FundsLedger.Time

open FundsLedger.Text

/-! ### Blanks -/

theorem isBlank_of_isDigit {c : Char} (h : isDigit c = true) : isBlank c = false := by
  rw [isDigit_iff] at h
  simp only [isBlank, Bool.or_eq_false_iff, Bool.and_eq_false_iff, decide_eq_false_iff_not,
    beq_eq_false_iff_ne]
  omega

theorem trimStart_cons {c : Char} (h : isBlank c = false) (s : List Char) :
    trimStart (c :: s) = c :: s :=
  List.dropWhile_cons_of_neg (by rw [h]; decide)

theorem expect_cons {c : Char} (h : isBlank c = false) (s : List Char) :
    expect c (c :: s) = some s := by
  rw [expect, trimStart_cons h]
  exact if_pos rfl

/-- Digits are what they are past any blanks. -/
theorem trimStart_digits {digits : List Char} (all : ∀ c ∈ digits, isDigit c = true)
    (some : digits ≠ []) (rest : List Char) : trimStart (digits ++ rest) = digits ++ rest := by
  obtain ⟨d, more, rfl⟩ := List.exists_cons_of_ne_nil some
  exact trimStart_cons (isBlank_of_isDigit (all d List.mem_cons_self)) _

/-! ### Numbers of a fixed width -/

section Numbers

variable {width n : Nat} {rest : List Char}

theorem readNumber_paddedDecimal (positive : 0 < width) (h : n < Nat.pow 10 width)
    (rest : List Char) : readNumber width (paddedDecimal width n ++ rest) = some (n, rest) := by
  have length := length_paddedDecimal positive h
  have digits : ((paddedDecimal width n ++ rest).take width).takeWhile isDigit =
      paddedDecimal width n := by
    rw [List.take_left' length]
    simpa using takeWhile_isDigit (isDigit_paddedDecimal width n) noDigit_nil
  simp only [readNumber, digits,
    trimStart_digits (isDigit_paddedDecimal width n) (paddedDecimal_ne_nil width n),
    List.isEmpty_eq_false_iff.mpr (paddedDecimal_ne_nil width n), Bool.false_eq_true, if_false,
    decimalValue_paddedDecimal, List.drop_left]

theorem readNumber_two (h : n < 100) (rest : List Char) :
    readNumber 2 (paddedDecimal 2 n ++ rest) = some (n, rest) :=
  readNumber_paddedDecimal (by decide) h rest

theorem readDigits_paddedDecimal (h : NoDigit rest) :
    readYear.readDigits (paddedDecimal width n ++ rest) = some (n, rest) := by
  simp only [readYear.readDigits, takeWhile_isDigit (isDigit_paddedDecimal width n) h,
    List.isEmpty_eq_false_iff.mpr (paddedDecimal_ne_nil width n), Bool.false_eq_true, if_false,
    decimalValue_paddedDecimal, List.drop_left]

/-- Two digits, one by one. -/
theorem exists_pair (h : n < 100) :
    ∃ a b, paddedDecimal 2 n = [a, b] ∧ isDigit a = true ∧ isDigit b = true := by
  have length := length_paddedDecimal (by decide : 0 < 2) h
  obtain ⟨a, b, pair⟩ := List.length_eq_two.mp length
  have all := isDigit_paddedDecimal 2 n
  rw [pair] at all
  exact ⟨a, b, pair, all a (by simp), all b (by simp)⟩

theorem readPair_paddedDecimal (h : n < 100) (rest : List Char) :
    readPair (paddedDecimal 2 n ++ rest) = some (n, rest) := by
  obtain ⟨a, b, pair, first, second⟩ := exists_pair h
  have value := decimalValue_paddedDecimal 2 n
  rw [pair] at value ⊢
  simp only [readPair, List.cons_append, List.nil_append, first, second, Bool.and_self, if_true,
    value]

end Numbers

/-! ### Parts of a timestamp -/

theorem readYear_minus (s : List Char) :
    readYear ('-' :: s) = (readYear.readDigits s).map fun (n, rest) => (-(n : Int), rest) := rfl

theorem readYear_plus (s : List Char) :
    readYear ('+' :: s) = (readYear.readDigits s).map fun (n, rest) => ((n : Int), rest) := rfl

/-- A text that starts with a digit has no sign. -/
theorem readYear_digits {digits : List Char} (all : ∀ c ∈ digits, isDigit c = true)
    (some : digits ≠ []) (rest : List Char) :
    readYear (digits ++ rest) =
      (readNumber 4 (digits ++ rest)).map fun (n, rest) => ((n : Int), rest) := by
  obtain ⟨d, more, rfl⟩ := List.exists_cons_of_ne_nil some
  have digit := all d List.mem_cons_self
  rw [readYear, trimStart_digits all some]
  split
  · rename_i heq
    cases heq
    cases digit
  · rename_i heq
    cases heq
    cases digit
  · rfl

theorem readYear_yearText (year : Int) (rest : List Char) :
    readYear (Timestamp.yearText year ++ '-' :: rest) = some (year, '-' :: rest) := by
  have noDigit : NoDigit ('-' :: rest) := noDigit_cons (by decide)
  by_cases short : 0 ≤ year ∧ year ≤ 9999
  · rw [Timestamp.yearText, if_pos short,
      readYear_digits (isDigit_paddedDecimal 4 _) (paddedDecimal_ne_nil 4 _),
      readNumber_paddedDecimal (by decide) (show _ < 10000 by omega), Option.map_some]
    dsimp only
    rw [Int.natAbs_of_nonneg short.1]
  · rw [Timestamp.yearText, if_neg short, List.cons_append]
    by_cases negative : year < 0
    · rw [if_pos negative, readYear_minus, readDigits_paddedDecimal noDigit, Option.map_some]
      dsimp only
      rw [Int.ofNat_natAbs_of_nonpos (Int.le_of_lt negative), Int.neg_neg]
    · rw [if_neg negative, readYear_plus, readDigits_paddedDecimal noDigit, Option.map_some]
      dsimp only
      rw [Int.natAbs_of_nonneg (Int.not_lt.mp negative)]

theorem readDate_ofDayNumber (n : Int) (rest : List Char) :
    readDate (Timestamp.yearText (Date.ofDayNumber n).year ++
      '-' :: (paddedDecimal 2 (Date.ofDayNumber n).month.natAbs ++
        '-' :: (paddedDecimal 2 (Date.ofDayNumber n).day.natAbs ++ rest))) =
      some (Date.ofDayNumber n, rest) := by
  have month := Date.month_bounds n
  have day := Date.dayOfMonth_bounds n
  have date : (⟨(Date.ofDayNumber n).year, ((Date.ofDayNumber n).month.natAbs : Int),
      ((Date.ofDayNumber n).day.natAbs : Int)⟩ : Date) = Date.ofDayNumber n := by
    rw [Int.natAbs_of_nonneg (by omega), Int.natAbs_of_nonneg (by omega)]
  simp only [readDate, Option.bind_eq_bind, readYear_yearText, Option.bind_some,
    expect_cons (show isBlank '-' = false by decide),
    readNumber_two (by omega : (Date.ofDayNumber n).month.natAbs < 100),
    readNumber_two (by omega : (Date.ofDayNumber n).day.natAbs < 100), date,
    if_pos (Date.exists_ofDayNumber n)]

theorem fractionNanos_of_length {digits : List Char} (h : digits.length ≤ 9) :
    fractionNanos digits = decimalValue digits * Nat.pow 10 (9 - digits.length) := by
  rw [fractionNanos, List.take_of_length_le h]

theorem readFraction_point {width n : Nat} {rest : List Char} (positive : 0 < width)
    (short : width ≤ 9) (h : n < Nat.pow 10 width) (noDigit : NoDigit rest) :
    readFraction ('.' :: (paddedDecimal width n ++ rest)) =
      some (n * Nat.pow 10 (9 - width), rest) := by
  have length := length_paddedDecimal positive h
  simp only [readFraction, takeWhile_isDigit (isDigit_paddedDecimal width n) noDigit,
    List.isEmpty_eq_false_iff.mpr (paddedDecimal_ne_nil width n), Bool.false_eq_true, if_false,
    fractionNanos_of_length (Nat.le_trans (Nat.le_of_eq length) short), decimalValue_paddedDecimal,
    length, List.drop_left' length]

theorem readFraction_fractionText {nanos : Nat} {rest : List Char} (h : nanos < nanosPerSecond)
    (noDigit : NoDigit rest) (noPoint : rest.head? ≠ some '.') :
    readFraction (Timestamp.fractionText nanos ++ rest) = some (nanos, rest) := by
  unfold nanosPerSecond at h
  unfold Timestamp.fractionText
  repeat' split
  · rename_i whole
    subst whole
    rw [List.nil_append, readFraction]
    rintro rest' rfl
    exact noPoint rfl
  -- Three, six or nine digits stand after the point.
  all_goals
    rw [List.cons_append, readFraction_point (by decide) (by decide) ?_ noDigit]
    · congr 2
      simp only [Nat.pow_eq]
      omega
    · simp only [Nat.pow_eq]
      omega

theorem readTimeOfDay_padded {hour minute second nanos : Nat} {rest : List Char}
    (hourLt : hour < 24) (minuteLt : minute < 60) (secondLe : second ≤ 60)
    (nanosLt : nanos < nanosPerSecond) (noDigit : NoDigit rest) (noPoint : rest.head? ≠ some '.') :
    readTimeOfDay (paddedDecimal 2 hour ++ ':' :: (paddedDecimal 2 minute ++
      ':' :: (paddedDecimal 2 second ++ (Timestamp.fractionText nanos ++ rest)))) =
      if second = 60 then some ((hour * 3600 + minute * 60 + 59, nanosPerSecond + nanos), rest)
      else some ((hour * 3600 + minute * 60 + second, nanos), rest) := by
  have colon (s : List Char) : expect ':' (':' :: s) = some s := expect_cons (by decide) s
  simp only [readTimeOfDay, Option.bind_eq_bind, Option.bind_some, colon,
    readNumber_two (by omega : hour < 100), readNumber_two (by omega : minute < 100),
    readNumber_two (by omega : second < 100), readFraction_fractionText nanosLt noDigit noPoint]
  exact if_pos ⟨hourLt, minuteLt, secondLe⟩

theorem readTimeOfDay_written {second nanos : Nat} {rest : List Char} (inDay : second < 86400)
    (leap : nanosPerSecond ≤ nanos → second % 60 = 59) (h : nanos < 2 * nanosPerSecond)
    (noDigit : NoDigit rest) (noPoint : rest.head? ≠ some '.') :
    readTimeOfDay (paddedDecimal 2 (second / 3600) ++ ':' :: (paddedDecimal 2 (second / 60 % 60) ++
      ':' :: (paddedDecimal 2 (second % 60 + if nanosPerSecond ≤ nanos then 1 else 0) ++
        (Timestamp.fractionText (nanos % nanosPerSecond) ++ rest)))) =
      some ((second, nanos), rest) := by
  have fraction : nanos % nanosPerSecond < nanosPerSecond := Nat.mod_lt _ (by decide)
  by_cases late : nanosPerSecond ≤ nanos
  · have last := leap late
    rw [if_pos late, readTimeOfDay_padded (by omega) (by omega) (by omega) fraction noDigit noPoint,
      if_pos (by omega)]
    congr 3
    · omega
    · unfold nanosPerSecond at *
      omega
  · rw [if_neg late, readTimeOfDay_padded (by omega) (by omega) (by omega) fraction noDigit noPoint,
      if_neg (by omega), Nat.mod_eq_of_lt (Nat.lt_of_not_ge late)]
    congr 3
    omega

theorem readOffset_sign {sign : Char} (h : sign = '+' ∨ sign = '-') (s : List Char) :
    readOffset (sign :: s) = (do
      let (hours, s) ← readPair s
      let s := s.dropWhile fun c => c = ':' || isBlank c
      let (minutes, s) ← readPair s
      if minutes < 60 then
        some ((if sign = '+' then 1 else -1) * (hours * 60 + minutes : Nat), s)
      else none) := by
  rcases h with rfl | rfl <;> rfl

/-- Between the hours and the minutes of an offset stands a colon, and no blank. -/
theorem dropWhile_colon {n : Nat} (h : n < 100) :
    (':' :: paddedDecimal 2 n).dropWhile (fun c => c = ':' || isBlank c) = paddedDecimal 2 n := by
  obtain ⟨a, b, pair, digit, _⟩ := exists_pair h
  have notColon : a ≠ ':' := by
    rintro rfl
    cases digit
  rw [pair]
  simp [notColon, isBlank_of_isDigit digit]

theorem readOffset_padded {sign : Char} (h : sign = '+' ∨ sign = '-') {hours minutes : Nat}
    (hoursLt : hours < 100) (minutesLt : minutes < 60) :
    readOffset (sign :: (paddedDecimal 2 hours ++ ':' :: paddedDecimal 2 minutes)) =
      some ((if sign = '+' then 1 else -1) * ((hours * 60 + minutes : Nat) : Int), []) := by
  have read := readPair_paddedDecimal (by omega : minutes < 100) []
  rw [List.append_nil] at read
  simp only [readOffset_sign h, readPair_paddedDecimal hoursLt, Option.bind_eq_bind,
    Option.bind_some, dropWhile_colon (by omega : minutes < 100), read, if_pos minutesLt]

theorem readOffset_offsetText {offset : Int} (lower : -1440 < offset) (upper : offset < 1440) :
    readOffset (Timestamp.offsetText offset) = some (offset, []) := by
  unfold Timestamp.offsetText
  by_cases zero : offset = 0
  · subst zero
    rfl
  rw [if_neg zero]
  by_cases negative : offset < 0
  · rw [if_pos negative, readOffset_padded (.inr rfl) (by omega) (by omega), if_neg (by decide)]
    congr 2
    omega
  · rw [if_neg negative, readOffset_padded (.inl rfl) (by omega) (by omega), if_pos rfl]
    congr 2
    omega

/-- An offset starts with a letter or a sign. -/
theorem head_offsetText (offset : Int) :
    NoDigit (Timestamp.offsetText offset) ∧ (Timestamp.offsetText offset).head? ≠ some '.' := by
  unfold Timestamp.offsetText
  split
  · exact ⟨noDigit_cons (by decide), by decide⟩
  · split <;> exact ⟨noDigit_cons (by decide), by simp⟩

namespace Timestamp

theorem ofParts?_parts (t : Timestamp) : ofParts? t.day t.second t.nanos t.offset = some t :=
  dif_pos t.valid

/-- What is written for a timestamp is read as that timestamp. -/
theorem ofText?_text (t : Timestamp) : ofText? t.text = some t := by
  obtain ⟨noDigit, noPoint⟩ := head_offsetText t.offset
  have date := readDate_ofDayNumber t.day
  have time := readTimeOfDay_written t.valid.second_lt t.valid.leap t.valid.nanos_lt noDigit noPoint
  have offset := readOffset_offsetText t.valid.offset_gt t.valid.offset_lt
  simp only [text, List.append_assoc, List.cons_append, ofText?, Option.bind_eq_bind, date,
    Option.bind_some, time, offset, Date.dayNumber_ofDayNumber, ofParts?_parts]
  rfl

end Timestamp

end FundsLedger.Time
