import FundsLedger.Time.Calendar

/-!
# Day numbers and dates

Every day number has a date, and the number of that date is the day number again. Months are
numbered up to 12, and days of a month up to 31.
-/

namespace FundsLedger.Time.Date

/-- The year of its era in which a day of the era lies, the year starting in March. -/
def yearOfEra (day : Int) : Int :=
  (day - day / 1460 + day / 36524 - day / 146096) / 365

/-- The day of its year that a day of an era is. -/
def dayOfYear (day : Int) : Int :=
  day - yearStart (yearOfEra day)

/-- The month, counted from March, in which a day of a year lies. -/
def marchMonth (day : Int) : Int :=
  (5 * day + 2) / 153

variable {day : Int}

theorem yearOfEra_bounds (h : 0 ≤ day) (h' : day < daysPerEra) :
    0 ≤ yearOfEra day ∧ yearOfEra day < 400 := by
  unfold daysPerEra at h'
  unfold yearOfEra
  omega

theorem dayOfYear_bounds (h : 0 ≤ day) (h' : day < daysPerEra) :
    0 ≤ dayOfYear day ∧ dayOfYear day < 366 := by
  obtain ⟨lower, upper⟩ := yearOfEra_bounds h h'
  unfold daysPerEra at h'
  unfold dayOfYear yearStart
  -- Within a century, of days and of years, the bounds are linear.
  have centuryOfDay : day / 36524 = 0 ∨ day / 36524 = 1 ∨ day / 36524 = 2 ∨ day / 36524 = 3 ∨
      day / 36524 = 4 := by omega
  have centuryOfYear : yearOfEra day / 100 = 0 ∨ yearOfEra day / 100 = 1 ∨
      yearOfEra day / 100 = 2 ∨ yearOfEra day / 100 = 3 := by omega
  generalize reached : yearOfEra day = year at *
  unfold yearOfEra at reached
  rcases centuryOfDay with h | h | h | h | h <;>
    rcases centuryOfYear with h' | h' | h' | h' <;> omega

theorem marchMonth_bounds (h : 0 ≤ day) (h' : day < 366) :
    0 ≤ marchMonth day ∧ marchMonth day ≤ 11 := by
  unfold marchMonth
  omega

theorem day_bounds (day : Int) :
    1 ≤ day - monthStart (marchMonth day) + 1 ∧ day - monthStart (marchMonth day) + 1 ≤ 31 := by
  unfold monthStart marchMonth
  omega

/-- What the date of a day number is made of. -/
theorem exists_parts (n : Int) :
    ∃ era year day : Int, n = era * daysPerEra + (yearStart year + day) - epochShift ∧
      (0 ≤ year ∧ year < 400) ∧ (0 ≤ day ∧ day < 366) ∧
      ofDayNumber n =
        let month := if marchMonth day < 10 then marchMonth day + 3 else marchMonth day - 9
        ⟨year + era * 400 + (if month ≤ 2 then 1 else 0), month,
          day - monthStart (marchMonth day) + 1⟩ := by
  have positive : 0 < daysPerEra := by decide
  have lower := Int.emod_nonneg (n + epochShift) (Int.ne_of_gt positive)
  have upper := Int.emod_lt_of_pos (n + epochShift) positive
  refine ⟨(n + epochShift) / daysPerEra, yearOfEra ((n + epochShift) % daysPerEra),
    dayOfYear ((n + epochShift) % daysPerEra), ?_, yearOfEra_bounds lower upper,
    dayOfYear_bounds lower upper, rfl⟩
  have split := Int.ediv_mul_add_emod (n + epochShift) daysPerEra
  unfold dayOfYear
  omega

theorem dayNumber_ofDayNumber (n : Int) : (ofDayNumber n).dayNumber = n := by
  obtain ⟨era, year, day, rfl, ⟨yearLower, yearUpper⟩, ⟨lower, upper⟩, date⟩ := exists_parts n
  obtain ⟨monthLower, monthUpper⟩ := marchMonth_bounds lower upper
  rw [date]
  unfold dayNumber
  dsimp only
  generalize marchMonth day = month at *
  have sameEra : (year + era * 400) / 400 = era := by omega
  have sameYear : (year + era * 400) % 400 = year := by omega
  -- From March to December the year is the one that starts in March; January and February end it.
  by_cases spring : month < 10
  · have late : ¬month + 3 ≤ 2 := by omega
    have sameMonth : month + 3 - 3 = month := by omega
    rw [if_pos spring, if_neg late, if_neg late, if_pos (Int.lt_of_not_ge late), Int.add_zero,
      sameEra, sameYear, sameMonth]
    omega
  · have early : month - 9 ≤ 2 := by omega
    have sameMonth : month - 9 + 9 = month := by omega
    rw [if_neg spring, if_pos early, if_pos early, if_neg (Int.not_lt.mpr early),
      Int.add_sub_cancel, sameEra, sameYear, sameMonth]
    omega

/-- The date of a day number exists. -/
theorem exists_ofDayNumber (n : Int) : (ofDayNumber n).Exists := by
  rw [Exists, dayNumber_ofDayNumber]

theorem month_bounds (n : Int) : 1 ≤ (ofDayNumber n).month ∧ (ofDayNumber n).month ≤ 12 := by
  obtain ⟨era, year, day, _, _, ⟨lower, upper⟩, date⟩ := exists_parts n
  obtain ⟨monthLower, monthUpper⟩ := marchMonth_bounds lower upper
  rw [date]
  dsimp only
  split <;> omega

theorem dayOfMonth_bounds (n : Int) : 1 ≤ (ofDayNumber n).day ∧ (ofDayNumber n).day ≤ 31 := by
  obtain ⟨era, year, day, _, _, _, date⟩ := exists_parts n
  rw [date]
  exact day_bounds day

end FundsLedger.Time.Date
