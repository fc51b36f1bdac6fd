/-!
# The civil calendar

Days are numbered from 1 January 1970. A day number is split into eras of 400 years, and within an
era the year is taken to start in March, so that a leap day ends its year.
-/

namespace FundsLedger.Time

/-- A date of the proleptic Gregorian calendar, not necessarily one that exists. -/
structure Date where
  year : Int
  month : Int
  day : Int
deriving DecidableEq

namespace Date

/-- Days from the start of era zero, 1 March of year 0, to 1 January 1970. -/
def epochShift : Int := 719468

def daysPerEra : Int := 146097

/-- The first day, counted within its era, of a year of the era that starts in March. -/
def yearStart (year : Int) : Int :=
  365 * year + year / 4 - year / 100

/-- The first day, counted within its year, of a month counted from March. -/
def monthStart (month : Int) : Int :=
  (153 * month + 2) / 5

def ofDayNumber (n : Int) : Date :=
  let shifted := n + epochShift
  let era := shifted / daysPerEra
  let dayOfEra := shifted % daysPerEra
  let yearOfEra :=
    (dayOfEra - dayOfEra / 1460 + dayOfEra / 36524 - dayOfEra / 146096) / 365
  let dayOfYear := dayOfEra - yearStart yearOfEra
  let marchMonth := (5 * dayOfYear + 2) / 153
  let day := dayOfYear - monthStart marchMonth + 1
  let month := if marchMonth < 10 then marchMonth + 3 else marchMonth - 9
  let year := yearOfEra + era * 400 + (if month ≤ 2 then 1 else 0)
  ⟨year, month, day⟩

def dayNumber (date : Date) : Int :=
  let year := if date.month ≤ 2 then date.year - 1 else date.year
  let era := year / 400
  let yearOfEra := year % 400
  let marchMonth := if date.month > 2 then date.month - 3 else date.month + 9
  let dayOfYear := monthStart marchMonth + date.day - 1
  era * daysPerEra + (yearStart yearOfEra + dayOfYear) - epochShift

/-- A date exists when it is the date of the day that it names. -/
def Exists (date : Date) : Prop :=
  ofDayNumber date.dayNumber = date

instance (date : Date) : Decidable date.Exists :=
  inferInstanceAs (Decidable (_ = _))

end Date

/-- The first day that a time can name, 1 January of the year -262143. -/
def firstDay : Int := Date.dayNumber ⟨-262143, 1, 1⟩

def lastDay : Int := Date.dayNumber ⟨262142, 12, 31⟩

end FundsLedger.Time
