import FundsLedger.Time.Calendar

/-!
# Points in time

A `Timestamp` keeps what was written: the local day and second, nanoseconds, and the offset from
UTC. Inside a leap second the nanoseconds run on past a whole second.
-/

namespace FundsLedger.Time

def secondsPerDay : Int := 86400

def nanosPerSecond : Nat := 1000000000

/-- What the parts of a timestamp have to satisfy: the second lies in its day, only the last second
of a minute may be a leap second, the offset is under a day, and both the local reading and the
instant it stands for lie in the calendar. -/
structure Timestamp.Valid (day : Int) (second nanos : Nat) (offset : Int) : Prop where
  second_lt : second < 86400
  nanos_lt : nanos < 2 * nanosPerSecond
  leap : nanosPerSecond ≤ nanos → second % 60 = 59
  offset_gt : -1440 < offset
  offset_lt : offset < 1440
  firstDay_le : firstDay ≤ day
  le_lastDay : day ≤ lastDay
  firstDay_le_utc : firstDay * secondsPerDay ≤ day * secondsPerDay + second - offset * 60
  utc_lt : day * secondsPerDay + second - offset * 60 < (lastDay + 1) * secondsPerDay

/-- A point in time as its writer read it: local day number, second of that day, nanoseconds of
that second, and the offset from UTC in minutes. -/
structure Timestamp where
  day : Int
  second : Nat
  nanos : Nat
  offset : Int
  valid : Timestamp.Valid day second nanos offset
deriving DecidableEq

namespace Timestamp

instance (day : Int) (second nanos : Nat) (offset : Int) : Decidable (Valid day second nanos offset) :=
  decidable_of_iff
    (second < 86400 ∧ nanos < 2 * nanosPerSecond ∧ (nanosPerSecond ≤ nanos → second % 60 = 59) ∧
      -1440 < offset ∧ offset < 1440 ∧ firstDay ≤ day ∧ day ≤ lastDay ∧
      firstDay * secondsPerDay ≤ day * secondsPerDay + second - offset * 60 ∧
      day * secondsPerDay + second - offset * 60 < (lastDay + 1) * secondsPerDay)
    ⟨fun ⟨h₁, h₂, h₃, h₄, h₅, h₆, h₇, h₈, h₉⟩ => ⟨h₁, h₂, h₃, h₄, h₅, h₆, h₇, h₈, h₉⟩,
      fun ⟨h₁, h₂, h₃, h₄, h₅, h₆, h₇, h₈, h₉⟩ => ⟨h₁, h₂, h₃, h₄, h₅, h₆, h₇, h₈, h₉⟩⟩

def ofParts? (day : Int) (second nanos : Nat) (offset : Int) : Option Timestamp :=
  if h : Valid day second nanos offset then some ⟨day, second, nanos, offset, h⟩ else none

/-- Seconds from the start of 1970 in UTC. -/
def unixSeconds (t : Timestamp) : Int :=
  t.day * secondsPerDay + t.second - t.offset * 60

theorem firstDay_eq : firstDay = -96465292 := by decide

theorem lastDay_eq : lastDay = 95026236 := by decide

/-- Seconds from the start of 1970, moved to the nearest end of the calendar where they lie outside
of it. -/
def clampSeconds (n : Int) : Int :=
  max (firstDay * secondsPerDay) (min n ((lastDay + 1) * secondsPerDay - 1))

theorem valid_clampSeconds (n : Int) :
    Valid (clampSeconds n / secondsPerDay) (clampSeconds n % secondsPerDay).toNat 0 0 := by
  have lower : firstDay * secondsPerDay ≤ clampSeconds n := Int.le_max_left _ _
  have upper : clampSeconds n < (lastDay + 1) * secondsPerDay := by
    simp only [clampSeconds, firstDay_eq, lastDay_eq, secondsPerDay]
    omega
  generalize clampSeconds n = m at *
  rw [firstDay_eq] at lower
  rw [lastDay_eq] at upper
  simp only [secondsPerDay] at *
  refine ⟨by omega, by decide, fun h => absurd h (by decide), by decide, by decide, ?_, ?_, ?_, ?_⟩ <;>
    simp only [firstDay_eq, lastDay_eq, secondsPerDay] <;> omega

def ofUnixSeconds (n : Int) : Timestamp where
  day := clampSeconds n / secondsPerDay
  second := (clampSeconds n % secondsPerDay).toNat
  nanos := 0
  offset := 0
  valid := valid_clampSeconds n

instance : Inhabited Timestamp := ⟨ofUnixSeconds 0⟩

/-- The second in which a timestamp lies comes first, then the nanoseconds. -/
def le (a b : Timestamp) : Prop :=
  a.unixSeconds < b.unixSeconds ∨ (a.unixSeconds = b.unixSeconds ∧ a.nanos ≤ b.nanos)

instance : LE Timestamp := ⟨le⟩

instance (a b : Timestamp) : Decidable (a ≤ b) :=
  inferInstanceAs (Decidable (_ ∨ _))

theorem le_iff {a b : Timestamp} : a ≤ b ↔
    a.unixSeconds < b.unixSeconds ∨ (a.unixSeconds = b.unixSeconds ∧ a.nanos ≤ b.nanos) :=
  Iff.rfl

theorem le_trans {a b c : Timestamp} (hab : a ≤ b) (hbc : b ≤ c) : a ≤ c := by
  rw [le_iff] at *
  omega

theorem le_total (a b : Timestamp) : a ≤ b ∨ b ≤ a := by
  rw [le_iff, le_iff]
  omega

theorem le_refl (a : Timestamp) : a ≤ a :=
  (le_total a a).elim id id

end Timestamp

end FundsLedger.Time
