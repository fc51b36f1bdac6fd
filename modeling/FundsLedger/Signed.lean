/-!
# Integers of a fixed width

Amounts fill a column of 64 bits and digit counts one of 16. A value carries the proof that it fits,
so nothing is ever wrapped or cut.
-/

namespace FundsLedger

/-- The least number that is too large for `bits` bits with a sign. -/
def Signed.bound (bits : Nat) : Int := Nat.pow 2 (bits - 1)

/-- An integer that fits in `bits` bits with a sign. -/
structure Signed (bits : Nat) where
  toInt : Int
  lower : -Signed.bound bits ≤ toInt
  upper : toInt < Signed.bound bits
deriving DecidableEq

namespace Signed

variable {bits : Nat}

def ofInt? (n : Int) : Option (Signed bits) :=
  if h : -bound bits ≤ n ∧ n < bound bits then some ⟨n, h.1, h.2⟩ else none

theorem bound_pos (bits : Nat) : 0 < bound bits :=
  Int.natCast_pos.mpr (Nat.pow_pos (by decide))

def zero : Signed bits where
  toInt := 0
  lower := by
    have := bound_pos bits
    omega
  upper := bound_pos bits

instance : Inhabited (Signed bits) := ⟨zero⟩

theorem ofInt?_toInt (a : Signed bits) : ofInt? a.toInt = some a := by
  simp [ofInt?, a.lower, a.upper]

end Signed

/-- An amount in a currency's minor unit, in the whole range of its column. -/
abbrev Amount := Signed 64

/-- How many digits stand between the major and the minor unit. -/
abbrev DigitCount := Signed 16

end FundsLedger
