/-!
# Sequences of random numbers

A seed gives a sequence of words by adding a constant again and again and mixing the bits of each
sum. Three words make one number of 192 bits.
-/

namespace FundsLedger.Command

def mixBits (x : UInt64) : UInt64 :=
  let x := (x ^^^ (x >>> 30)) * 0xbf58476d1ce4e5b9
  let x := (x ^^^ (x >>> 27)) * 0x94d049bb133111eb
  x ^^^ (x >>> 31)

/-- The word at a place of the sequence. -/
def randomWord (seed : UInt64) (place : Nat) : Nat :=
  (mixBits (seed + (place + 1).toUInt64 * 0x9e3779b97f4a7c15)).toNat

def randomNumber (seed : UInt64) (place : Nat) : Nat :=
  randomWord seed (3 * place) + randomWord seed (3 * place + 1) * Nat.pow 2 64 +
    randomWord seed (3 * place + 2) * Nat.pow 2 128

end FundsLedger.Command
