import FundsLedger.Command.Basic
import FundsLedger.Ledger.Operations
import FundsLedger.Text.Decimal

/-!
# Seeding

The command fills a database with deposits and withdrawals that are drawn at random, all for a new
user in a new currency and in one transaction. What is drawn comes from a sequence of random
numbers, so the command itself is a function of them.
-/

namespace FundsLedger.Command

open Database (Failure Program)

namespace Seed

/-- A currency code of thirteen characters, from the first twelve digits of the currency's id. -/
def currencyCode (id : Uuid) : String :=
  String.ofList ('T' :: (id.simple.take 12).map Char.toUpper)

def minorUnitDigits : DigitCount := ⟨2, by decide, by decide⟩

def largestAmount : Nat := 99

/-- The amount that a number draws, from one to the largest. -/
def drawAmount (n : Nat) : Amount where
  toInt := (n % largestAmount : Nat) + 1
  lower := by
    have h : -Signed.bound 64 ≤ 0 := by decide
    omega
  upper := by
    have h : n % largestAmount < largestAmount := Nat.mod_lt _ (by decide)
    have hl : largestAmount = 99 := rfl
    have h' : 100 < Signed.bound 64 := by decide
    omega

structure Draw where
  id : Uuid
  direction : Direction
  amount : Amount
  status : Status

/-- The row that a random number draws, with one part of the number for each part of the row. -/
def Draw.ofNumber (n : Nat) : Draw where
  id := .ofRandom n
  direction := if n / Nat.pow 2 122 % 2 = 0 then .deposit else .withdrawal
  status := Status.all.getD (n / Nat.pow 2 123 % Status.all.length) .initial
  amount := drawAmount (n / Nat.pow 2 125)

/-- A stored row as a line of output. -/
def rowLine (e : Entry) : String :=
  s!"{e.direction.table},{e.id},{e.amount},{e.status}"

def header : String := "direction,id,amount,status"

/-- Records the rows of as many numbers as are asked for, from a place in the sequence on. -/
def recordRows (random : Nat → Nat) (user : User) (currency : Currency) :
    (place rows : Nat) → Program CommandError Unit
  | _, 0 => .done ()
  | place, rows + 1 => do
    let draw := Draw.ofNumber (random place)
    let entry : NewEntry := { userId := user.id, currencyId := currency.id, amount := draw.amount }
    let recorded := Ledger.record draw.id draw.direction (entry.withStatus draw.status)
    Program.print (rowLine (← recorded.mapError .ledger))
    recordRows random user currency (place + 1) rows

/-- Adds a user, a currency and rows for them. -/
def fill (random : Nat → Nat) (rows : Nat) : Program CommandError (User × Currency) := do
  let user ← (Ledger.addUser (.ofRandom (random 0))).mapError .database
  let id := Uuid.ofRandom (random 1)
  let currency ← (Ledger.addCurrency id (currencyCode id) minorUnitDigits).mapError .database
  Program.print header
  recordRows random user currency 2 rows
  return (user, currency)

def rowLimit : Nat := Nat.pow 2 64 - 1

def rowsOf? : List String → Option Nat
  | [word] => (Text.readCount? word.toList).filter (· ≤ rowLimit)
  | _ => none

end Seed

def seed (random : Nat → Nat) (s : Surroundings) : Command where
  program :=
    match Seed.rowsOf? s.arguments with
    | none => .fail (.usage s!"Usage: {s.name} <AMOUNT>")
    | some rows => do
      let settings ← settings s
      connect s settings
      let (user, currency) ← overConnection s settings (Seed.fill random rows).inTransaction
      return some s!"✓ Seeded {rows} rows for user {user.id} in {currency.code}"
  shown
    | .line text => some text
    | _ => none
  complaint := inFull

end FundsLedger.Command
