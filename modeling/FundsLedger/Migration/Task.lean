import FundsLedger.Migration.History

/-!
# Migration tasks

What can be asked of the migrations. Going down always takes a number of steps, going up takes all
that are left where no number is given.
-/

namespace FundsLedger.Migration

open Database (Failure Program)

inductive Task where
  | up (steps : Option Nat)
  | down (steps : Nat)
  | reset
  | refresh
  | status
deriving DecidableEq, Repr

namespace Task

def program : Task → Program Failure Unit
  | up steps => upTo steps
  | down steps => downTo (some steps)
  | reset => Migration.reset
  | refresh => Migration.refresh
  | status => Migration.status

end Task

end FundsLedger.Migration
