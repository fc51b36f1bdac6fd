import FundsLedger.Command.LogRule
import FundsLedger.Config.Environment

/-!
# Log filters

A filter tells how verbose the messages of each target may be. Of the rules that concern a message
the one with the longest target counts, of those with one target a rule that asks for a field, and
of rules that ask for the same the last.
-/

namespace FundsLedger

open Database (Level)
open Text

namespace Command

/-- The rules of a log, the later ones last. -/
structure LogFilter where
  rules : List LogRule
deriving DecidableEq, Repr

namespace LogFilter

/-- Reads a filter, in which commas part the rules. One bad rule makes the filter bad. -/
def ofText? (s : List Char) : Option LogFilter := do
  let rules ← ((pieces ',' s).filter (!·.isEmpty)).mapM readRule
  return ⟨rules.filterMap id⟩

/-- The filter that counts where no good one is given. -/
def standard : LogFilter where
  rules := [
    { target := [], verbosity := Level.info.verbosity },
    { target := "wallet_ledger".toList, verbosity := Level.debug.verbosity }]

def variableName : String := "RUST_LOG"

def ofEnvironment (env : Config.Environment) : LogFilter :=
  ((env.value? variableName).bind (ofText? ·.toList)).getD standard

/-- The one field that every message has: its text. -/
def messageField : List Char := "message".toList

def concerns (target : String) (rule : LogRule) : Bool :=
  rule.target.isPrefixOf target.toList && rule.field.all (· = messageField)

/-- Whether a rule is told more exactly than another: by a longer target, or else by a field. -/
def isFiner (rule other : LogRule) : Bool :=
  other.target.length < rule.target.length ||
    (rule.target.length = other.target.length && rule.field.isSome && other.field.isNone)

/-- The better of two rules for one message: the one that is told more exactly, or else the
later. -/
def better (earlier : Option LogRule) (rule : LogRule) : Option LogRule :=
  match earlier with
  | some e => if isFiner e rule then some e else some rule
  | none => some rule

def ruleFor (filter : LogFilter) (target : String) : Option LogRule :=
  (filter.rules.filter (concerns target)).foldl better none

def shows (filter : LogFilter) (target : String) (level : Level) : Bool :=
  (filter.ruleFor target).any (level.verbosity ≤ ·.verbosity)

end LogFilter

end Command

end FundsLedger
