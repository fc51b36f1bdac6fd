import FundsLedger.Main
import FundsLedger.Database.Script
import FundsLedger.Database.Sql
import FundsLedger.Wire.Schema
import FundsLedger.Text.Pattern
import FundsLedger.Proofs.Database.Program
import FundsLedger.Proofs.Store.Statements
import FundsLedger.Proofs.Ledger.Requests
import FundsLedger.Proofs.Traffic.Basic
import FundsLedger.Proofs.Traffic.Lifecycle
import FundsLedger.Proofs.Traffic.Invariant
import FundsLedger.Proofs.Traffic.Winners
import FundsLedger.Proofs.Ledger.Runs
import FundsLedger.Proofs.Session.Rejections
import FundsLedger.Proofs.Traffic.Serial
import FundsLedger.Proofs.Traffic.Steps
import FundsLedger.Proofs.Database.Wording
import FundsLedger.Proofs.Ledger.Guard
import FundsLedger.Proofs.Database.Failures
import FundsLedger.Proofs.Session.Transactions
import FundsLedger.Proofs.Migration.Failures
import FundsLedger.Proofs.Session.Success
import FundsLedger.Proofs.Migration.Effects
import FundsLedger.Proofs.Migration.Levels
import FundsLedger.Store.Draft
import FundsLedger.Proofs.Ledger.Returns
import FundsLedger.Proofs.Store.Validity
import FundsLedger.Proofs.Traffic.Additions
import FundsLedger.Proofs.Migration.Schema
import FundsLedger.Proofs.Migration.Rollback
import FundsLedger.Proofs.Session.Outcomes
import FundsLedger.Proofs.Command.Seed
import FundsLedger.Proofs.Wire.RoundTrip
import FundsLedger.Proofs.Wire.Amount
import FundsLedger.Proofs.Session.Recording
import FundsLedger.Proofs.Traffic.Turns
import FundsLedger.Proofs.Traffic.Course
import FundsLedger.Proofs.Traffic.Reports
import FundsLedger.Proofs.Traffic.Listing
import FundsLedger.Proofs.Store.Agreement
import FundsLedger.Proofs.Traffic.Independence
import FundsLedger.Proofs.Traffic.Times
import FundsLedger.Proofs.Ledger.Failures
import FundsLedger.Proofs.Config.Settings
import FundsLedger.Proofs.Config.Environment
import FundsLedger.Proofs.Command.CurrencyCode
import FundsLedger.Proofs.Session.Cuts
import FundsLedger.Proofs.Migration.InStep
import FundsLedger.Proofs.Command.Setup
