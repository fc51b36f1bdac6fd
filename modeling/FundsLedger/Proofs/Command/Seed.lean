import FundsLedger.Command.Seed
import FundsLedger.Proofs.Command.Basic
import FundsLedger.Proofs.Command.CurrencyCode
import FundsLedger.Proofs.Migration.Failures
import FundsLedger.Proofs.Session.Outcomes

/-!
# Seeding, all or nothing

The command adds a user, a currency and rows in one transaction, and prints a line for every row.
What it adds is told here as a function of the random numbers. If it succeeds, all of that is stored
and printed; if a statement is rejected, wherever that is, nothing is stored. The main statement is
`seed_exact`.
-/

namespace FundsLedger

open Database (Mishap Note Program Response Statement)
open Database.Program (Fares)
open Time (Timestamp)

namespace Store

def postingsOf (d : Direction) (entries : List Entry) : List Posting :=
  (entries.filter (·.direction = d)).map (·.toPosting)

/-- The store with rows for some entries, each at the end of the table of its direction. -/
def withEntries (store : Store) (entries : List Entry) : Store :=
  { store with
    deposits := store.deposits.map fun t =>
      { t with rows := t.rows ++ postingsOf .deposit entries }
    withdrawals := store.withdrawals.map fun t =>
      { t with rows := t.rows ++ postingsOf .withdrawal entries } }

theorem withEntries_nil (store : Store) : store.withEntries [] = store := by
  rcases store with ⟨users, currencies, _ | deposits, _ | withdrawals, history, others, types,
    indexes⟩ <;> simp [withEntries, postingsOf]

theorem withEntries_cons {store : Store} {e : Entry} {table : Relation Posting}
    (here : store.ledger e.direction = some table) (entries : List Entry) :
    (store.setLedger e.direction (some (appendRow table e.toPosting))).withEntries entries =
      store.withEntries (e :: entries) := by
  cases h : e.direction with
  | deposit =>
    rw [h] at here
    have deposits : store.deposits = some table := here
    simp [withEntries, setLedger, postingsOf, appendRow, deposits, h]
  | withdrawal =>
    rw [h] at here
    have withdrawals : store.withdrawals = some table := here
    simp [withEntries, setLedger, postingsOf, appendRow, withdrawals, h]

theorem ledger_of_setLedger {store : Store} {d d' : Direction} {table after : Relation Posting}
    (here : store.ledger d = some table)
    (h : ∃ t, (store.setLedger d (some after)).ledger d' = some t) :
    ∃ t, store.ledger d' = some t := by
  by_cases same : d' = d
  · exact ⟨table, same ▸ here⟩
  · rwa [ledger_setLedger, if_neg same] at h

/-- A store after a user, a currency and rows for some entries were added to it. -/
structure Filled (before after : Store) (user : User) (currency : Currency) (entries : List Entry) :
    Prop where
  /-- The user and the currency are new, and nothing else is in the store but what was added. -/
  added : ∃ users currencies, before.users = some users ∧ before.currencies = some currencies ∧
    user.id ∉ users.rows.map User.id ∧ currency.id ∉ currencies.rows.map Currency.id ∧
    currency.code ∉ currencies.rows.map Currency.code ∧
    after = withEntries { before with
      users := some (appendRow users user)
      currencies := some (appendRow currencies currency) } entries
  /-- There is a table for every row. -/
  tables : ∀ e ∈ entries, ∃ table, before.ledger e.direction = some table

end Store

namespace Command.Seed

variable {random : Nat → Nat} {faults : Nat → Option Mishap} {time : Timestamp}

def drawnUser (random : Nat → Nat) (time : Timestamp) : User where
  id := .ofRandom (random 0)
  createdAt := time

def drawnCurrency (random : Nat → Nat) (time : Timestamp) : Currency where
  id := .ofRandom (random 1)
  code := currencyCode (.ofRandom (random 1))
  minorUnitDigits
  createdAt := time

/-- The entry that the random number at a place of the sequence draws. -/
def drawnEntry (random : Nat → Nat) (time : Timestamp) (place : Nat) : Entry where
  id := (Draw.ofNumber (random place)).id
  userId := (drawnUser random time).id
  currencyId := (drawnCurrency random time).id
  amount := (Draw.ofNumber (random place)).amount
  status := (Draw.ofNumber (random place)).status
  createdAt := time
  updatedAt := time
  direction := (Draw.ofNumber (random place)).direction

/-- The entries that random numbers draw, after the user and the currency. -/
def drawnEntries (random : Nat → Nat) (time : Timestamp) (rows : Nat) : List Entry :=
  (List.range' 2 rows).map (drawnEntry random time)

theorem length_drawnEntries (random : Nat → Nat) (time : Timestamp) (rows : Nat) :
    (drawnEntries random time rows).length = rows := by
  rw [drawnEntries, List.length_map, List.length_range']

theorem toInt_drawAmount (n : Nat) : 1 ≤ (drawAmount n).toInt ∧ (drawAmount n).toInt ≤ 99 := by
  have small : n % largestAmount < 99 := Nat.mod_lt _ (by decide)
  simp only [drawAmount]
  omega

theorem of_mem_drawnEntries {time : Timestamp} {rows : Nat} {e : Entry}
    (he : e ∈ drawnEntries random time rows) :
    e.userId = (drawnUser random time).id ∧ e.currencyId = (drawnCurrency random time).id ∧
      1 ≤ e.amount.toInt ∧ e.amount.toInt ≤ 99 := by
  obtain ⟨place, _, rfl⟩ := List.mem_map.mp he
  exact ⟨rfl, rfl, toInt_drawAmount _⟩

/-- Rows are recorded and printed one after the other, in the order in which they are drawn. -/
theorem fares_recordRows (s : Surroundings) (place rows : Nat) (start : Program.Standing) :
    Fares faults time (recordRows random (drawnUser random time) (drawnCurrency random time) place
        rows) start (fun _ now =>
      let entries := (List.range' place rows).map (drawnEntry random time)
      now.count = start.count + rows ∧ now.store = start.store.withEntries entries ∧
        (∀ e ∈ entries, ∃ table, start.store.ledger e.direction = some table) ∧
        now.notes.filterMap (seed random s).shown =
          start.notes.filterMap (seed random s).shown ++ entries.map rowLine)
      fun e => e.exitCode = 1 := by
  induction rows generalizing place start with
  | zero =>
    exact .done ⟨rfl, start.store.withEntries_nil.symm, fun _ he => absurd he List.not_mem_nil,
      (List.append_nil _).symm⟩
  | succ rows ih =>
    have positive : 0 < (Draw.ofNumber (random place)).amount.toInt :=
      Int.lt_of_lt_of_le (by decide) (toInt_drawAmount _).1
    rw [List.range'_succ, List.map_cons]
    refine ((Ledger.fares_record _ _ positive).mapError CommandError.ledger fun _ _ => rfl).bind
      fun entry now holds => ?_
    obtain ⟨rfl, message, table, here, _, rfl⟩ := holds
    refine .say _ ((ih (place + 1) _).mono fun _ last holds => ?_)
    obtain ⟨count, stored, tables, printed⟩ := holds
    refine ⟨by rw [count]; dsimp only; omega, ?_, fun e he => ?_, ?_⟩
    · rw [stored]
      exact @Store.withEntries_cons _ (drawnEntry random time place) _ here _
    · rcases List.mem_cons.mp he with rfl | he
      · exact ⟨table, here⟩
      · exact Store.ledger_of_setLedger here (tables e he)
    · rw [printed, List.filterMap_append, List.filterMap_append, List.append_assoc,
        List.append_assoc]
      rfl

/-- All that is drawn is stored, and the rows are printed below the header. -/
theorem fares_fill (s : Surroundings) (rows : Nat) (start : Program.Standing) :
    Fares faults time (fill random rows) start (fun owners now =>
      owners = (drawnUser random time, drawnCurrency random time) ∧
        now.count = start.count + (rows + 2) ∧
        start.store.Filled now.store (drawnUser random time) (drawnCurrency random time)
          (drawnEntries random time rows) ∧
        now.notes.filterMap (seed random s).shown =
          start.notes.filterMap (seed random s).shown ++
            header :: (drawnEntries random time rows).map rowLine)
      fun e => e.exitCode = 1 := by
  refine ((Ledger.fares_addUser _).mapError CommandError.database fun _ _ => rfl).bind
    fun user now holds => ?_
  obtain ⟨rfl, users, hasUsers, newUser, rfl⟩ := holds
  have fits : (currencyCode (.ofRandom (random 1))).length ≤ Store.codeLength := by
    rw [length_currencyCode]
    decide
  refine ((Ledger.fares_addCurrency _ fits _).mapError CommandError.database fun _ _ => rfl).bind
    fun currency now holds => ?_
  obtain ⟨rfl, currencies, hasCurrencies, newCurrency, newCode, rfl⟩ := holds
  refine .say _ ((fares_recordRows s 2 rows _).bind fun _ now holds => ?_)
  obtain ⟨count, stored, tables, printed⟩ := holds
  refine .done ⟨rfl, by rw [count]; dsimp only; omega, ⟨?_, tables⟩, ?_⟩
  · exact ⟨users, currencies, hasUsers, hasCurrencies, newUser, newCurrency, newCode, stored⟩
  · rw [printed, List.filterMap_append, List.append_assoc]
    rfl

/-- A seeding of a store where some statements may be rejected, as it ends. -/
def finished (store : Store) (clock : Int) (faults : Nat → Option Mishap) (random : Nat → Nat)
    (s : Surroundings) : Finished Session :=
  (seed random s).run (Session.connection { faults }) { store, clock }

def exchanges (store : Store) (clock : Int) (faults : Nat → Option Mishap) (random : Nat → Nat)
    (s : Surroundings) : List (Statement × Response) :=
  (seed random s).program.exchanges (Session.connection { faults }) { store, clock }

/-- The driver prints nothing. -/
theorem filterMap_shown_filter_isOwn (s : Surroundings) (notes : List Note) :
    (notes.filter Note.isOwn).filterMap (seed random s).shown =
      notes.filterMap (seed random s).shown := by
  induction notes with
  | nil => rfl
  | cons note rest ih =>
    cases note with
    | statement message => exact ih
    | log level message => exact ih
    | progress message => exact ih
    | line text => exact congrArg (text :: ·) ih

/-- A seeding ends before its first statement, unless it is ready and its rows are counted. -/
inductive Begins (random : Nat → Nat) (s : Surroundings) : Prop
  | early {e : CommandError} (program : (seed random s).program = .fail e)
      (unready : ¬((∃ rows, rowsOf? s.arguments = some rows) ∧ ∃ given, Ready s given))
      (code : e.exitCode = 1 ∨
        e.exitCode = 101 ∧ (∃ rows, rowsOf? s.arguments = some rows) ∧ Crashes s)
  | ready {rows : Nat} {given : Config.Settings} (asked : rowsOf? s.arguments = some rows)
      (ready : Ready s given)
      (program : (seed random s).program = (do
        let owners ← overConnection s given (fill random rows).inTransaction
        return some s!"✓ Seeded {rows} rows for user {owners.1.id} in {owners.2.code}"))

theorem begins (random : Nat → Nat) (s : Surroundings) : Begins random s := by
  cases asked : rowsOf? s.arguments with
  | none =>
    refine .early (e := .usage s!"Usage: {s.name} <AMOUNT>") ?_ (fun h => ?_) (.inl rfl)
    · unfold seed
      rw [asked]
    · obtain ⟨⟨rows, counted⟩, -⟩ := h
      cases asked.symm.trans counted
  | some rows =>
    have code {e : CommandError} (early : Early s e) : e.exitCode = 1 ∨
        e.exitCode = 101 ∧ (∃ rows, rowsOf? s.arguments = some rows) ∧ Crashes s :=
      early.imp And.left fun ⟨code, crashes⟩ => ⟨code, ⟨rows, asked⟩, crashes⟩
    have program : (seed random s).program = (do
        let given ← settings s
        connect s given
        let owners ← overConnection s given (fill random rows).inTransaction
        return some s!"✓ Seeded {rows} rows for user {owners.1.id} in {owners.2.code}") := by
      unfold seed
      rw [asked]
    cases prepared s with
    | @ready given ready =>
      refine .ready asked ready ?_
      rw [program, ready.settings, Program.done_bind, ready.connect, Program.done_bind]
    | unread unready early read =>
      refine .early ?_ (fun ⟨_, given, ready⟩ => unready given ready) (code early)
      rw [program, read]
      rfl
    | unconnected unready early read connected =>
      refine .early ?_ (fun ⟨_, given, ready⟩ => unready given ready) (code early)
      rw [program, read, Program.done_bind, connected]
      rfl

/-- How a seeding ends, given what it sent and heard. -/
inductive Ends (store : Store) (clock : Int) (faults : Nat → Option Mishap) (random : Nat → Nat)
    (s : Surroundings) (finished : Finished Session) (exchanges : List (Statement × Response)) :
    Prop
  /-- What is drawn is stored and shown, and no statement was rejected. -/
  | stored {rows count : Nat} {after : Store} {user : User} {currency : Currency}
      {entries : List Entry} (asked : rowsOf? s.arguments = some rows)
      (code : finished.exitCode = 0) (state : finished.state = { store := after, clock, count })
      (filled : store.Filled after user currency entries)
      (drawn : ∃ time, user = drawnUser random time ∧ currency = drawnCurrency random time ∧
        entries = drawnEntries random time rows)
      (output : finished.output = Command.lines (header :: entries.map rowLine))
      (errors : finished.errors =
        Command.lines [s!"✓ Seeded {rows} rows for user {user.id} in {currency.code}"])
      (answered : ∀ x ∈ exchanges, ∃ answer, x.2 = .ok answer)
      (unharmed : ∀ k, 1 ≤ k → k ≤ rows + 2 → faults k = none)
  /-- A statement is rejected, and nothing is stored. -/
  | rejected {count : Nat} {x : Statement} {f : Database.Failure} (code : finished.exitCode = 1)
      (state : finished.state = { store, clock, count }) (refused : (x, .error f) ∈ exchanges)
  /-- No statement can be sent. -/
  | early (state : finished.state = { store, clock })
      (unready : ¬((∃ rows, rowsOf? s.arguments = some rows) ∧ ∃ given, Ready s given))
      (code : finished.exitCode = 1 ∨
        finished.exitCode = 101 ∧ (∃ rows, rowsOf? s.arguments = some rows) ∧ Crashes s)
      (silent : exchanges = [])

theorem ends (store : Store) (clock : Int) (faults : Nat → Option Mishap) (random : Nat → Nat)
    (s : Surroundings) : Ends store clock faults random s (finished store clock faults random s)
      (exchanges store clock faults random s) := by
  unfold finished exchanges Command.run
  cases begins random s with
  | early program unready code =>
    rw [program]
    exact .early rfl unready code rfl
  | @ready rows given asked ready program =>
    let session : Session := { store, clock }
    have fares : Fares faults session.now (fill random rows) ⟨session.store, session.count, []⟩ _ _ :=
      fares_fill s rows _
    obtain ⟨notes, run, own, -⟩ := run_overConnection (Session.connection { faults }) session
      (fill random rows).inTransaction s given
    rw [program, Program.run_bind, Program.exchanges_bind, exchanges_overConnection, run]
    cases fares.inTransaction rfl with
    | @done owners now result state told answered unharmed holds =>
      obtain ⟨rfl, count, filled, printed⟩ := holds
      rw [result, state]
      refine .stored asked rfl rfl filled ⟨_, rfl, rfl, rfl⟩ ?_ rfl (fun x hx => ?_)
        fun k low high => unharmed k low ?_
      · rw [← told, ← filterMap_shown_filter_isOwn, ← own, filterMap_shown_filter_isOwn] at printed
        exact congrArg Command.lines ((congrArg _ (List.append_nil _)).trans printed)
      · exact (List.mem_append.mp hx).elim (answered x) fun none => by cases none
      · rw [count]
        exact Nat.le_trans high (Nat.le_add_left _ _)
    | undone result blamed state refused =>
      rw [result, state]
      exact .rejected blamed rfl (List.mem_append_left _ refused)

/-- A store and an output with the rows for some entries, and with a user and a currency that all of
them are for. -/
structure Stored (store after : Store) (user : User) (currency : Currency) (entries : List Entry)
    (rows : Nat) (finished : Finished Session) : Prop where
  filled : store.Filled after user currency entries
  length : entries.length = rows
  owners : ∀ e ∈ entries, e.userId = user.id ∧ e.currencyId = currency.id
  amounts : ∀ e ∈ entries, 1 ≤ e.amount.toInt ∧ e.amount.toInt ≤ 99
  output : finished.output = Command.lines ("direction,id,amount,status" ::
    entries.map fun e => s!"{e.direction.table},{e.id},{e.amount},{e.status}")
  errors : finished.errors =
    Command.lines [s!"✓ Seeded {rows} rows for user {user.id} in {currency.code}"]

/-- A seeding that is atomic and whose report is exact. -/
structure Exact (store : Store) (clock : Int) (faults : Nat → Option Mishap) (s : Surroundings)
    (finished : Finished Session) (exchanges : List (Statement × Response)) : Prop where
  /-- An exit code of zero means that all rows were added and shown. -/
  stored (succeeded : finished.exitCode = 0) : ∃ rows, rowsOf? s.arguments = some rows ∧
    ∃ after count, finished.state = { store := after, clock, count } ∧
      ∃ user currency entries, Stored store after user currency entries rows finished
  /-- Any other exit code means that nothing was added. -/
  undone (failed : finished.exitCode ≠ 0) : ∃ count, finished.state = { store, clock, count }
  /-- The code of a failure is one, unless the process is stopped before its first statement. -/
  code (failed : finished.exitCode ≠ 0) : finished.exitCode = 1 ∨
    finished.exitCode = 101 ∧ Crashes s ∧ exchanges = []
  /-- A statement that is rejected leads to a failure. -/
  rejected (refused : ∃ x f, (x, .error f) ∈ exchanges) : finished.exitCode = 1
  /-- It does so at each of the positions, unless there is no statement at all. -/
  position (rows k : Nat) (asked : rowsOf? s.arguments = some rows) (low : 1 ≤ k)
    (high : k ≤ rows + 2) (harmed : faults k ≠ none) (lives : ¬Crashes s) : finished.exitCode = 1
  /-- Without such a statement a seeding that can begin succeeds. -/
  succeeds (asked : ∃ rows, rowsOf? s.arguments = some rows) (ready : ∃ given, Ready s given)
    (accepted : ∀ x f, (x, .error f) ∉ exchanges) : finished.exitCode = 0

end Command.Seed

open Command.Seed in
/-- Seeding is atomic and its report is exact, for every store, all random numbers, and whatever
statement is rejected, be it from outside or by the store, as where the code of the currency is
taken. -/
theorem seed_exact (store : Store) (clock : Int) (faults : Nat → Option Mishap)
    (random : Nat → Nat) (s : Surroundings) :
    Exact store clock faults s (finished store clock faults random s)
      (exchanges store clock faults random s) := by
  cases ends store clock faults random s with
  | @stored rows count after user currency entries asked code state filled drawn output errors
      answered unharmed =>
    exact {
      stored := fun _ => by
        obtain ⟨time, rfl, rfl, rfl⟩ := drawn
        exact ⟨rows, asked, after, count, state, _, _, _, filled, length_drawnEntries ..,
          fun e he => (of_mem_drawnEntries he).imp_right And.left,
          fun e he => (of_mem_drawnEntries he).2.2, output, errors⟩
      undone := fun failed => absurd code failed
      code := fun failed => absurd code failed
      rejected := by
        rintro ⟨x, f, refused⟩
        obtain ⟨answer, accepted⟩ := answered _ refused
        cases accepted
      position := fun rows' k asked' low high harmed _ => by
        cases asked.symm.trans asked'
        exact absurd (unharmed k low high) harmed
      succeeds := fun _ _ _ => code }
  | @rejected count x f code state refused =>
    exact {
      stored := fun succeeded => by cases code.symm.trans succeeded
      undone := fun _ => ⟨count, state⟩
      code := fun _ => .inl code
      rejected := fun _ => code
      position := fun _ _ _ _ _ _ _ => code
      succeeds := fun _ _ accepted => absurd refused (accepted x f) }
  | early state unready code silent =>
    have failed : (finished store clock faults random s).exitCode ≠ 0 := by
      rcases code with code | ⟨code, -⟩ <;> rw [code] <;> decide
    exact {
      stored := fun succeeded => absurd succeeded failed
      undone := fun _ => ⟨0, state⟩
      code := fun _ => code.imp_right fun ⟨code, _, crashes⟩ => ⟨code, crashes, silent⟩
      rejected := by
        rintro ⟨x, f, refused⟩
        rw [silent] at refused
        cases refused
      position := fun _ _ _ _ _ _ lives => code.resolve_right fun ⟨_, _, crashes⟩ => lives crashes
      succeeds := fun asked ready _ => absurd ⟨asked, ready⟩ unready }

def Command.Seed.call : Surroundings where
  name := "seed_ledger"
  arguments := ["2"]
  environment := ⟨[("DATABASE_URL", some "postgres://localhost/wallet")]⟩

open Command.Seed in
/-- A seeding with two rows adds both, or neither if the second is rejected. -/
theorem seed_exact_two :
    let full : Mishap := fun channel => .server channel "53100" "disk full"
    (finished .provided 0 (fun _ => none) id call).exitCode = 0 ∧
      ((finished .provided 0 (fun _ => none) id call).state.store.postings .deposit).length = 2 ∧
      (finished .provided 0 (Store.rejecting 4 full) id call).exitCode = 1 ∧
      (finished .provided 0 (Store.rejecting 4 full) id call).state.store = .provided := by
  intro full
  have ready : Command.Ready call ⟨"postgres://localhost/wallet", 10, 8, false⟩ :=
    ⟨by decide +kernel, by decide +kernel⟩
  have asked : rowsOf? call.arguments = some 2 := by decide +kernel
  have lives : ¬Command.Crashes call := by
    rintro (stopped | ⟨given, accepted, crashed⟩)
    · cases stopped.symm.trans ready.accepted
    · cases accepted.symm.trans ready.accepted
      cases crashed.symm.trans ready.opened
  have accepted : ∀ s f, (s, .error f) ∉ exchanges .provided 0 (fun _ => none) id call := by
    have all : (exchanges .provided 0 (fun _ => none) id call).all (·.2.toBool) = true := by
      decide +kernel
    intro s f hx
    cases List.all_eq_true.mp all _ hx
  have whole := seed_exact .provided 0 (fun _ => none) id call
  have cut := seed_exact .provided 0 (Store.rejecting 4 full) id call
  have failed := cut.position 2 4 asked (by decide) (by decide) (by simp [Store.rejecting]) lives
  obtain ⟨count, state⟩ := cut.undone (by rw [failed]; decide)
  exact ⟨whole.succeeds ⟨2, asked⟩ ⟨_, ready⟩ accepted, by decide +kernel, failed, by rw [state]⟩

end FundsLedger
