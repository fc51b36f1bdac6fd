import FundsLedger.Proofs.Command.Setup.Runs

/-!
# What setting up says

The command says that the schema is up to date only if it is, at every store that migration tasks,
earlier runs of the command and the use of the ledger lead to, and whatever statement is rejected. The
main statement is `setup_truthful`.
-/

namespace FundsLedger

open Config (Settings)
open Database (Failure Mishap Note Response Statement Table)
open Migration (Task all)

namespace Command.Setup

def printed (store : Store) (clock : Int) (faults : Nat → Option Mishap) (s : Surroundings) :
    List String :=
  shown s (notes store clock faults s)

/-- The lines of a run that are the command's own, and not the driver's. -/
def ownLines (store : Store) (clock : Int) (faults : Nat → Option Mishap) (s : Surroundings) :
    List String :=
  shown s (said store clock faults s)

/-- A run that has set up the database and says so. -/
structure Complete (ended : Finished Session) (clock : Int) (told : List String) : Prop where
  code : ended.exitCode = 0
  /-- Every migration is recorded, and every table is there. -/
  schema : ∃ after count, ended.state = { store := after, clock, count } ∧
    after.versions = all.map Migration.name ∧ ∀ t : Table, after.hasTable t = true
  /-- Every migration is listed as applied once and in order, right before the last line. -/
  lines : ∃ before, told = before ++
      ((all.map fun m => ledgerLine s!"Applied migration {m.name}") ++
        [ledgerLine "Ledger schema is up to date"]) ∧
    ∀ line ∈ before, line ≠ ledgerLine "Ledger schema is up to date" ∧
      ∀ name : String, line ≠ ledgerLine s!"Applied migration {name}"

/-- A run whose statement number `i` is rejected. -/
structure Failed (store : Store) (clock : Int) (faults : Nat → Option Mishap) (s : Surroundings)
    (given : Settings) (i : Nat) : Prop where
  code : (finished store clock faults s).exitCode = 1
  untold : ledgerLine "Ledger schema is up to date" ∉ printed store clock faults s
  /-- It says less than it does without faults, but nothing else. -/
  less : ∃ rest, rest ≠ [] ∧
    ownLines store clock (fun _ => none) s = ownLines store clock faults s ++ rest
  /-- Where the driver is not asked to speak, so does the output. -/
  shorter (quiet : given.sqlLogging = false) : ∃ rest, rest ≠ "" ∧
    (finished store clock (fun _ => none) s).output = (finished store clock faults s).output ++ rest
  /-- The store is as it was if the statement was part of the migrations. -/
  early (h : i < migrating store clock) :
    ∃ count, (finished store clock faults s).state = { store, clock, count }
  /-- It is as it is without faults if the statement was not. -/
  late (h : migrating store clock ≤ i) : ∃ count, (finished store clock faults s).state =
    { store := (finished store clock (fun _ => none) s).state.store, clock, count }

/-- A run that never claims falsely that the schema is up to date. -/
structure Truthful (store : Store) (clock : Int) (faults : Nat → Option Mishap) (s : Surroundings)
    (given : Settings) : Prop where
  output : (finished store clock faults s).output = lines (printed store clock faults s)
  quiet (h : given.sqlLogging = false) : printed store clock faults s = ownLines store clock faults s
  /-- Without faults no statement is rejected. -/
  clean (x : Statement) (f : Failure) : (x, .error f) ∉ exchanges store clock (fun _ => none) s
  complete (accepted : ∀ x f, (x, .error f) ∉ exchanges store clock faults s) :
    Complete (finished store clock faults s) clock (printed store clock faults s)
  failed (i : Nat) (x : Statement) (f : Failure)
    (rejected : (exchanges store clock faults s)[i]? = some (x, .error f)) :
    Failed store clock faults s given i
  /-- Any of the statements can be rejected. -/
  reaches (i : Nat) (x : Statement) (r : Response) (m : Mishap)
    (sent : (exchanges store clock (fun _ => none) s)[i]? = some (x, r))
    (before : ∀ k ≤ i, faults k = none) (fault : faults (i + 1) = some m) :
    (exchanges store clock faults s)[i]? = some (x, .error (m x.channel))
  /-- After a run that ended well no run changes the store any more. -/
  stays (h : (finished store clock faults s).exitCode = 0) (clock' : Int)
    (faults' : Nat → Option Mishap) (s' : Surroundings) :
    (finished (finished store clock faults s).state.store clock' faults' s').state.store =
      (finished store clock faults s).state.store

variable {store after : Store} {clock : Int} {faults : Nat → Option Mishap} {s : Surroundings}
  {given : Settings}

/-- The only statement that is rejected is the last one. -/
theorem eq_of_rejected {clean : List (Statement × Response)} {n i : Nat} {x x' : Statement}
    {f f' : Failure} (here : n < clean.length) (unrejected : ∀ x f, (x, .error f) ∉ clean)
    (rejected : (clean.take n ++ [(x', .error f')])[i]? = some (x, .error f)) : i = n := by
  have long : (clean.take n).length = n := List.length_take_of_le (Nat.le_of_lt here)
  rcases Nat.lt_trichotomy i n with earlier | same | later
  · rw [List.getElem?_append_left (by rw [long]; exact earlier)] at rejected
    exact absurd (List.mem_of_mem_take (List.mem_of_getElem? rejected)) (unrejected x f)
  · exact same
  · rw [List.getElem?_append_right (by rw [long]; exact Nat.le_of_lt later), long,
      List.getElem?_eq_none (by simp; omega)] at rejected
    cases rejected

namespace Settles

/-- Without faults no statement is rejected. -/
theorem unrejected (h : Settles store after clock) (ready : Ready s given) (x : Statement)
    (f : Failure) : (x, .error f) ∉ exchanges store clock (fun _ => none) s := by
  have stops : Database.Program.Stops Migration.manner id _ Migration.applied :=
    Migration.stops_applied trivial trivial
  obtain ⟨n, _, _, up⟩ := h.up
  obtain ⟨_, _, read⟩ := h.read n
  rw [h.exchanges_clean ready up]
  intro rejected
  rcases List.mem_append.mp rejected with rejected | rejected
  · have failed := Store.result_perform_of_rejected (by decide) rejected
    rw [up] at failed
    cases failed
  · have failed := stops.result_eq _ _ rejected
    rw [read] at failed
    cases failed

/-- Whatever is rejected, and whether or not there is anything to be sent, the store is left as it was
or as it is without faults. -/
theorem left (h : Settles store after clock) (faults : Nat → Option Mishap) (s : Surroundings) :
    (finished store clock faults s).state.store = store ∨
      (finished store clock faults s).state.store = after := by
  by_cases ready : ∃ given, Ready s given
  · obtain ⟨given, ready⟩ := ready
    cases h.ends ready faults with
    | whole _ _ state _ =>
      rw [state]
      exact .inr rfl
    | cut _ _ _ _ _ _ state phase =>
      rw [state]
      exact phase.imp And.right And.right
  · left
    rw [(idle_of_not_ready fun given h => ready ⟨given, h⟩).2]

theorem complete (h : Settles store after clock) (ready : Ready s given)
    (filter : LogFilter.ofEnvironment s.environment = .standard)
    (accepted : ∀ x f, (x, .error f) ∉ exchanges store clock faults s) :
    Complete (finished store clock faults s) clock (printed store clock faults s) := by
  cases h.ends ready faults with
  | whole code told state _ =>
    obtain ⟨before, own, noted⟩ := told
    refine ⟨code, ⟨after, _, state, h.last.versions, h.last.hasTable⟩, shown s before, ?_,
      fun line shows => before_ne filter own shows⟩
    rw [printed, noted, shown_append, shown_closing filter]
  | @cut _ _ x _ _ f _ _ heard =>
    have refused : (x, .error f) ∈ exchanges store clock faults s := by
      rw [heard]
      exact List.mem_append_right _ List.mem_cons_self
    exact absurd refused (accepted x f)

theorem failed (h : Settles store after clock) (ready : Ready s given)
    (filter : LogFilter.ofEnvironment s.environment = .standard) {i : Nat} {x : Statement}
    {f : Failure} (refused : (exchanges store clock faults s)[i]? = some (x, .error f)) :
    Failed store clock faults s given i := by
  obtain ⟨_, _, noted, wholeState⟩ := h.clean ready
  cases h.ends ready faults with
  | whole _ _ _ heard =>
    rw [heard] at refused
    exact absurd (List.mem_of_getElem? refused) (h.unrejected ready x f)
  | @cut n count x' r left f' rest sent heard code begun state phase =>
    rw [heard] at refused
    have here := eq_of_rejected (List.getElem?_eq_some_iff.mp sent).1 (h.unrejected ready) refused
    subst here
    rw [begun, List.append_assoc] at noted
    have more : shown s (rest ++ closing) ≠ [] := by
      rw [shown_append, shown_closing filter]
      simp
    have less : ownLines store clock (fun _ => none) s =
        ownLines store clock faults s ++ shown s (rest ++ closing) := by
      rw [ownLines, noted, shown_append]
      rfl
    exact {
      code
      untold := fun told => by
        have before : ledgerLine "Ledger schema is up to date" ∈ shown s (opening store clock) := by
          rw [begun, shown_append]
          exact List.mem_append_left _ (ledgerLine_mem_shown_filter filter told)
        exact (opening_ne filter before).1 rfl
      less := ⟨_, more, less⟩
      shorter := fun quiet => by
        refine ⟨_, lines_ne more, ?_⟩
        rw [output_finished, output_finished, ← said_eq_notes ready quiet,
          ← said_eq_notes ready quiet, ← lines_append]
        exact congrArg lines less
      early := fun early => by
        rcases phase with ⟨_, rfl⟩ | ⟨late, _⟩
        · exact ⟨count, state⟩
        · exact absurd early (Nat.not_lt_of_le late)
      late := fun late => by
        rcases phase with ⟨early, _⟩ | ⟨_, rfl⟩
        · exact absurd early (Nat.not_lt_of_le late)
        · exact ⟨count, by rw [state, wholeState]⟩ }

/-- A run that ends well leaves what it leaves without faults, and after that no run changes
anything. -/
theorem stays (h : Settles store after clock) (ready : Ready s given)
    (code : (finished store clock faults s).exitCode = 0) (clock' : Int)
    (faults' : Nat → Option Mishap) (s' : Surroundings) :
    (finished (finished store clock faults s).state.store clock' faults' s').state.store =
      (finished store clock faults s).state.store := by
  cases h.ends ready faults with
  | cut _ _ _ _ failed _ _ _ =>
    rw [failed] at code
    cases code
  | whole _ _ state _ =>
    rw [state]
    rcases (h.again clock').left faults' s' with left | left <;> exact left

end Settles

end Command.Setup

/-- Something that is done with a store. -/
inductive Deed where
  /-- A migration task, where some statements may be rejected. -/
  | task (task : Task) (clock : Int) (faults : Nat → Option Mishap)
  /-- A run of the command that sets up the database, likewise. -/
  | setup (s : Surroundings) (clock : Int) (faults : Nat → Option Mishap)
  /-- The ledger is used, and others add rows. -/
  | use (happenings : List Happening)

namespace Store

def did (store : Store) : Deed → Store
  | .task task clock faults => (store.perform clock faults task).state.store
  | .setup s clock faults => (Command.Setup.finished store clock faults s).state.store
  | .use happenings => (store.busy happenings).store

def after (store : Store) (deeds : List Deed) : Store :=
  deeds.foldl did store

theorem InStep.did {store : Store} {k : Nat} (h : store.InStep k) (deed : Deed) :
    ∃ k, (store.did deed).InStep k := by
  cases deed with
  | task task clock faults => exact h.perform task clock faults
  | use happenings => exact ⟨k, h.busy happenings⟩
  | setup s clock faults =>
    obtain ⟨after, settles⟩ := Command.Setup.exists_settles h clock
    rcases settles.left faults s with same | moved
    · exact ⟨k, by rw [Store.did, same]; exact h⟩
    · exact ⟨2, by rw [Store.did, moved]; exact settles.last⟩

/-- Whatever is done with a store that had nothing of the migrations, schema and record stay in
step. -/
theorem Untouched.exists_inStep {base : Store} (clean : base.Untouched) (deeds : List Deed) :
    ∃ k, (base.after deeds).InStep k := by
  have run : ∀ (store : Store) (k : Nat), store.InStep k → ∃ k, (store.after deeds).InStep k := by
    induction deeds with
    | nil => exact fun _ k h => ⟨k, h⟩
    | cons deed rest ih =>
      intro store k h
      obtain ⟨k', next⟩ := h.did deed
      exact ih _ k' next
  exact run base 0 clean.inStep

end Store

open Command.Setup in
/-- Setting up never claims falsely that the schema is up to date. It is run at a store that was
without anything of the migrations, after any migration tasks, runs of the same command and uses of
the ledger, whatever of that failed. All that is needed before the first statement is there, and the
log is filtered as by default. -/
theorem setup_truthful (base : Store) (clean : base.Untouched) (deeds : List Deed)
    (s : Surroundings) (given : Settings) (ready : Command.Ready s given)
    (filter : Command.LogFilter.ofEnvironment s.environment = .standard) (clock : Int)
    (faults : Nat → Option Mishap) : Truthful (base.after deeds) clock faults s given := by
  obtain ⟨k, level⟩ := clean.exists_inStep deeds
  obtain ⟨after, settles⟩ := exists_settles level clock
  exact {
    output := output_finished
    quiet := fun quiet => congrArg (shown s) (said_eq_notes ready quiet).symm
    clean := settles.unrejected ready
    complete := settles.complete ready filter
    failed := fun _ _ _ => settles.failed ready filter
    reaches := fun i x r m sent before fault =>
      Session.exchanges_of_fault _ _ sent (fun k hk => before k (by simpa using hk))
        (by simpa using fault)
    stays := settles.stays ready }

namespace Command.Setup

def call : Surroundings where
  name := "wallet-ledger"
  arguments := []
  environment := ⟨[("DATABASE_URL", some "postgres://localhost/wallet")]⟩

def full : Mishap := fun channel => .server channel "53100" "disk full"

/-- The first migration is applied, the second one fails, and a user is added. -/
def deeds : List Deed :=
  [.task (.up (some 1)) 1 (fun _ => none), .task (.up none) 2 (Store.rejecting 9 full),
    .use [.addition (.user .nil) (.ofUnixSeconds 3) .answered]]

end Command.Setup

open Command.Setup in
/-- The second migration is applied by the command, or it is not, and then the command fails. -/
theorem setup_truthful_half_applied :
    let store := Store.blank.after deeds
    store.versions = ["m20250301_000001_create_users_and_currencies"] ∧
      (finished store 4 (fun _ => none) call).exitCode = 0 ∧
      (finished store 4 (Store.rejecting 1 full) call).exitCode = 1 ∧
      ∃ count, (finished store 4 (Store.rejecting 1 full) call).state =
        { store, clock := 4, count } := by
  intro store
  have ready : Command.Ready call ⟨"postgres://localhost/wallet", 10, 8, false⟩ :=
    ⟨by decide +kernel, by decide +kernel⟩
  have filter : Command.LogFilter.ofEnvironment call.environment = .standard := by decide
  have whole := setup_truthful .blank Store.untouched_blank deeds call _ ready filter 4 fun _ => none
  have cut := setup_truthful .blank Store.untouched_blank deeds call _ ready filter 4
    (Store.rejecting 1 full)
  have sent (store : Store) : (exchanges store 4 (fun _ => none) call)[0]? =
      some (.createHistory, .ok (.affected 0)) := by
    rw [exchanges, exchanges_program ready]
    rfl
  have refused := cut.reaches 0 _ _ full (sent store) (fun k hk => if_neg (by omega)) (if_pos rfl)
  have failed := cut.failed 0 _ _ refused
  have early : 0 < migrating store 4 := by decide +kernel
  exact ⟨by decide +kernel, (whole.complete whole.clean).code, failed.code, failed.early early⟩

namespace Command.Setup

/-- The command is called with settings that are accepted, and no time is left for connecting. -/
def hasty : Surroundings where
  name := "wallet-ledger"
  arguments := []
  environment := ⟨[("DATABASE_URL", some "postgres://localhost/wallet"),
    ("DB_CONNECT_TIMEOUT_SECS", some "0")]⟩

/-- The driver is asked to tell how long statements take, and those that fail take longer. -/
def talking : Surroundings where
  name := "wallet-ledger"
  arguments := []
  environment := ⟨[("DATABASE_URL", some "postgres://localhost/wallet"),
    ("DB_SQL_LOGGING", some "true")]⟩
  messages
    | _, .statement _ (.ok _) => ["elapsed=1ms"]
    | _, .statement _ (.error _) => ["elapsed=9ms"]
    | _, .bound _ => []

/-- The lines of its run until the driver has spoken, where the statement took some milliseconds. -/
def firstLines (milliseconds : Nat) : List String :=
  ["INFO wallet_ledger: Connecting to database...", "INFO wallet_ledger: Running migrations...",
    s!"INFO sqlx::query: elapsed={milliseconds}ms"]

end Command.Setup

open Command.Setup in
/-- That the settings are accepted and that the server greets is not enough: there may be no pool, and
then a run without any failure of a statement does not end well. And where the driver is asked to
speak, the output of a run that fails need not be a part of the output of the run that does not. -/
theorem setup_needs_pool :
    (Settings.load hasty.environment hasty.file =
        some (.ok ⟨"postgres://localhost/wallet", 10, 0, false⟩) ∧
      hasty.greeting = .ok () ∧
      Command.LogFilter.ofEnvironment hasty.environment = .standard ∧
      exchanges .blank 1 (fun _ => none) hasty = [] ∧
      (finished .blank 1 (fun _ => none) hasty).exitCode = 1) ∧
    Command.Ready talking ⟨"postgres://localhost/wallet", 10, 8, true⟩ ∧
      Command.LogFilter.ofEnvironment talking.environment = .standard ∧
      (∃ x f, (exchanges .blank 1 (Store.rejecting 1 full) talking)[0]? = some (x, .error f)) ∧
      ¬∃ rest, (finished .blank 1 (fun _ => none) talking).output =
        (finished .blank 1 (Store.rejecting 1 full) talking).output ++ rest := by
  have accepted : Settings.load hasty.environment hasty.file =
      some (.ok ⟨"postgres://localhost/wallet", 10, 0, false⟩) := by decide +kernel
  have ready : Command.Ready talking ⟨"postgres://localhost/wallet", 10, 8, true⟩ :=
    ⟨by decide +kernel, by decide +kernel⟩
  refine ⟨⟨accepted, rfl, by decide, ?unsent, by decide +kernel⟩, ready, by decide, ?rejected,
    ?longer⟩
  case unsent =>
    refine (idle_of_not_ready ?_).1
    rintro given ⟨accepted', opened⟩
    cases accepted.symm.trans accepted'
    exact absurd opened (by decide)
  case rejected =>
    refine ⟨.createHistory, full .execution, ?_⟩
    rw [exchanges, exchanges_program ready]
    rfl
  case longer =>
    rintro ⟨rest, output⟩
    have slow : (finished .blank 1 (Store.rejecting 1 full) talking).output =
        Command.lines (firstLines 9) := by decide +kernel
    have quick : (printed .blank 1 (fun _ => none) talking).take 3 = firstLines 1 := by
      decide +kernel
    -- Evaluating the whole output is too much; the two differ in their third line.
    have whole : (finished .blank 1 (fun _ => none) talking).output =
        Command.lines (firstLines 1) ++
          Command.lines ((printed .blank 1 (fun _ => none) talking).drop 3) := by
      rw [output_finished, ← lines_append, ← quick, List.take_append_drop]
      rfl
    rw [whole, slow] at output
    exact append_ne 114 (by decide +kernel) (by decide +kernel) (by decide +kernel) _ _ output

end FundsLedger
