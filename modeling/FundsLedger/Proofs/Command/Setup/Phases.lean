import FundsLedger.Proofs.Command.Basic
import FundsLedger.Proofs.Command.Setup.Output

/-!
# The phases of setting up

Once connected, a run applies what is pending in one transaction, then reads the record, and then
lists what is applied. A run is put together here from those of its phases: what it sends, what it
says and how it ends.
-/

namespace FundsLedger

open Config (Settings)
open Database (Connection Failure Note Outcome Passage Program Sent)
open Migration (all)

namespace Command.Setup

variable {σ : Type} {c : Connection σ} {state middle final : σ} {s : Surroundings}
  {given : Settings} {e : Failure} {ms : List Migration} {sent sent' : List Sent}
  {notes notes' : List Note}

theorem run_listApplied (ms : List Migration) :
    (listApplied ms).run c state = ⟨.ok (), state, [], ms.map listed⟩ := by
  induction ms with
  | nil => rfl
  | cons m rest ih =>
    change (Program.say (listed m) (listApplied rest)).run c state = _
    rw [Program.run, ih]
    rfl

theorem exchanges_listApplied (ms : List Migration) : (listApplied ms).exchanges c state = [] := by
  induction ms with
  | nil => rfl
  | cons m rest ih => exact ih

/-- Nothing is sent to say that the migrations are there. -/
theorem run_closing (ms : List Migration) :
    (listApplied ms >>= fun _ => Program.log .info "Ledger schema is up to date").run c state =
        ⟨.ok (), state, [], ms.map listed ++ [.log .info "Ledger schema is up to date"]⟩ ∧
      (listApplied ms >>= fun _ => Program.log .info "Ledger schema is up to date").exchanges c
        state = [] := by
  rw [Program.run_bind, Program.exchanges_bind, run_listApplied, exchanges_listApplied]
  exact ⟨rfl, rfl⟩

/-- There is nothing for the driver to tell of in that. -/
theorem overheard_closing (messages : Nat → Passage → List String) (n : Nat)
    (ms : List Migration) :
    (listApplied ms >>= fun _ => Program.log .info "Ledger schema is up to date").overheard
        messages n =
      listApplied ms >>= fun _ => Program.log .info "Ledger schema is up to date" := by
  induction ms with
  | nil => rfl
  | cons m rest ih => exact congrArg (Program.say (listed m)) ih

def listing : Program CommandError Unit := do
  listApplied (← Migration.applied.mapError .database)
  Program.log .info "Ledger schema is up to date"

/-- What is done once connected, but for the first message. -/
def work : Program CommandError Unit :=
  (Migration.upTo none).mapError .database >>= fun _ => listing

/-! ### Around the work -/

/-- What is done where everything that is needed before the first statement is there. -/
theorem program_of_ready (ready : Ready s given) : (setup s).program =
    .say (.log .info "Connecting to database...")
      ((fun _ => none) <$>
        overConnection s given (.say (.log .info "Running migrations...") work)) := by
  unfold setup
  dsimp only
  rw [ready.settings, Program.done_bind]
  change Program.say _ (Command.connect s given >>= _) = _
  rw [ready.connect, Program.done_bind]
  rfl

/-- Where something that is needed is missing, nothing is sent. -/
theorem program_of_not_ready (unready : ∀ given, ¬Ready s given) :
    ∃ e, (setup s).program = .fail e ∨
      (setup s).program = .say (.log .info "Connecting to database...") (.fail e) := by
  unfold setup
  cases prepared s with
  | ready h => exact absurd h (unready _)
  | unread _ _ read =>
    rw [read]
    exact ⟨_, .inl rfl⟩
  | @unconnected given e _ _ read connected =>
    refine ⟨e, .inr ?_⟩
    rw [read, Program.done_bind]
    change Program.say _ (Command.connect s given >>= _) = _
    rw [connected]
    rfl

theorem exchanges_program (ready : Ready s given) :
    (setup s).program.exchanges c state = work.exchanges c state := by
  rw [program_of_ready ready, Program.exchanges, Program.exchanges_map, exchanges_overConnection]
  rfl

/-! ### Within the work -/

section Steps

variable {ε ε' α β : Type} {p : Program ε α} {g : ε → ε'} {f : α → Program ε' β}

/-- A program whose errors are renamed fails, and nothing follows. -/
theorem run_of_first_error {e : ε} (first : p.run c state = ⟨.error e, final, sent, notes⟩) :
    (p.mapError g >>= f).run c state = ⟨.error (g e), final, sent, notes⟩ ∧
      (p.mapError g >>= f).exchanges c state = p.exchanges c state := by
  rw [Program.run_bind, Program.exchanges_bind, Program.exchanges_mapError, Program.run_mapError,
    first]
  exact ⟨rfl, List.append_nil _⟩

/-- A program whose errors are renamed succeeds, and another one follows. -/
theorem run_of_first {a : α} {result : Except ε' β}
    (first : p.run c state = ⟨.ok a, middle, sent, notes⟩)
    (rest : (f a).run c middle = ⟨result, final, sent', notes'⟩) :
    (p.mapError g >>= f).run c state = ⟨result, final, sent ++ sent', notes ++ notes'⟩ ∧
      (p.mapError g >>= f).exchanges c state =
        p.exchanges c state ++ (f a).exchanges c middle := by
  rw [Program.run_bind, Program.exchanges_bind, Program.exchanges_mapError, Program.run_mapError,
    first]
  dsimp only [Except.mapError]
  rw [rest]
  exact ⟨rfl, rfl⟩

end Steps

/-- A run in which a migration is not applied. -/
theorem run_of_up_error (up : (Migration.upTo none).run c state = ⟨.error e, final, sent, notes⟩) :
    work.run c state = ⟨.error (.database e), final, sent, notes⟩ ∧
      work.exchanges c state = (Migration.upTo none).exchanges c state :=
  run_of_first_error up

/-- A run in which the migrations are applied, but cannot be listed. -/
theorem run_of_read_error (up : (Migration.upTo none).run c state = ⟨.ok (), middle, sent, notes⟩)
    (read : Migration.applied.run c middle = ⟨.error e, final, sent', notes'⟩) :
    work.run c state = ⟨.error (.database e), final, sent ++ sent', notes ++ notes'⟩ ∧
      work.exchanges c state = (Migration.upTo none).exchanges c state ++
        Migration.applied.exchanges c middle := by
  have told : listing.run c middle = ⟨.error (.database e), final, sent', notes'⟩ ∧
      listing.exchanges c middle = Migration.applied.exchanges c middle := run_of_first_error read
  have whole : work.run c state = ⟨.error (.database e), final, sent ++ sent', notes ++ notes'⟩ ∧
      work.exchanges c state = (Migration.upTo none).exchanges c state ++
        listing.exchanges c middle := run_of_first up told.1
  exact ⟨whole.1, whole.2.trans (congrArg (_ ++ ·) told.2)⟩

/-- A run to the end. -/
theorem run_of_read (up : (Migration.upTo none).run c state = ⟨.ok (), middle, sent, notes⟩)
    (read : Migration.applied.run c middle = ⟨.ok ms, final, sent', notes'⟩) :
    work.run c state = ⟨.ok (), final, sent ++ sent', notes ++ (notes' ++
        (ms.map listed ++ [.log .info "Ledger schema is up to date"]))⟩ ∧
      work.exchanges c state = (Migration.upTo none).exchanges c state ++
        Migration.applied.exchanges c middle := by
  have told : listing.run c middle = ⟨.ok (), final, sent' ++ [],
        notes' ++ (ms.map listed ++ [.log .info "Ledger schema is up to date"])⟩ ∧
      listing.exchanges c middle = Migration.applied.exchanges c middle ++ _ :=
    run_of_first read (run_closing ms).1
  rw [(run_closing ms).2, List.append_nil, List.append_nil] at told
  have whole : work.run c state = ⟨.ok (), final, sent ++ sent', _⟩ ∧
      work.exchanges c state = (Migration.upTo none).exchanges c state ++
        listing.exchanges c middle := run_of_first up told.1
  exact ⟨whole.1, whole.2.trans (congrArg (_ ++ ·) told.2)⟩

/-- The work says nothing but what is the command's own. -/
theorem filter_isOwn_work (c : Connection σ) (state : σ) :
    (work.run c state).notes.filter Note.isOwn = (work.run c state).notes := by
  have stops : Program.Stops Migration.manner id _ Migration.applied :=
    Migration.stops_applied trivial trivial
  rcases up : (Migration.upTo none).run c state with ⟨result, middle, sent, told⟩
  have migrating : told.filter Note.isOwn = told := by
    have progress := Migration.notes_upTo c state none
    rw [up] at progress
    exact isOwn_of_isProgress progress
  cases result with
  | error e =>
    rw [(run_of_up_error up).1]
    exact migrating
  | ok _ =>
    rcases read : Migration.applied.run c middle with ⟨result, final, sent', told'⟩
    have reading : told'.filter Note.isOwn = told' := by
      have progress := stops.notes c middle
      rw [read] at progress
      exact isOwn_of_isProgress progress
    cases result with
    | error e =>
      rw [(run_of_read_error up read).1, List.filter_append, migrating, reading]
    | ok ms =>
      have listing : (ms.map listed).filter Note.isOwn = ms.map listed :=
        List.filter_eq_self.mpr fun note hn => by
          obtain ⟨m, _, rfl⟩ := List.mem_map.mp hn
          rfl
      rw [(run_of_read up read).1, List.filter_append, List.filter_append, List.filter_append,
        migrating, reading, listing]
      rfl

/-- Whatever the driver says, it says it before the migrations are listed. -/
theorem notes_overheard (messages : Nat → Passage → List String)
    (up : (Migration.upTo none).run c state = ⟨.ok (), middle, sent, notes⟩)
    (read : Migration.applied.run c middle = ⟨.ok ms, final, sent', notes'⟩) :
    ∃ before, before.filter Note.isOwn = (notes ++ notes').filter Note.isOwn ∧
      ((work.overheard messages 0).run c state).notes =
        before ++ (ms.map listed ++ [.log .info "Ledger schema is up to date"]) := by
  have migrated : ((Migration.upTo none).mapError CommandError.database).run c state =
      ⟨.ok (), middle, sent, notes⟩ := by
    rw [Program.run_mapError, up]
    rfl
  have known : (Migration.applied.mapError CommandError.database).run c middle =
      ⟨.ok ms, final, sent', notes'⟩ := by
    rw [Program.run_mapError, read]
    rfl
  obtain ⟨m, told, own, noted⟩ := Program.notes_overheard_bind c state messages 0
    (fun _ => listing) (congrArg Outcome.result migrated)
  rw [migrated] at own noted
  obtain ⟨m', told', own', noted'⟩ := Program.notes_overheard_bind c middle messages m
    (fun ms => listApplied ms >>= fun _ => Program.log .info "Ledger schema is up to date")
    (congrArg Outcome.result known)
  rw [known, overheard_closing, (run_closing ms).1] at noted'
  rw [known] at own'
  refine ⟨told ++ told', by rw [List.filter_append, own, own', List.filter_append], ?_⟩
  exact noted.trans ((congrArg (told ++ ·) noted').trans (List.append_assoc ..).symm)

/-! ### The whole run -/

/-- A run does what the work does, and the driver may say more. -/
theorem run_program (ready : Ready s given) {result : Except CommandError Unit}
    (h : work.run c state = ⟨result, final, sent, notes⟩) :
    ∃ sent told, (setup s).program.run c state = ⟨result.map fun _ => none, final, sent,
        .log .info "Connecting to database..." :: told⟩ ∧
      told.filter Note.isOwn = .log .info "Running migrations..." :: notes ∧
      (given.sqlLogging = false → told = .log .info "Running migrations..." :: notes) := by
  obtain ⟨told, run, own, quiet⟩ := run_overConnection c state
    (.say (.log .info "Running migrations...") work) s given
  rw [Program.run, h] at run own quiet
  have silent : notes.filter Note.isOwn = notes := by
    have work := filter_isOwn_work c state
    rwa [h] at work
  rw [List.filter_cons_of_pos rfl, silent] at own
  rw [program_of_ready ready, Program.run, Program.run_map, run]
  exact ⟨_, told, rfl, own, quiet⟩

/-- A run to the end lists the migrations after all that is said otherwise. -/
theorem notes_program (ready : Ready s given)
    (up : (Migration.upTo none).run c state = ⟨.ok (), middle, sent, notes⟩)
    (read : Migration.applied.run c middle = ⟨.ok ms, final, sent', notes'⟩) :
    ∃ before, before.filter Note.isOwn = (.log .info "Connecting to database..." ::
        .log .info "Running migrations..." :: (notes ++ notes')).filter Note.isOwn ∧
      ((setup s).program.run c state).notes =
        before ++ (ms.map listed ++ [.log .info "Ledger schema is up to date"]) := by
  have connected : ∃ before, before.filter Note.isOwn =
        (.log .info "Running migrations..." :: (notes ++ notes')).filter Note.isOwn ∧
      ((overConnection s given (.say (.log .info "Running migrations...") work)).run c state).notes =
        before ++ (ms.map listed ++ [.log .info "Ledger schema is up to date"]) := by
    unfold overConnection
    split
    · obtain ⟨before, own, noted⟩ := notes_overheard s.messages up read
      refine ⟨.log .info "Running migrations..." :: before, ?_, congrArg (_ :: ·) noted⟩
      rw [List.filter_cons, List.filter_cons, own]
    · refine ⟨.log .info "Running migrations..." :: (notes ++ notes'), rfl, ?_⟩
      rw [Program.run, (run_of_read up read).1, List.cons_append, List.append_assoc]
  obtain ⟨before, own, noted⟩ := connected
  refine ⟨.log .info "Connecting to database..." :: before, ?_, ?_⟩
  · rw [List.filter_cons, List.filter_cons, own]
  · rw [program_of_ready ready, Program.run, Program.run_map, noted, List.cons_append]

end Command.Setup

end FundsLedger
