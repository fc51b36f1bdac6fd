import FundsLedger.Proofs.Command.Setup.Phases

/-!
# Runs with and without faults

A run where statements may be rejected is compared with the one where none is, at a store that is in
step with its record. A statement that is rejected leaves the store as it was, or as it is without
faults, by the phase that it belongs to; and what is said until then is what is said without faults, as
far as it goes. The main statement is `Settles.ends`.
-/

namespace FundsLedger

open Config (Settings)
open Database (Connection Failure Manner Mishap Note Program Response Sent Statement)
open Database.Program (Stops Succeeds)
open Migration (Task all)
open Time (Timestamp)

namespace Command.Setup

/-- A run of the command at a store that nobody else uses, where some statements may be rejected, as
it ends. -/
def finished (store : Store) (clock : Int) (faults : Nat → Option Mishap) (s : Surroundings) :
    Finished Session :=
  (setup s).run (Session.connection { faults }) { store, clock }

def exchanges (store : Store) (clock : Int) (faults : Nat → Option Mishap) (s : Surroundings) :
    List (Statement × Response) :=
  (setup s).program.exchanges (Session.connection { faults }) { store, clock }

def notes (store : Store) (clock : Int) (faults : Nat → Option Mishap) (s : Surroundings) :
    List Note :=
  ((setup s).program.run (Session.connection { faults }) { store, clock }).notes

/-- What the command itself says in a run. -/
def said (store : Store) (clock : Int) (faults : Nat → Option Mishap) (s : Surroundings) :
    List Note :=
  (notes store clock faults s).filter Note.isOwn

/-- How many statements it takes to apply what is pending. -/
def migrating (store : Store) (clock : Int) : Nat :=
  (store.exchanges clock (fun _ => none) (.up none)).length

variable {store after : Store} {clock : Int} {faults : Nat → Option Mishap} {s : Surroundings}
  {given : Settings} {final : Session} {sent : List Sent}

theorem output_finished : (finished store clock faults s).output =
    lines (shown s (notes store clock faults s)) := by
  unfold finished Command.run
  dsimp only
  split <;> rfl

/-- Where something that is needed is missing, nothing is sent and nothing changes. -/
theorem idle_of_not_ready (unready : ∀ given, ¬Ready s given) :
    exchanges store clock faults s = [] ∧
      (finished store clock faults s).state = { store, clock } := by
  unfold exchanges finished Command.run
  obtain ⟨e, program | program⟩ := program_of_not_ready unready
  · rw [program]
    exact ⟨rfl, rfl⟩
  · rw [program]
    exact ⟨rfl, rfl⟩

/-- A driver that is not asked to speak says nothing. -/
theorem said_eq_notes (ready : Ready s given) (quiet : given.sqlLogging = false) :
    said store clock faults s = notes store clock faults s := by
  rcases work : work.run (Session.connection { faults }) { store, clock } with
    ⟨result, final, sent, told⟩
  obtain ⟨_, told', run, own, silent⟩ := run_program ready work
  rw [said, notes, run, List.filter_cons_of_pos rfl, own, silent quiet]

/-- How a run ends once everything that is needed before the first statement is there. -/
theorem finished_of_run (faults : Nat → Option Mishap) (ready : Ready s given)
    {result : Except CommandError Unit} {told : List Note}
    (h : work.run (Session.connection { faults }) { store, clock } =
      ⟨result, final, sent, told⟩) :
    (finished store clock faults s).exitCode =
        (match result with
          | .ok _ => 0
          | .error e => e.exitCode) ∧
      said store clock faults s = .log .info "Connecting to database..." ::
        .log .info "Running migrations..." :: told ∧
      (finished store clock faults s).state = final := by
  obtain ⟨sent', told', run, own, -⟩ := run_program ready h
  have noted : said store clock faults s = .log .info "Connecting to database..." ::
      told'.filter Note.isOwn := by
    rw [said, notes, run]
    rfl
  rw [own] at noted
  rw [finished, Command.run, run]
  cases result <;> exact ⟨rfl, noted, rfl⟩

/-- Where no statement is rejected, applying what is pending leads from one store to the other, which
has the whole schema. -/
structure Settles (store after : Store) (clock : Int) : Prop where
  moved : Succeeds (.ofUnixSeconds clock) (Migration.applyPending none) store () after
  last : after.InStep 2
  recorded : after.withHistory = after

theorem withHistory_eq_self (recorded : store.history ≠ none) : store.withHistory = store := by
  obtain ⟨table, here⟩ := Option.ne_none_iff_exists'.mp recorded
  rcases store with ⟨users, currencies, deposits, withdrawals, history, others, types, indexes⟩
  cases here
  rfl

theorem exists_settles {k : Nat} (h : store.InStep k) (clock : Int) :
    ∃ after, Settles store after clock := by
  obtain ⟨after, moved, level, recorded⟩ :=
    Store.inStep_ladder.succeeds_applyPending h none (.ofUnixSeconds clock)
  rw [Option.getD_none, Nat.min_eq_left (Nat.le_add_left 2 k)] at level
  exact ⟨after, moved, level, withHistory_eq_self recorded⟩

/-- How a run ends, next to the run without faults. -/
inductive Ends (store after : Store) (clock : Int) (faults : Nat → Option Mishap)
    (s : Surroundings) : Prop
  /-- No statement is rejected. -/
  | whole {count : Nat} (code : (finished store clock faults s).exitCode = 0)
      (told : ∃ before, before.filter Note.isOwn = opening store clock ∧
        notes store clock faults s = before ++ closing)
      (state : (finished store clock faults s).state = { store := after, clock, count })
      (exchanges : exchanges store clock faults s = exchanges store clock (fun _ => none) s)
  /-- The statement number `n` is rejected, in one of the two phases. -/
  | cut {n count : Nat} {x : Statement} {r : Response} {left : Store} (f : Failure)
      (rest : List Note)
      (sent : (exchanges store clock (fun _ => none) s)[n]? = some (x, r))
      (exchanges : exchanges store clock faults s =
        (exchanges store clock (fun _ => none) s).take n ++ [(x, .error f)])
      (code : (finished store clock faults s).exitCode = 1)
      (begun : opening store clock = said store clock faults s ++ rest)
      (state : (finished store clock faults s).state = { store := left, clock, count })
      (phase : n < migrating store clock ∧ left = store ∨ migrating store clock ≤ n ∧ left = after)

namespace Settles

/-- A second run has nothing left to do. -/
theorem again (h : Settles store after clock) (clock' : Int) : Settles after after clock' where
  moved := by
    have moved := Store.inStep_ladder.succeeds_applyPending_last h.last none (.ofUnixSeconds clock')
    rwa [h.recorded] at moved
  last := h.last
  recorded := h.recorded

/-! ### The two phases -/

theorem up (h : Settles store after clock) : ∃ n sent notes,
    store.perform clock (fun _ => none) (.up none) =
      ⟨.ok (), { store := after, clock, count := n }, sent, notes⟩ := by
  obtain ⟨result, n, state⟩ := Store.perform_of_succeeds (.up none) rfl h.moved
  rcases run : store.perform clock (fun _ => none) (.up none) with ⟨result', state', sent, notes⟩
  rw [run] at result state
  cases result
  cases state
  exact ⟨n, sent, notes, rfl⟩

/-- Reading the record changes nothing and says nothing, wherever it ends. -/
theorem reads (h : Settles store after clock) (faults : Nat → Option Mishap) (n : Nat) :
    ∃ result count sent,
      Migration.applied.run (Session.connection { faults }) { store := after, clock, count := n } =
        ⟨result, { store := after, clock, count }, sent, []⟩ := by
  have stops : Stops (.keeping (· = after) fun _ => False) id _ Migration.applied :=
    Migration.stops_applied
      (Migration.keeps_createHistory fun store same => by rw [same, h.recorded])
      Migration.keeps_selectHistory
  obtain ⟨store', count, state, same⟩ := stops.state faults rfl clock n
  have silent := stops.notes (Session.connection { faults }) { store := after, clock, count := n }
  rcases run : Migration.applied.run (Session.connection { faults })
    { store := after, clock, count := n } with ⟨result, state', sent, notes⟩
  rw [run] at state silent
  dsimp only at state silent
  subst state same
  rw [List.eq_nil_iff_forall_not_mem.mpr silent]
  exact ⟨result, count, sent, rfl⟩

theorem read (h : Settles store after clock) (n : Nat) : ∃ count sent,
    Migration.applied.run (Session.connection {}) { store := after, clock, count := n } =
      ⟨.ok all, { store := after, clock, count }, sent, []⟩ := by
  obtain ⟨result, count, sent, run⟩ := h.reads (fun _ => none) n
  have told : Succeeds (.ofUnixSeconds clock) Migration.applied after all after.withHistory :=
    Store.inStep_ladder.succeeds_applied h.last
  have start : Session.store { store := after, clock, count := n } = after := rfl
  obtain ⟨succeeded, _⟩ := told.run start rfl rfl
  have clean : Migration.applied.run (Session.connection {})
      { store := after, clock, count := n } = ⟨result, _, sent, []⟩ := run
  rw [clean] at succeeded ⊢
  cases succeeded
  exact ⟨count, sent, rfl⟩

/-! ### Whole runs -/

/-- A run both phases of which go as they do without faults. -/
theorem clean_of_read (ready : Ready s given)
    {faults : Nat → Option Mishap} {n count : Nat} {sent sent' : List Sent}
    (up : store.perform clock faults (.up none) =
      ⟨.ok (), { store := after, clock, count := n }, sent,
        (store.perform clock (fun _ => none) (.up none)).notes⟩)
    (read : Migration.applied.run (Session.connection { faults })
      { store := after, clock, count := n } = ⟨.ok all, { store := after, clock, count }, sent', []⟩) :
    (finished store clock faults s).exitCode = 0 ∧
      (∃ before, before.filter Note.isOwn = opening store clock ∧
        notes store clock faults s = before ++ closing) ∧
      (finished store clock faults s).state = { store := after, clock, count } := by
  obtain ⟨run, _⟩ := run_of_read up read
  obtain ⟨code, _, state⟩ := finished_of_run faults ready run
  obtain ⟨before, own, noted⟩ := notes_program ready up read
  have progress : (store.perform clock (fun _ => none) (.up none)).notes.filter Note.isOwn =
      (store.perform clock (fun _ => none) (.up none)).notes :=
    isOwn_of_isProgress (Migration.notes_upTo _ _ _)
  rw [List.append_nil, List.filter_cons_of_pos rfl, List.filter_cons_of_pos rfl, progress] at own
  exact ⟨code, ⟨before, own, noted⟩, state⟩

/-- What is said where all that is said ends in the listing. -/
theorem said_of_told (told : ∃ before, before.filter Note.isOwn = opening store clock ∧
    notes store clock faults s = before ++ closing) :
    said store clock faults s = opening store clock ++ closing := by
  obtain ⟨before, own, noted⟩ := told
  rw [said, noted, List.filter_append, own]
  rfl

/-- Without faults all is said, and the whole schema is there. -/
theorem clean (h : Settles store after clock) (ready : Ready s given) :
    ∃ count, (finished store clock (fun _ => none) s).exitCode = 0 ∧
      said store clock (fun _ => none) s = opening store clock ++ closing ∧
      (finished store clock (fun _ => none) s).state = { store := after, clock, count } := by
  obtain ⟨n, sent, notes, up⟩ := h.up
  obtain ⟨count, sent', read⟩ := h.read n
  obtain ⟨code, told, state⟩ := clean_of_read ready (by rw [up]) read
  exact ⟨count, code, said_of_told told, state⟩

/-- The statements of a run without faults, those of either phase. -/
theorem exchanges_clean (h : Settles store after clock) (ready : Ready s given) {n : Nat}
    {sent : List Sent} {notes : List Note}
    (up : store.perform clock (fun _ => none) (.up none) =
      ⟨.ok (), { store := after, clock, count := n }, sent, notes⟩) :
    exchanges store clock (fun _ => none) s = store.exchanges clock (fun _ => none) (.up none) ++
      Migration.applied.exchanges (Session.connection {}) { store := after, clock, count := n } := by
  obtain ⟨_, _, read⟩ := h.read n
  exact (exchanges_program ready).trans (run_of_read up read).2

/-- The migrations are applied as they are without faults. What is left is to list them. -/
theorem ends_of_up (h : Settles store after clock) (ready : Ready s given)
    (same : store.perform clock faults (.up none) = store.perform clock (fun _ => none) (.up none))
    (alike : store.exchanges clock faults (.up none) =
      store.exchanges clock (fun _ => none) (.up none)) : Ends store after clock faults s := by
  obtain ⟨n, _, _, up⟩ := h.up
  have clean := h.exchanges_clean ready up
  have stops : Stops Migration.manner id _ Migration.applied := Migration.stops_applied trivial trivial
  have cut := Session.cut_of_stops stops faults { store := after, clock, count := n }
  cases cut with
  | @short i x r f sent heard result _ =>
    obtain ⟨_, count, _, reads⟩ := h.reads faults n
    rw [reads] at result
    cases result
    obtain ⟨working, asked⟩ := run_of_read_error (same.trans up) reads
    obtain ⟨code, noted, state⟩ := finished_of_run faults ready working
    have later : (exchanges store clock (fun _ => none) s)[migrating store clock + i]? =
        some (x, r) := by
      rw [clean, migrating, List.getElem?_append_right (Nat.le_add_right _ _),
        Nat.add_sub_cancel_left, sent]
    refine .cut f [] later ?_ code ?_ state (.inr ⟨Nat.le_add_right _ _, rfl⟩)
    · rw [clean, migrating, List.take_length_add_append, List.append_assoc, ← heard, ← alike]
      exact (exchanges_program ready).trans asked
    · rw [noted, opening, up, List.append_nil, List.append_nil]
  | whole same' alike' =>
    obtain ⟨count, _, read⟩ := h.read n
    have up' := same.trans up
    obtain ⟨code, noted, state⟩ := clean_of_read ready (by rw [up', up]) (same'.trans read)
    refine .whole code noted state ?_
    rw [clean, ← alike, ← alike']
    exact (exchanges_program ready).trans (run_of_read up' (same'.trans read)).2

/-- Every run is the run without faults, or it is cut short in one of its phases. -/
theorem ends (h : Settles store after clock) (ready : Ready s given)
    (faults : Nat → Option Mishap) : Ends store after clock faults s := by
  have cut : Session.Cut id faults (Task.program (.up none)) { store, clock } :=
    (Session.cut_of_stops (Migration.stops_applyPending none) faults _).inTransaction
  cases cut with
  | whole same alike => exact h.ends_of_up ready same alike
  | @short i x r f sent heard result said =>
    obtain ⟨n, _, _, up⟩ := h.up
    have clean := h.exchanges_clean ready up
    have early : i < migrating store clock := (List.getElem?_eq_some_iff.mp sent).1
    have changes : Task.up none ≠ .status := by decide
    obtain ⟨count, state⟩ := Store.state_perform_of_error changes result
    rcases run : store.perform clock faults (.up none) with ⟨_, _, _, notes⟩
    obtain ⟨rest, whole⟩ := said
    change (store.perform clock faults (.up none)).notes ++ rest =
      (store.perform clock (fun _ => none) (.up none)).notes at whole
    change (store.perform clock faults (.up none)).result = _ at result
    rw [run] at result state whole
    cases result
    cases state
    obtain ⟨working, asked⟩ := run_of_up_error run
    obtain ⟨code, noted, state⟩ := finished_of_run faults ready working
    have sooner : (exchanges store clock (fun _ => none) s)[i]? = some (x, r) := by
      rw [clean, List.getElem?_append_left early]
      exact sent
    refine .cut f rest sooner ?_ code ?_ state (.inl ⟨early, rfl⟩)
    · rw [clean, List.take_append_of_le_length (Nat.le_of_lt early)]
      exact (exchanges_program ready).trans (asked.trans heard)
    · rw [noted, opening, ← whole]
      rfl

end Settles

end Command.Setup

end FundsLedger
