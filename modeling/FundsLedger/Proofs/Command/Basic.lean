import FundsLedger.Command.Basic
import FundsLedger.Proofs.Database.Program

/-!
# Before the first statement

A command reads its settings and opens a pool of connections with them. Only if both go well, a
statement is sent, and from then on the driver may add messages of its own to what the command says.
-/

namespace FundsLedger

open Config (Settings)
open Database (Connection Note Program)

namespace Command

/-- Everything that a command needs before its first statement is there: its settings are accepted,
and a pool is opened with all of them. -/
structure Ready (s : Surroundings) (given : Settings) : Prop where
  accepted : Settings.load s.environment s.file = some (.ok given)
  opened : given.connect s.pool = .opened

/-- The process is stopped before its first statement, while a file is loaded or a pool is opened. -/
def Crashes (s : Surroundings) : Prop :=
  Settings.load s.environment s.file = none ∨
    ∃ given, Settings.load s.environment s.file = some (.ok given) ∧ given.connect s.pool = .crashed

variable {σ α : Type} {s : Surroundings} {given : Settings}

theorem Ready.settings (h : Ready s given) : Command.settings s = .done given := by
  rw [Command.settings, h.accepted]
  rfl

theorem Ready.connect (h : Ready s given) : Command.connect s given = .done () := by
  rw [Command.connect, h.opened]

/-- An error before the first statement, with the exit code that it leads to. -/
def Early (s : Surroundings) (e : CommandError) : Prop :=
  e.exitCode = 1 ∧ ¬Crashes s ∨ e.exitCode = 101 ∧ Crashes s

/-- How far a command comes before its first statement. -/
inductive Prepared (s : Surroundings) : Prop
  | ready {given : Settings} (ready : Ready s given)
  | unread {e : CommandError} (unready : ∀ given, ¬Ready s given) (early : Early s e)
      (read : settings s = .fail e)
  | unconnected {given : Settings} {e : CommandError} (unready : ∀ given, ¬Ready s given)
      (early : Early s e) (read : settings s = .done given) (connected : connect s given = .fail e)

theorem prepared (s : Surroundings) : Prepared s := by
  cases loaded : Settings.load s.environment s.file with
  | none =>
    refine .unread (fun given ready => ?_) (.inr ⟨rfl, .inl loaded⟩) (e := .crash s.crashReport) ?_
    · cases loaded.symm.trans ready.accepted
    · rw [settings, loaded]
  | some result =>
    cases result with
    | error e =>
      refine .unread (fun given ready => ?_) (.inl ⟨rfl, ?_⟩) (e := .config e) ?_
      · cases loaded.symm.trans ready.accepted
      · rintro (stopped | ⟨given, accepted, -⟩)
        · cases loaded.symm.trans stopped
        · cases loaded.symm.trans accepted
      · rw [settings, loaded]
        rfl
    | ok given =>
      have read : settings s = .done given := by
        rw [settings, loaded]
        rfl
      cases opening : given.connect s.pool with
      | opened => exact .ready ⟨loaded, opening⟩
      | refused failure =>
        refine .unconnected (fun given' ready => ?_) (.inl ⟨rfl, ?_⟩) read (e := .database failure) ?_
        · cases loaded.symm.trans ready.accepted
          cases opening.symm.trans ready.opened
        · rintro (stopped | ⟨given', accepted, crashed⟩)
          · cases loaded.symm.trans stopped
          · cases loaded.symm.trans accepted
            cases opening.symm.trans crashed
        · rw [connect, opening]
      | crashed =>
        refine .unconnected (fun given' ready => ?_) (.inr ⟨rfl, .inr ⟨given, loaded, opening⟩⟩) read
          (e := .crash s.crashReport) ?_
        · cases loaded.symm.trans ready.accepted
          cases opening.symm.trans ready.opened
        · rw [connect, opening]

section Connected

variable (c : Connection σ) (state : σ) (p : Program CommandError α)

/-- Over a connection a command does what it does by itself. What is said beside that is the driver's,
and it says nothing unless it is asked to. -/
theorem run_overConnection (s : Surroundings) (given : Settings) :
    ∃ notes, (overConnection s given p).run c state = { p.run c state with notes } ∧
      notes.filter Note.isOwn = (p.run c state).notes.filter Note.isOwn ∧
      (given.sqlLogging = false → notes = (p.run c state).notes) := by
  unfold overConnection
  cases given.sqlLogging with
  | false => exact ⟨_, rfl, rfl, fun _ => rfl⟩
  | true =>
    obtain ⟨notes, run, own⟩ := Program.run_overheard c state s.messages 0 p
    exact ⟨notes, run, own, nofun⟩

theorem exchanges_overConnection (s : Surroundings) (given : Settings) :
    (overConnection s given p).exchanges c state = p.exchanges c state := by
  unfold overConnection
  split
  · exact Program.exchanges_overheard c state s.messages 0 p
  · rfl

end Connected

end Command

end FundsLedger
