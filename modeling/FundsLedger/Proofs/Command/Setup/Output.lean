import FundsLedger.Command.Setup
import FundsLedger.Proofs.Migration.InStep

/-!
# What setting up prints

A run says first what it is about to do, then how the migrations go, and at its end which of them are
applied. Each kind of line is told apart from the others by its first characters, so that nothing that
is said earlier, and nothing that the driver says, is taken for what is said at the end.
-/

namespace FundsLedger

open Database (Mishap Note)
open Migration (Task all)

namespace Command.Setup

def listed (m : Migration) : Note :=
  .log .info s!"Applied migration {m.name}"

/-- What is said until the migrations are applied, where no statement is rejected. -/
def opening (store : Store) (clock : Int) : List Note :=
  .log .info "Connecting to database..." :: .log .info "Running migrations..." ::
    (store.perform clock (fun _ => none) (.up none)).notes

def closing : List Note :=
  all.map listed ++ [.log .info "Ledger schema is up to date"]

theorem isOwn_of_isProgress {notes : List Note} (h : ∀ note ∈ notes, Migration.IsProgress note) :
    notes.filter Note.isOwn = notes := by
  refine List.filter_eq_self.mpr fun note hn => ?_
  obtain ⟨message, rfl⟩ := h note hn
  rfl

def ledgerLine (message : String) : String :=
  s!"INFO wallet_ledger: {message}"

def shown (s : Surroundings) (notes : List Note) : List String :=
  notes.filterMap (setup s).shown

theorem shown_append (s : Surroundings) (a b : List Note) :
    shown s (a ++ b) = shown s a ++ shown s b :=
  List.filterMap_append

/-! ### Lines as texts -/

theorem lines_append (a b : List String) : lines (a ++ b) = lines a ++ lines b := by
  rw [lines, List.map_append, String.join_append]
  rfl

theorem lines_ne {texts : List String} (h : texts ≠ []) : lines texts ≠ "" := by
  obtain ⟨text, rest, rfl⟩ := List.exists_cons_of_ne_nil h
  intro empty
  rw [lines, List.map_cons, String.join_cons, String.append_eq_empty_iff,
    String.append_eq_empty_iff] at empty
  exact absurd empty.1.2 (by decide)

/-! ### The default filter -/

theorem logged_log (message : String) :
    logged .standard (.log .info message) = some (ledgerLine message) := by
  have shows : LogFilter.standard.shows ledgerTarget .info = true := by decide
  rw [logged, logLine, if_pos shows]
  rfl

theorem logged_progress (message : String) : logged .standard (.progress message) =
    some s!"INFO sea_orm_migration::migrator: {message}" := by
  have shows : LogFilter.standard.shows migratorTarget .info = true := by decide
  rw [logged, logLine, if_pos shows]
  rfl

theorem logged_statement (message : String) : logged .standard (.statement message) =
    some s!"INFO sqlx::query: {message}" := by
  have shows : LogFilter.standard.shows statementTarget .info = true := by decide
  rw [logged, logLine, if_pos shows]
  rfl

theorem ledgerLine_inj {a b : String} : ledgerLine a = ledgerLine b ↔ a = b :=
  String.append_right_inj "INFO wallet_ledger: "

/-- Texts with different beginnings are different. -/
theorem append_ne {a b : String} (i : Nat) (ha : i < a.toList.length) (hb : i < b.toList.length)
    (differ : a.toList[i]? ≠ b.toList[i]?) (x y : String) : a ++ x ≠ b ++ y := by
  intro same
  have letters := congrArg (fun s => s.toList[i]?) same
  simp only [String.toList_append] at letters
  rw [List.getElem?_append_left ha, List.getElem?_append_left hb] at letters
  exact differ letters

/-- A message on the progress of migrations is not taken for one of the ledger. -/
theorem progressLine_ne (a b : String) :
    s!"INFO sea_orm_migration::migrator: {a}" ≠ ledgerLine b :=
  append_ne 5 (by decide) (by decide) (by decide) a b

/-- A message of the driver is not taken for one of the ledger either. -/
theorem statementLine_ne (a b : String) : s!"INFO sqlx::query: {a}" ≠ ledgerLine b :=
  append_ne 5 (by decide) (by decide) (by decide) a b

section Filter

variable {s : Surroundings} (filter : LogFilter.ofEnvironment s.environment = .standard)

include filter

theorem shown_eq (notes : List Note) : shown s notes = notes.filterMap (logged .standard) :=
  congrArg (notes.filterMap <| logged ·) filter

theorem shown_closing : shown s closing =
    (all.map fun m => ledgerLine s!"Applied migration {m.name}") ++
      [ledgerLine "Ledger schema is up to date"] := by
  rw [shown_eq filter]
  rfl

/-- Nothing of the listing is printed before it begins. -/
theorem opening_ne {store : Store} {clock : Int} {line : String}
    (h : line ∈ shown s (opening store clock)) :
    line ≠ ledgerLine "Ledger schema is up to date" ∧
      ∀ name : String, line ≠ ledgerLine s!"Applied migration {name}" := by
  rw [shown_eq filter] at h
  obtain ⟨note, hnote, shows⟩ := List.mem_filterMap.mp h
  rcases List.mem_cons.mp hnote with rfl | hnote
  · rw [logged_log] at shows
    cases shows
    refine ⟨by decide, fun name same => ?_⟩
    exact append_ne 0 (a := "Connecting to database...") (by decide) (by decide) (by decide) "" name
      (ledgerLine_inj.mp same)
  rcases List.mem_cons.mp hnote with rfl | hnote
  · rw [logged_log] at shows
    cases shows
    refine ⟨by decide, fun name same => ?_⟩
    exact append_ne 0 (a := "Running migrations...") (by decide) (by decide) (by decide) "" name
      (ledgerLine_inj.mp same)
  obtain ⟨message, rfl⟩ := Migration.notes_upTo _ _ _ note hnote
  rw [logged_progress] at shows
  cases shows
  exact ⟨progressLine_ne _ _, fun name => progressLine_ne _ _⟩

/-- What the ledger says is among the command's own lines, with or without a driver that speaks. -/
theorem ledgerLine_mem_shown_filter {message : String} {notes : List Note}
    (h : ledgerLine message ∈ shown s notes) :
    ledgerLine message ∈ shown s (notes.filter Note.isOwn) := by
  rw [shown_eq filter] at h ⊢
  obtain ⟨note, hnote, shows⟩ := List.mem_filterMap.mp h
  cases note with
  | statement told =>
    rw [logged_statement] at shows
    exact absurd (Option.some.inj shows) (statementLine_ne _ _)
  | log level text => exact List.mem_filterMap.mpr ⟨_, List.mem_filter.mpr ⟨hnote, rfl⟩, shows⟩
  | progress text => exact List.mem_filterMap.mpr ⟨_, List.mem_filter.mpr ⟨hnote, rfl⟩, shows⟩
  | line text => exact List.mem_filterMap.mpr ⟨_, List.mem_filter.mpr ⟨hnote, rfl⟩, shows⟩

/-- Nothing of the listing is printed before it begins, whatever the driver says. -/
theorem before_ne {store : Store} {clock : Int} {before : List Note}
    (own : before.filter Note.isOwn = opening store clock) {line : String}
    (h : line ∈ shown s before) : line ≠ ledgerLine "Ledger schema is up to date" ∧
      ∀ name : String, line ≠ ledgerLine s!"Applied migration {name}" := by
  have absent {message : String} (hline : line = ledgerLine message) :
      ledgerLine message ∈ shown s (opening store clock) := by
    rw [← own]
    exact ledgerLine_mem_shown_filter filter (hline ▸ h)
  exact ⟨fun same => (opening_ne filter (absent same)).1 rfl,
    fun name same => (opening_ne filter (absent same)).2 name rfl⟩

end Filter

end Command.Setup

end FundsLedger
