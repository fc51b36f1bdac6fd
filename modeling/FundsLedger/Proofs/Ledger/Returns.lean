import FundsLedger.Proofs.Database.Conduct
import FundsLedger.Proofs.Ledger.Requests
import FundsLedger.Proofs.Store.Statements

/-!
# Where entries come from

Whatever a database answers, the ledger returns no row but one that it has read from an answer. So
what is true of all rows that are answered is true of all entries that are returned.
-/

namespace FundsLedger

open Database (Law Note Program Response Row Statement)

namespace Database.Program

variable {ε ε' α β : Type} {hears : Response → Prop} {post : α → Prop} {post' : β → Prop}
  {p : Program ε α}

/-- The law of programs that may do anything. Only responses that satisfy `hears` are reckoned
with. -/
def hearing (hears : Response → Prop) : Law Unit where
  asks _ _ := True
  hears _ _ r _ := hears r
  moves _ _ _ := True
  speaks _ _ _ := True

/-- A program whose result satisfies `post`, as long as each response it hears satisfies `hears`. -/
abbrev Returns (hears : Response → Prop) (post : α → Prop) (p : Program ε α) : Prop :=
  Obeys (hearing hears) (fun _ => post) (fun _ _ => True) () p

namespace Returns

theorem bind {f : α → Program ε β} (hp : Returns hears post p)
    (hf : ∀ a, post a → Returns hears post' (f a)) : Returns hears post' (p >>= f) :=
  Obeys.bind hp fun _ => hf

theorem mapError {f : ε → ε'} (hp : Returns hears post p) : Returns hears post (p.mapError f) :=
  Obeys.mapError hp fun _ _ _ => trivial

theorem fail (e : ε) : Returns hears post (.fail e : Program ε α) :=
  Obeys.fail trivial

theorem say {note : Note} {next : Program ε α} (rest : Returns hears post next) :
    Returns hears post (.say note next) :=
  Obeys.say trivial rest

theorem read {s : Statement} {read : Response → Except ε α}
    (h : ∀ r a, hears r → read r = .ok a → post a) :
    Returns hears post (.send s fun r => .ofExcept (read r)) :=
  Obeys.read trivial (fun r _ a => h r a) fun _ _ _ _ _ => trivial

theorem after (hp : Returns hears post p) {rs : List Response} (hrs : ∀ r ∈ rs, hears r) :
    Returns hears post (p.after rs) := by
  induction p generalizing rs with
  | done a => exact hp
  | fail e => exact hp
  | send s next ih =>
    cases rs with
    | nil => exact hp
    | cons r rs =>
      cases hp with
      | send asks rest =>
        exact ih r (rest r () (hrs r List.mem_cons_self))
          fun r' hr' => hrs r' (List.mem_cons_of_mem _ hr')
  | bound b next ih => exact hp
  | say note next ih =>
    cases hp with
    | say speaks rest => exact ih rest hrs

theorem of_result? {a : α} (hp : Returns hears post p) (h : p.result? = some (.ok a)) :
    post a := by
  cases hp with
  | done ha =>
    cases h
    exact ha
  | fail _ => cases h
  | send _ _ => cases h
  | bound _ _ => cases h
  | say _ _ => cases h

end Returns

end Database.Program

/-- Whether every ledger row in a response satisfies `good`. -/
def Database.Response.Tells (good : Posting → Prop) (r : Response) : Prop :=
  ∀ answer, r = .ok answer → ∀ row ∈ answer.toRows, ∀ p, Row.posting row = .ok p → good p

namespace Ledger

open Database.Program (Returns)

variable {good : Posting → Prop} {r : Response} {d : Direction} {id : Uuid}

theorem good_of_firstRow {p : Posting} (hr : Database.Response.Tells good r)
    (h : firstRow Row.posting r = .ok (some p)) : good p := by
  obtain ⟨row, rows, rfl, hrow⟩ := firstRow_eq_ok h
  exact hr _ rfl row List.mem_cons_self p hrow

theorem exists_of_mem_mapM {rows : List Row} {ps : List Posting} {p : Posting}
    (h : rows.mapM Row.posting = .ok ps) (hp : p ∈ ps) : ∃ row ∈ rows, row.posting = .ok p := by
  induction rows generalizing ps with
  | nil =>
    cases h
    cases hp
  | cons row rows ih =>
    rw [List.mapM_cons] at h
    obtain ⟨q, hq, h⟩ := Store.bind_eq_ok.mp h
    obtain ⟨qs, hqs, h⟩ := Store.bind_eq_ok.mp h
    cases h
    rcases List.mem_cons.mp hp with rfl | hp
    · exact ⟨row, List.mem_cons_self, hq⟩
    · obtain ⟨row', hrow', hread⟩ := ih hqs hp
      exact ⟨row', List.mem_cons_of_mem _ hrow', hread⟩

theorem returns_insertAnd (s : Statement) :
    Returns (Database.Response.Tells good) good (s.insertAnd Row.posting) := by
  rw [Statement.insertAnd_eq]
  refine .read fun r p hr hp => ?_
  unfold returned at hp
  cases h : firstRow Row.posting r with
  | error failure =>
    rw [h] at hp
    cases hp
  | ok found =>
    rw [h] at hp
    cases found with
    | none => cases hp
    | some q =>
      cases hp
      exact good_of_firstRow hr h

theorem returns_first (s : Statement) :
    Returns (Database.Response.Tells good) (fun found => ∀ p ∈ found, good p)
      (s.first Row.posting) := by
  rw [Statement.first_eq]
  refine .read fun r found hr hfound p hp => ?_
  rw [Option.mem_def.mp hp] at hfound
  exact good_of_firstRow hr hfound

theorem returns_every (s : Statement) :
    Returns (Database.Response.Tells good) (fun ps => ∀ p ∈ ps, good p)
      (s.every Row.posting) := by
  rw [Statement.every_eq]
  refine .read fun r ps hr hps p hp => ?_
  cases r with
  | error failure => cases hps
  | ok answer =>
    obtain ⟨row, hrow, hread⟩ := exists_of_mem_mapM hps hp
    exact hr answer rfl row hrow p hread

theorem returns_act (s : Statement) :
    Returns (Database.Response.Tells good) (fun _ => True) s.act := by
  rw [Statement.act_eq]
  exact .read fun _ _ _ _ => trivial

/-! ### The operations -/

theorem returns_record (e : NewEntry) :
    Returns (Database.Response.Tells good) (fun entry => good entry.toPosting) (record id d e) := by
  unfold record
  split
  · exact .fail _
  · exact (returns_insertAnd _).mapError.bind fun p hp => .say (.done hp)

theorem returns_find :
    Returns (Database.Response.Tells good) (fun entry => good entry.toPosting) (find d id) := by
  refine (returns_first _).mapError.bind fun found hfound => ?_
  cases found with
  | none => exact .fail _
  | some p => exact .done (hfound p rfl)

theorem returns_listForUser {user : Uuid} :
    Returns (Database.Response.Tells good) (fun entries => ∀ e ∈ entries, good e.toPosting)
      (listForUser d user) := by
  refine (returns_every _).mapError.bind fun ps hps => .say (.done fun e he => ?_)
  obtain ⟨p, hp, rfl⟩ := List.mem_map.mp he
  exact hps p hp

theorem returns_updateStatus {next : Status} :
    Returns (Database.Response.Tells good) (fun entry => good entry.toPosting)
      (updateStatus d id next) := by
  refine returns_find.bind fun current _ => ?_
  unfold moveFrom
  split
  · exact .fail _
  · refine (returns_act _).mapError.bind fun n _ => ?_
    unfold confirmMove
    split
    · exact .say (.fail _)
    · exact .say returns_find

end Ledger

/-- What is true of all ledger rows that are answered is true of all entries that are returned. -/
theorem Request.returns {good : Posting → Prop} (q : Request) :
    Database.Program.Returns (Database.Response.Tells good)
      (fun entries => ∀ e ∈ entries, good e.toPosting) q.program := by
  have single : ∀ entry : Entry, good entry.toPosting → ∀ e ∈ [entry], good e.toPosting := by
    intro entry h e he
    rw [List.mem_singleton.mp he]
    exact h
  cases q with
  | record id d e => exact (Ledger.returns_record e).map fun _ => single
  | find d id => exact Ledger.returns_find.map fun _ => single
  | list d user => exact Ledger.returns_listForUser
  | move d id next => exact Ledger.returns_updateStatus.map fun _ => single

end FundsLedger
