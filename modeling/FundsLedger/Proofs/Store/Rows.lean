import FundsLedger.Store.Execute
import Mathlib.Data.List.Nodup

/-!
# The rows of a ledger table

How a store responds to a statement, and the rows that are there before and after. A row is addressed
by its direction and id.
-/

namespace FundsLedger

open Database (Answer Response Row Statement)
open Time (Timestamp)

namespace Store

/-- The response of a store to a statement at a given time, and the store after it. -/
def respond (store : Store) (time : Timestamp) (s : Statement) : Response × Store :=
  match store.execute time s with
  | .ok (answer, store) => (.ok answer, store)
  | .error refusal => (.error (.server s.channel refusal.code refusal.message), store)

def posting? (store : Store) (d : Direction) (id : Uuid) : Option Posting :=
  (store.postings d).find? (·.id == id)

/-- Whether ids are distinct within each ledger table, as its primary key demands. -/
def Keyed (store : Store) : Prop :=
  ∀ d, ((store.postings d).map Posting.id).Nodup

variable {store : Store} {d d' : Direction} {id id' : Uuid} {p : Posting}

theorem ledger_setLedger (table : Option (Relation Posting)) :
    (store.setLedger d table).ledger d' = if d' = d then table else store.ledger d' := by
  cases d <;> cases d' <;> rfl

theorem postings_setLedger (table : Relation Posting) :
    (store.setLedger d (some table)).postings d' =
      if d' = d then table.rows else store.postings d' := by
  unfold postings
  rw [ledger_setLedger]
  split <;> rfl

theorem setLedger_ledger : store.setLedger d (store.ledger d) = store := by
  cases d <;> rfl

theorem postings_of_ledger {table : Relation Posting} (h : store.ledger d = some table) :
    store.postings d = table.rows := by
  simp [postings, h]

theorem mem_of_posting? (h : store.posting? d id = some p) : p ∈ store.postings d :=
  List.mem_of_find?_eq_some h

theorem ledger_ne_none (h : store.posting? d id = some p) : store.ledger d ≠ none := by
  intro none
  have hp := mem_of_posting? h
  rw [postings, none] at hp
  cases hp

theorem id_of_posting? (h : store.posting? d id = some p) : p.id = id := by
  simpa using List.find?_some h

theorem Keyed.posting?_of_mem (h : store.Keyed) (hp : p ∈ store.postings d) :
    store.posting? d p.id = some p := by
  cases hf : store.posting? d p.id with
  | none => exact absurd (List.find?_eq_none.mp hf p hp) (by simp)
  | some q =>
    have hq : q = p :=
      List.inj_on_of_nodup_map (h d) (mem_of_posting? hf) hp (id_of_posting? hf)
    rw [hq]

end Store

/-- A ledger row is read back as it was. -/
theorem Database.Row.posting_ofPosting (p : Posting) : posting (ofPosting p) = .ok p := by
  simp [posting, ofPosting, uuid, big, status, text, time, get, cell, Status.ofName?_name,
    List.lookup_cons, bind, Except.bind, pure, Except.pure]

end FundsLedger
