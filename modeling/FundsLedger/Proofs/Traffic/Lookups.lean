import FundsLedger.Proofs.Traffic.Calls
import FundsLedger.Proofs.Traffic.Lifecycle

/-!
# Rows that were looked up before

The lifecycle has no cycle: each of its steps raises the rank of a row. So once a row has left the
status in which it was looked up, no row of its id is found in that status again. The main statement
is `Since.write`.
-/

namespace FundsLedger

open Database (Answer Failure Response Row Statement)
open Time (Timestamp)
open Request (Sends)

def Status.rank : Status → Nat
  | .created => 0
  | .pending => 1
  | .completed | .failed => 2

theorem Status.rank_lt_of_canMoveTo {s next : Status} (h : s.canMoveTo next = true) :
    s.rank < next.rank := by
  cases s <;> cases next <;> first | decide | cases h

theorem Posting.Next.rank_le {p q : Posting} (h : p.Next q) : p.status.rank ≤ q.status.rank := by
  cases h with
  | same => exact Nat.le_refl _
  | moved time allowed => exact Nat.le_of_lt (Status.rank_lt_of_canMoveTo allowed)

namespace Store

def Left (store : Store) (d : Direction) (id : Uuid) (s : Status) : Prop :=
  ∀ q ∈ store.postings d, q.id = id → q.status ≠ s

/-- What has become of a row that was looked up: it is the same still, or it has moved on, and then
its former status was left for good. -/
def Since (store : Store) (d : Direction) (id : Uuid) (p : Posting) : Prop :=
  ∃ q, store.posting? d id = some q ∧
    (q = p ∨ p.status.rank < q.status.rank ∧ store.Left d id p.status)

variable {store : Store} {d d' : Direction} {id id' : Uuid} {p p' : Posting} {time : Timestamp}
  {table : Relation Posting} {next : Status}

/-- Where a row of the id has the status that was seen, the row that was seen is there. -/
theorem Since.posting?_eq (h : store.Since d id p) {r : Posting} (hr : r ∈ store.postings d)
    (hid : r.id = id) (hstatus : r.status = p.status) : store.posting? d id = some p := by
  rcases h with ⟨q, hq, rfl | ⟨_, left⟩⟩
  · exact hq
  · exact absurd hstatus (left r hr hid)

theorem Since.appendRow (h : store.Since d id p) (here : store.ledger d' = some table)
    (fresh : p'.id ∉ table.rows.map Posting.id) :
    (store.setLedger d' (some (Store.appendRow table p'))).Since d id p := by
  rcases h with ⟨q, hq, hp⟩
  refine ⟨q, ?_, hp.imp_right fun ⟨hlt, left⟩ => ⟨hlt, fun r hr hid => ?_⟩⟩
  · rw [posting?_appendRow here]
    split
    · rename_i hd
      rw [← hd, hq, Option.some_or]
    · exact hq
  · rw [postings_setLedger] at hr
    split at hr
    · rename_i hd
      subst hd
      rw [Store.appendRow, List.mem_append, List.mem_singleton,
        ← postings_of_ledger here] at hr
      rcases hr with hr | rfl
      · exact left r hr hid
      · rw [hid, ← id_of_posting? hq, ← postings_of_ledger here] at fresh
        exact absurd (List.mem_map_of_mem (mem_of_posting? hq)) fresh
    · exact left r hr hid

theorem Since.turned_of_ne {expected : Status} (h : store.Since d id p)
    (here : store.ledger d' = some table) (other : d = d' → id ≠ id') :
    (store.setLedger d' (some { table with
      rows := table.rows.map (turned time id' expected next) })).Since d id p := by
  rcases h with ⟨q, hq, hp⟩
  refine ⟨q, ?_, hp.imp_right fun ⟨hlt, left⟩ => ⟨hlt, fun r hr hid => ?_⟩⟩
  · rw [posting?_turned here]
    split
    · rename_i hd
      have hne : q.id ≠ id' := id_of_posting? hq ▸ other hd
      rw [← hd, hq, Option.map_some, Store.turned_of_ne hne]
    · exact hq
  · rw [postings_setLedger] at hr
    split at hr
    · rename_i hd
      rcases List.mem_map.mp hr with ⟨r', hr', rfl⟩
      rw [turned_id] at hid
      rw [Store.turned_of_ne (hid ▸ other hd)]
      exact left r' (by rw [hd, postings_of_ledger here]; exact hr') hid
    · exact left r hr hid

theorem Since.turned (h : store.Since d id p) (here : store.ledger d = some table)
    (hp' : store.posting? d id = some p') (allowed : p'.status.canMoveTo next = true) :
    (store.setLedger d (some { table with
      rows := table.rows.map (turned time id p'.status next) })).Since d id p := by
  rcases h with ⟨q, hq, hp⟩
  rw [hp'] at hq
  cases hq
  have hlt : p'.status.rank < next.rank := Status.rank_lt_of_canMoveTo allowed
  have hle : p.status.rank ≤ p'.status.rank := by
    rcases hp with rfl | ⟨hlt', _⟩
    · exact Nat.le_refl _
    · exact Nat.le_of_lt hlt'
  refine ⟨moved time next p', ?_, .inr ⟨Nat.lt_of_le_of_lt hle hlt, fun r hr hid => ?_⟩⟩
  · rw [posting?_turned here, if_pos rfl, hp', Option.map_some, Store.turned,
      if_pos (isTarget_iff.mpr ⟨id_of_posting? hp', rfl⟩)]
  · rw [postings_setLedger, if_pos rfl] at hr
    rcases List.mem_map.mp hr with ⟨r', hr', rfl⟩
    unfold Store.turned at hid ⊢
    split at hid
    · -- A row that was turned has a status of higher rank.
      rename_i target
      rw [if_pos target]
      intro heq
      have hnext : next.rank = p.status.rank := congrArg Status.rank heq
      omega
    · rename_i target
      rw [if_neg target]
      rcases hp with rfl | ⟨_, left⟩
      · exact fun heq => target (isTarget_iff.mpr ⟨hid, heq⟩)
      · exact left r' (by rw [postings_of_ledger here]; exact hr') hid

/-- What is known of a row that was looked up outlasts the write of a call that knows as much. -/
theorem Since.write {store' : Store} {request : Request} {heard : List Response} {s : Statement}
    {r : Response} (h : store.Since d id p) (hw : Write store time request heard s r store')
    (sender : ∀ d' id' next r p', request = .move d' id' next → heard = [r] →
      firstRow Row.posting r = .ok (some p') → store.Since d' id' p') : store'.Since d id p := by
  cases hw with
  | insert positive here fresh => exact h.appendRow here fresh
  | @update d' id' next r p' table saw allowed here target =>
    rcases target with ⟨q, hq, htarget⟩
    rcases isTarget_iff.mp htarget with ⟨hid, hstatus⟩
    have hp' : store.posting? d' id' = some p' :=
      (sender d' id' next r p' rfl rfl saw).posting?_eq (by rw [postings_of_ledger here]; exact hq)
        hid hstatus
    by_cases same : d = d' ∧ id = id'
    · rcases same with ⟨rfl, rfl⟩
      exact h.turned here hp' allowed
    · exact h.turned_of_ne here fun hd hid' => same ⟨hd, hid'⟩

end Store

end FundsLedger
