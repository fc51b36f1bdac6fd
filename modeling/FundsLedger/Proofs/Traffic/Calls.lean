import FundsLedger.Proofs.Ledger.Runs
import FundsLedger.Proofs.Traffic.Writes

/-!
# What a call has seen and sent

A call that has heard a row when it looked one up has seen the row that was there. It sends at most
one write, and once it has sent it, no other.
-/

namespace FundsLedger

open Database (Answer Program Response Row Statement)
open Time (Timestamp)
open Request (Sends)

namespace Call

variable {c : Call} {s : Statement} {p : Posting} {r : Response}

theorem next?_eq_none {result : Except LedgerError (List Entry)} (h : c.result? = some result) :
    c.next? = none :=
  Program.next?_eq_none h

theorem saw?_eq_some_iff : c.saw? = some p ↔
    ∃ r rs, c.heard = r :: rs ∧ firstRow Row.posting r = .ok (some p) := by
  unfold saw?
  cases c.heard with
  | nil => simp
  | cons r rs =>
    rw [List.head?_cons, Option.bind_some]
    cases h : firstRow Row.posting r with
    | error failure => simp [Except.toOption, h]
    | ok p? => simp [Except.toOption, h]

/-- A call that has sent the write `s`, whether or not it took effect. -/
inductive Wrote : Call → Statement → Prop
  | record {id d e r rs} : Wrote ⟨.record id d e, r :: rs⟩ (.insertPosting d id e)
  | move {d id next r p r' rs} (saw : firstRow Row.posting r = .ok (some p))
      (allowed : p.status.canMoveTo next = true) :
      Wrote ⟨.move d id next, r :: r' :: rs⟩ (.updateStatus d id p.status next)

theorem Wrote.hear (h : c.Wrote s) : (c.hear r).Wrote s := by
  cases h with
  | record => exact .record
  | move saw allowed => exact .move saw allowed

/-- A call that has sent its write sends no other. -/
theorem Wrote.not_write {store store' : Store} {time : Timestamp} {s' : Statement}
    (h : c.Wrote s) : ¬ Write store time c.request c.heard s' r store' := by
  intro write
  cases h with
  | record => cases write
  | move saw allowed => cases write

/-- A call that sees a row in its turn sees the one that is there. -/
theorem saw?_of_turn {store : Store} {time : Timestamp} {delivery : Delivery} {d : Direction}
    {id : Uuid} {next : Status} (hs : Sends c.request c.heard s)
    (request : c.request = .move d id next)
    (h : (c.hear (delivery.tells (store.respond time s).1)).saw? = some p) :
    c.saw? = some p ∨ store.posting? d id = some p := by
  rcases c with ⟨request', heard⟩
  cases request
  rcases saw?_eq_some_iff.mp h with ⟨r, rs, happend, saw⟩
  cases hs with
  | read =>
    cases happend
    cases delivery with
    | answered => exact .inr (Store.posting?_of_firstRow saw)
    | refused failure => cases saw
    | lost failure => cases saw
  | update saw' allowed =>
    cases happend
    exact .inl (saw?_eq_some_iff.mpr ⟨_, _, rfl, saw⟩)
  | confirm saw' allowed affected =>
    cases happend
    exact .inl (saw?_eq_some_iff.mpr ⟨_, _, rfl, saw⟩)

end Call

theorem Write.wrote {store store' : Store} {time : Timestamp} {request : Request}
    {heard : List Response} {s : Statement} {r : Response}
    (h : Write store time request heard s r store') (r' : Response) :
    Call.Wrote ⟨request, heard ++ [r']⟩ s := by
  cases h with
  | insert positive here fresh => exact .record
  | update saw allowed here target => exact .move saw allowed

end FundsLedger
