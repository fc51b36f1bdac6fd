import FundsLedger.Proofs.Traffic.Steps
import Mathlib.Data.List.Induction

/-!
# Looking back over a run

Every response that a call has heard was given in one of its turns, by the store as it was then. So a
run can be cut at that turn, into what happened before it and what happened after. The main statement
is `exists_turn`.
-/

namespace FundsLedger

open Database (Answer Failure Response Row Statement)
open Time (Timestamp)
open Request (Sends)

/-- What a call is told of as answered was answered by the store. -/
theorem Delivery.tells_eq_ok {delivery : Delivery} {r : Response} {answer : Answer}
    (h : delivery.tells r = .ok answer) : delivery = .answered ∧ r = .ok answer := by
  cases delivery with
  | answered => exact ⟨rfl, h⟩
  | refused failure => cases h
  | lost failure => cases h

namespace Traffic

variable {t : Traffic} {k : Nat}

/-- The call of a number after an event is new, or is the one before, or has heard one more
response in a turn of its own. -/
theorem calls_step_cases {event : Event} {c' : Call} (hc' : (t.step event).calls[k]? = some c') :
    (∃ request, c' = { request }) ∨ t.calls[k]? = some c' ∨
    ∃ c s time delivery, event = .turn k time delivery ∧ t.calls[k]? = some c ∧
      Sends c.request c.heard s ∧ c' = c.hear (delivery.tells (t.store.respond time s).1) := by
  cases hc : t.calls[k]? with
  | some c =>
    rcases calls_step hc event with old | ⟨s, time, delivery, rfl, hs, turned⟩
    · exact .inr (.inl (old.symm.trans hc'))
    · rw [turned] at hc'
      cases hc'
      exact .inr (.inr ⟨c, s, time, delivery, rfl, rfl, hs, rfl⟩)
  | none =>
    rcases t.step_cases event with
      ⟨request, _, ht⟩ | ⟨k', c, s, time, delivery, _, _, _, ht⟩ | ht
    · rw [ht, List.getElem?_append_right (List.getElem?_eq_none_iff.mp hc)] at hc'
      exact .inl ⟨request, (List.mem_singleton.mp (List.mem_of_getElem? hc'))⟩
    · rw [ht, serve, List.getElem?_set] at hc'
      split at hc' <;> simp_all
    · rw [ht, hc] at hc'
      cases hc'

/-- The last response that a call has heard was given to it in one of its turns. -/
theorem exists_turn {store : Store} {events : List Event} {request : Request}
    {heard : List Response} {r : Response}
    (hc : (store.traffic events).calls[k]? = some ⟨request, heard ++ [r]⟩) :
    ∃ before time delivery after s, events = before ++ .turn k time delivery :: after ∧
      (store.traffic before).calls[k]? = some ⟨request, heard⟩ ∧ Sends request heard s ∧
      r = delivery.tells ((store.traffic before).store.respond time s).1 := by
  induction events using List.reverseRecOn with
  | nil => cases hc
  | append_singleton events event ih =>
    rw [Store.traffic, run_append] at hc
    rcases calls_step_cases hc with
      ⟨request', new⟩ | old | ⟨c, s, time, delivery, rfl, past, hs, heq⟩
    · simp at new
    · obtain ⟨before, time, delivery, after, s, rfl, rest⟩ := ih old
      exact ⟨before, time, delivery, after ++ [event], s, by simp, rest⟩
    · rcases c with ⟨request', heard'⟩
      obtain ⟨rfl, happend⟩ := Call.mk.inj heq
      obtain ⟨rfl, hr⟩ := List.append_inj' happend rfl
      cases hr
      exact ⟨events, time, delivery, [], s, rfl, past, hs, rfl⟩

end Traffic

end FundsLedger
