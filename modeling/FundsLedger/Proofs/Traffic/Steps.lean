import FundsLedger.Proofs.Traffic.Writes

/-!
# Events and runs

What one event does to the store and the commits is told by `write_step`, and what it does to the
calls by `calls_step`. What every event keeps holds after every run.
-/

namespace FundsLedger

open Database (Response Statement)
open Time (Timestamp)
open Request (Sends)

namespace Traffic

variable {t : Traffic} {k : Nat} {c : Call} {s : Statement} {time : Timestamp}
  {delivery : Delivery}

/-- The event is a turn in which the write `m` takes effect. Its call has heard some responses
before, and the store gives the response `r`. -/
structure Written (t : Traffic) (event : Event) (m : Commit) (heard : List Response)
    (r : Response) : Prop where
  turn : ∃ delivery, event = .turn m.call m.time delivery
  call : t.calls[m.call]? = some ⟨m.request, heard⟩
  respond : t.store.respond m.time m.statement = (r, (t.step event).store)
  write : Write t.store m.time m.request heard m.statement r (t.step event).store
  commits : (t.step event).commits = t.commits ++ [m]

/-- An event is an arrival, a turn of a call that sends a statement, or nothing. -/
theorem step_cases (t : Traffic) (event : Event) :
    (∃ request, event = .arrival request ∧
      t.step event = { t with calls := t.calls ++ [{ request }] }) ∨
    (∃ k c s time delivery, event = .turn k time delivery ∧ t.calls[k]? = some c ∧
      Sends c.request c.heard s ∧ t.step event = t.serve k c s time delivery) ∨
    t.step event = t := by
  cases event with
  | arrival request => exact .inl ⟨request, rfl, rfl⟩
  | turn k time delivery =>
    cases hc : t.calls[k]? with
    | none => exact .inr (.inr (by simp only [step, hc]))
    | some c =>
      cases hs : c.next? with
      | none => exact .inr (.inr (by simp only [step, hc, hs]))
      | some s =>
        refine .inr (.inl ⟨k, c, s, time, delivery, rfl, hc, ?_, by simp only [step, hc, hs]⟩)
        exact Request.next?_eq_some_iff.mp hs

theorem step_turn (hc : t.calls[k]? = some c) (hs : Sends c.request c.heard s) :
    t.step (.turn k time delivery) = t.serve k c s time delivery := by
  have hnext : c.next? = some s := hs.next?
  simp only [step, hc, hnext]

/-- An event writes nothing, or something is written in it. -/
theorem write_step (t : Traffic) (event : Event) :
    ((t.step event).store = t.store ∧ (t.step event).commits = t.commits) ∨
      ∃ m heard r, t.Written event m heard r := by
  rcases t.step_cases event with ⟨request, _, ht⟩ | ⟨k, c, s, time, delivery, he, hc, hs, ht⟩ | ht
  · rw [ht]
    exact .inl ⟨rfl, rfl⟩
  · have hserve := ht
    rw [serve] at hserve
    cases reaches : delivery.reaches with
    | false =>
      rw [hserve, reaches]
      exact .inl ⟨rfl, rfl⟩
    | true =>
      rcases hs.respond_cases t.store time with ⟨idle, hstore⟩ | ⟨r, store', hr, write⟩
      · rw [hserve, reaches, idle]
        exact .inl ⟨hstore, rfl⟩
      · rw [reaches, hr, write.takesEffect] at hserve
        refine .inr ⟨⟨k, c.request, s, time⟩, c.heard, r, ?_⟩
        have hstore : (t.step event).store = store' := by rw [hserve]; rfl
        exact {
          turn := ⟨delivery, he⟩
          call := hc
          respond := by rw [hstore]; exact hr
          write := by rw [hstore]; exact write
          commits := by rw [hserve]; rfl }
  · rw [ht]
    exact .inl ⟨rfl, rfl⟩

theorem calls_turn (hc : t.calls[k]? = some c) (hs : Sends c.request c.heard s) :
    (t.step (.turn k time delivery)).calls[k]? =
      some (c.hear (delivery.tells (t.store.respond time s).1)) := by
  rw [step_turn hc hs]
  exact List.getElem?_set_self (List.getElem?_eq_some_iff.mp hc).1

theorem Written.calls {event : Event} {m : Commit} {heard : List Response} {r : Response}
    (h : t.Written event m heard r) :
    ∃ delivery, event = .turn m.call m.time delivery ∧
      (t.step event).calls[m.call]? = some ⟨m.request, heard ++ [delivery.tells r]⟩ := by
  rcases h.turn with ⟨delivery, rfl⟩
  have hcalls := @calls_turn t m.call ⟨m.request, heard⟩ m.statement m.time delivery h.call
    h.write.sends
  rw [h.respond] at hcalls
  exact ⟨delivery, rfl, hcalls⟩

/-- A call is left as it is but for its own turns, in which it hears one more response. -/
theorem calls_step (hc : t.calls[k]? = some c) (event : Event) :
    (t.step event).calls[k]? = some c ∨
    ∃ s time delivery, event = .turn k time delivery ∧ Sends c.request c.heard s ∧
      (t.step event).calls[k]? = some (c.hear (delivery.tells (t.store.respond time s).1)) := by
  rcases t.step_cases event with
    ⟨request, _, ht⟩ | ⟨k', c', s, time, delivery, rfl, hc', hs, ht⟩ | ht
  · rw [ht]
    exact .inl ((List.getElem?_append_left (List.getElem?_eq_some_iff.mp hc).1).trans hc)
  · by_cases hk : k' = k
    · subst hk
      rw [hc] at hc'
      cases hc'
      exact .inr ⟨s, time, delivery, rfl, hs, calls_turn hc hs⟩
    · rw [ht]
      exact .inl ((List.getElem?_set_ne hk).trans hc)
  · rw [ht]
    exact .inl hc

/-- Every call after an event is new, or was there before, or has heard one more response. -/
theorem mem_calls_step {event : Event} {c' : Call} (hc' : c' ∈ (t.step event).calls) :
    (∃ request, c' = { request }) ∨ c' ∈ t.calls ∨
    ∃ c ∈ t.calls, ∃ (s : Statement) (time : Timestamp) (delivery : Delivery),
      Sends c.request c.heard s ∧ c' = c.hear (delivery.tells (t.store.respond time s).1) := by
  rcases t.step_cases event with
    ⟨request, _, ht⟩ | ⟨k, c, s, time, delivery, _, hc, hs, ht⟩ | ht
  · rw [ht] at hc'
    rcases List.mem_append.mp hc' with old | new
    · exact .inr (.inl old)
    · exact .inl ⟨request, List.mem_singleton.mp new⟩
  · rw [ht] at hc'
    rcases List.mem_or_eq_of_mem_set hc' with old | rfl
    · exact .inr (.inl old)
    · exact .inr (.inr ⟨c, List.mem_of_getElem? hc, s, time, delivery, hs, rfl⟩)
  · rw [ht] at hc'
    exact .inr (.inl hc')

theorem run_append (t : Traffic) (events more : List Event) :
    t.run (events ++ more) = (t.run events).run more :=
  List.foldl_append

/-- What holds at the start and is kept by every event of a run holds after it. -/
theorem run_induction {P : Traffic → Prop} {events : List Event}
    (keep : ∀ t, ∀ event ∈ events, P t → P (t.step event)) (h : P t) : P (t.run events) := by
  induction events generalizing t with
  | nil => exact h
  | cons event events ih =>
    refine ih (fun t event' hmem => keep t event' (List.mem_cons_of_mem _ hmem)) ?_
    exact keep t event List.mem_cons_self h

end Traffic

theorem Store.traffic_append (store : Store) (events more : List Event) :
    store.traffic (events ++ more) = (store.traffic events).run more :=
  Traffic.run_append _ events more

end FundsLedger
