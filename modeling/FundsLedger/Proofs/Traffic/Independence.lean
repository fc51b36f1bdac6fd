import FundsLedger.Proofs.Store.Agreement
import FundsLedger.Proofs.Traffic.Lifecycle

/-!
# Rows do not interfere

A request to record, find or move is about one row. Deleting all calls on other rows from a run leaves
the calls on that row and the row itself as they were, whatever is deleted and however the statements
were mixed. So only the order of the statements of calls on the same row matters. The main statement
is `rows_independent`.
-/

namespace FundsLedger

open Database (Response Statement)
open Time (Timestamp)
open Request (Sends)

/-- The row that a request is about. A listing is about no single row. -/
def Request.row? : Request → Option (Direction × Uuid)
  | record id d _ | find d id | move d id _ => some (d, id)
  | list .. => none

def Request.concerns (d : Direction) (id : Uuid) (request : Request) : Bool :=
  request.row? = some (d, id)

theorem Request.concerns_iff {d : Direction} {id : Uuid} {request : Request} :
    request.concerns d id = true ↔ request.row? = some (d, id) :=
  decide_eq_true_iff

namespace Event

def arriving : Event → List Request
  | arrival request => [request]
  | turn .. => []

/-- What is left of an event when all calls on other rows are deleted, where some requests have
arrived before it. The calls that are left are numbered anew. -/
def kept (d : Direction) (id : Uuid) (arrived : List Request) : Event → List Event
  | arrival request => if request.concerns d id then [arrival request] else []
  | turn k time delivery =>
    if arrived[k]?.any (·.concerns d id) then
      [turn ((arrived.take k).countP (·.concerns d id)) time delivery]
    else []

def only (d : Direction) (id : Uuid) (arrived : List Request) : List Event → List Event
  | [] => []
  | event :: events => event.kept d id arrived ++ only d id (arrived ++ event.arriving) events

variable {d : Direction} {id : Uuid} {arrived : List Request}

theorem only_append (events more : List Event) :
    only d id arrived (events ++ more) =
      only d id arrived events ++ only d id (arrived ++ events.flatMap arriving) more := by
  induction events generalizing arrived with
  | nil => simp [only]
  | cons event events ih => simp [only, ih]

end Event

/-! ### What one statement does to a row -/

section

variable {store store' : Store} {time : Timestamp} {request : Request} {heard : List Response}
  {s : Statement} {r : Response} {d : Direction} {id : Uuid}

/-- What a call on a row sends is answered alike by stores that agree on the row. -/
theorem Request.Sends.alike (hs : Sends request heard s) (about : request.concerns d id = true)
    (h : store.Agree d id store') (time : Timestamp) : store.Alike d id time s store' := by
  have row := concerns_iff.mp about
  cases hs with
  | @insert id' d' e positive =>
    cases row
    exact h.insertPosting time e
  | look =>
    cases row
    exact h.selectById time
  | list => cases row
  | read =>
    cases row
    exact h.selectById time
  | @update d' id' next r p saw allowed =>
    cases row
    exact h.updateStatus time p.status next
  | confirm saw allowed affected =>
    cases row
    exact h.selectById time

theorem Write.agree_of_other (h : Write store time request heard s r store')
    (other : request.concerns d id = false) : store.Agree d id store' := by
  have row : request.row? ≠ some (d, id) := of_decide_eq_false other
  cases h with
  | insert positive here fresh =>
    exact Store.Agree.appendRow_of_other here fun same => row (congrArg some same)
  | update saw allowed here target =>
    exact Store.Agree.turned_of_other here fun same => row (congrArg some same)

theorem Request.Sends.agree_of_other (hs : Sends request heard s)
    (other : request.concerns d id = false) (store : Store) (time : Timestamp) :
    store.Agree d id (store.respond time s).2 := by
  rcases hs.respond_cases store time with ⟨_, idle⟩ | ⟨r, store', hr, write⟩
  · rw [idle]
    exact .refl d id store
  · rw [hr]
    exact write.agree_of_other other

end

/-! ### The calls on one row -/

theorem getElem?_filter {α : Type} {q : α → Bool} {l : List α} {k : Nat} {a : α}
    (h : l[k]? = some a) (keep : q a = true) : (l.filter q)[(l.take k).countP q]? = some a := by
  induction l generalizing k with
  | nil => cases h
  | cons b l ih =>
    cases k with
    | zero =>
      cases h
      simp [keep]
    | succ k =>
      have rest := ih h
      by_cases hb : q b = true
      · simp [hb, rest]
      · simp [hb, rest]

theorem filter_set {α : Type} {q : α → Bool} {l : List α} {k : Nat} {a b : α}
    (h : l[k]? = some a) (same : q b = q a) :
    (l.set k b).filter q =
      if q a = true then (l.filter q).set ((l.take k).countP q) b else l.filter q := by
  induction l generalizing k with
  | nil => cases h
  | cons x l ih =>
    cases k with
    | zero =>
      cases h
      by_cases ha : q a = true <;> simp [ha, same]
    | succ k =>
      have rest := ih h
      by_cases hx : q x = true <;> by_cases ha : q a = true <;> simp [hx, ha, rest]

namespace Traffic

def callsOn (t : Traffic) (d : Direction) (id : Uuid) : List Call :=
  t.calls.filter (·.request.concerns d id)

/-- One traffic is what is left of another when all calls on other rows are deleted. -/
structure Leaves (d : Direction) (id : Uuid) (t alone : Traffic) : Prop where
  calls : alone.calls = t.callsOn d id
  store : t.store.Agree d id alone.store

variable {t alone : Traffic} {d : Direction} {id : Uuid} {k : Nat} {c : Call} {time : Timestamp}
  {delivery : Delivery}

theorem requests_step (t : Traffic) (event : Event) :
    (t.step event).calls.map Call.request = t.calls.map Call.request ++ event.arriving := by
  cases event with
  | arrival request => simp [step, Event.arriving]
  | turn k time delivery =>
    rcases t.step_cases (.turn k time delivery) with
      ⟨request, he, _⟩ | ⟨k', c, s, time', delivery', _, hc, _, ht⟩ | ht
    · cases he
    · obtain ⟨hk, rfl⟩ := List.getElem?_eq_some_iff.mp hc
      rw [ht, Event.arriving, List.append_nil]
      calc (t.serve k' t.calls[k'] s time' delivery').calls.map Call.request
          = (t.calls.map Call.request).set k' t.calls[k'].request := List.map_set
        _ = (t.calls.set k' t.calls[k']).map Call.request := List.map_set.symm
        _ = t.calls.map Call.request := by rw [List.set_getElem_self]
    · rw [ht]
      simp [Event.arriving]

theorem requests_run (t : Traffic) (events : List Event) :
    (t.run events).calls.map Call.request =
      t.calls.map Call.request ++ events.flatMap Event.arriving := by
  induction events generalizing t with
  | nil => simp [run]
  | cons event events ih =>
    rw [run, List.foldl_cons, ← run, ih, requests_step]
    simp

theorem countP_requests (t : Traffic) (d : Direction) (id : Uuid) (k : Nat) :
    ((t.calls.map Call.request).take k).countP (·.concerns d id) =
      (t.calls.take k).countP (·.request.concerns d id) := by
  rw [← List.map_take, List.countP_map]
  rfl

/-- A turn of a call on the row is taken by the same call among those that are left. -/
theorem Leaves.turn (h : t.Leaves d id alone) (hc : t.calls[k]? = some c)
    (about : c.request.concerns d id = true) (time : Timestamp) (delivery : Delivery) :
    (t.step (.turn k time delivery)).Leaves d id
      (alone.step (.turn ((t.calls.take k).countP (·.request.concerns d id)) time delivery)) := by
  have same : alone.calls[(t.calls.take k).countP (·.request.concerns d id)]? = some c := by
    rw [h.calls]
    exact getElem?_filter hc about
  cases hnext : c.next? with
  | none =>
    simp only [step, hc, same, hnext]
    exact h
  | some s =>
    have hs : Sends c.request c.heard s := Request.next?_eq_some_iff.mp hnext
    rw [step_turn hc hs, step_turn same hs]
    obtain ⟨response, agree⟩ := hs.alike about h.store time
    constructor
    case calls =>
      have told := @filter_set _ (·.request.concerns d id) _ _ _
        (c.hear (delivery.tells (t.store.respond time s).1)) hc rfl
      rw [if_pos about] at told
      simp only [serve, callsOn, ← response, h.calls, told]
    case store =>
      simp only [serve]
      split
      · exact agree
      · exact h.store

/-- A turn of a call on another row can be deleted. -/
theorem Leaves.turn_of_other (h : t.Leaves d id alone) (hc : t.calls[k]? = some c)
    (other : c.request.concerns d id = false) (time : Timestamp) (delivery : Delivery) :
    (t.step (.turn k time delivery)).Leaves d id alone := by
  cases hnext : c.next? with
  | none =>
    simp only [step, hc, hnext]
    exact h
  | some s =>
    have hs : Sends c.request c.heard s := Request.next?_eq_some_iff.mp hnext
    rw [step_turn hc hs]
    constructor
    case calls =>
      have told := @filter_set _ (·.request.concerns d id) _ _ _
        (c.hear (delivery.tells (t.store.respond time s).1)) hc rfl
      rw [other, if_neg Bool.false_ne_true] at told
      simp only [serve, callsOn, h.calls, told]
    case store =>
      simp only [serve]
      split
      · exact (hs.agree_of_other other t.store time).symm.trans h.store
      · exact h.store

theorem Leaves.step (h : t.Leaves d id alone) (event : Event) :
    (t.step event).Leaves d id (alone.run (event.kept d id (t.calls.map Call.request))) := by
  cases event with
  | arrival request =>
    by_cases about : request.concerns d id = true
    · rw [Event.kept, if_pos about]
      exact ⟨by simp [run, Traffic.step, callsOn, h.calls, about], h.store⟩
    · rw [Event.kept, if_neg about]
      exact ⟨by simp [run, Traffic.step, callsOn, h.calls, about], h.store⟩
  | turn k time delivery =>
    rw [Event.kept, countP_requests, List.getElem?_map]
    cases hc : t.calls[k]? with
    | none =>
      simp only [Traffic.step, hc]
      exact h
    | some c =>
      by_cases about : c.request.concerns d id = true
      · rw [if_pos (by simpa using about)]
        exact h.turn hc about time delivery
      · rw [if_neg (by simpa using about)]
        exact h.turn_of_other hc (Bool.not_eq_true _ ▸ about) time delivery

/-- What is left of a run when all calls on other rows are deleted leads to what is left of its
traffic. -/
theorem Leaves.run (h : t.Leaves d id alone) (events : List Event) :
    (t.run events).Leaves d id
      (alone.run (Event.only d id (t.calls.map Call.request) events)) := by
  induction events generalizing t alone with
  | nil => exact h
  | cons event events ih =>
    rw [Event.only, run_append, ← requests_step]
    exact ih (h.step event)

variable {store store' : Store} {events events' : List Event}

theorem requests_traffic (store : Store) (events : List Event) :
    (store.traffic events).calls.map Call.request = events.flatMap Event.arriving :=
  requests_run _ events

theorem leaves_traffic (h : store.Agree d id store') (events : List Event) :
    (store.traffic events).Leaves d id (store'.traffic (Event.only d id [] events)) :=
  @Leaves.run { store } { store := store' } d id ⟨rfl, h⟩ events

/-- Runs of which the same is left for a row, at stores that agree on the row, have the same calls on
the row and lead to the same row. -/
theorem same_of_only (h : store.Agree d id store')
    (same : Event.only d id [] events = Event.only d id [] events') :
    (store.traffic events).callsOn d id = (store'.traffic events').callsOn d id ∧
      (store.traffic events).store.posting? d id =
        (store'.traffic events').store.posting? d id := by
  have left := leaves_traffic (.refl d id store) events
  have right := leaves_traffic h.symm events'
  rw [← same] at right
  exact ⟨left.calls.symm.trans right.calls, left.store.posting?_eq.trans right.store.posting?_eq.symm⟩

/-! ### Turns of calls on different rows -/

def TurnOn (t : Traffic) (d : Direction) (id : Uuid) (event : Event) : Prop :=
  ∃ k c time delivery, event = .turn k time delivery ∧ t.calls[k]? = some c ∧
    c.request.concerns d id = true

variable {d' : Direction} {id' : Uuid} {xs ys : List Event}

theorem arriving_eq_nil (turns : ∀ event ∈ xs, t.TurnOn d id event) :
    xs.flatMap Event.arriving = [] := by
  refine List.flatMap_eq_nil_iff.mpr fun event hmem => ?_
  obtain ⟨k, c, time, delivery, rfl, _⟩ := turns event hmem
  rfl

theorem only_eq_nil (turns : ∀ event ∈ xs, t.TurnOn d' id' event) (other : (d', id') ≠ (d, id)) :
    Event.only d id (t.calls.map Call.request) xs = [] := by
  induction xs with
  | nil => rfl
  | cons event xs ih =>
    obtain ⟨k, c, time, delivery, rfl, hc, about⟩ := turns event List.mem_cons_self
    have away : c.request.concerns d id = false := by
      refine decide_eq_false fun row => other ?_
      exact Option.some.inj ((Request.concerns_iff.mp about).symm.trans row)
    have rest := ih fun event hmem => turns event (List.mem_cons_of_mem _ hmem)
    rw [Event.only, Event.arriving, List.append_nil, rest, Event.kept, List.getElem?_map, hc]
    simp [away]

theorem only_append_comm (turns : ∀ event ∈ xs, t.TurnOn d id event)
    (turns' : ∀ event ∈ ys, t.TurnOn d' id' event) (other : (d, id) ≠ (d', id')) (e : Direction)
    (i : Uuid) :
    Event.only e i (t.calls.map Call.request) (xs ++ ys) =
      Event.only e i (t.calls.map Call.request) (ys ++ xs) := by
  rw [Event.only_append, Event.only_append, arriving_eq_nil turns, arriving_eq_nil turns',
    List.append_nil]
  -- One of the two is on another row than the one that is left.
  by_cases row : (d, id) = (e, i)
  · rw [only_eq_nil turns' fun row' => other (row.trans row'.symm), List.append_nil,
      List.nil_append]
  · rw [only_eq_nil turns row, List.append_nil, List.nil_append]

theorem getElem?_of_callsOn {t' : Traffic}
    (requests : t.calls.map Call.request = t'.calls.map Call.request)
    (same : t.callsOn d id = t'.callsOn d id) (hc : t.calls[k]? = some c)
    (about : c.request.concerns d id = true) : t'.calls[k]? = some c := by
  have request : (t'.calls.map Call.request)[k]? = some c.request := by
    rw [← requests, List.getElem?_map, hc]
    rfl
  rw [List.getElem?_map, Option.map_eq_some_iff] at request
  obtain ⟨c', hc', hrequest⟩ := request
  have place := getElem?_filter (q := (·.request.concerns d id)) hc about
  have place' := getElem?_filter (q := (·.request.concerns d id)) hc' (hrequest ▸ about)
  rw [← countP_requests, requests, countP_requests] at place
  change (t.callsOn d id)[_]? = _ at place
  change (t'.callsOn d id)[_]? = _ at place'
  rw [same, place'] at place
  rw [hc', place]

end Traffic

/-- Deleting all calls on other rows from a run changes neither what the calls on a row hear nor the
row in the end. The row and its calls are the same in any two runs that have the same left for the row,
at stores that agree on it. So turns of calls on different rows can be swapped, and neither any call
nor any row can tell. -/
theorem rows_independent (store : Store) (events : List Event) :
    (∀ d id,
      let alone := store.traffic (Event.only d id [] events)
      alone.calls = (store.traffic events).callsOn d id ∧
        alone.store.posting? d id = (store.traffic events).store.posting? d id) ∧
    (∀ d id (store' : Store) (events' : List Event), store.Agree d id store' →
      Event.only d id [] events = Event.only d id [] events' →
        (store.traffic events).callsOn d id = (store'.traffic events').callsOn d id ∧
        (store.traffic events).store.posting? d id =
          (store'.traffic events').store.posting? d id) ∧
    ∀ before xs ys after d id d' id', events = before ++ (xs ++ ys) ++ after →
      (d, id) ≠ (d', id') → (∀ event ∈ xs, (store.traffic before).TurnOn d id event) →
      (∀ event ∈ ys, (store.traffic before).TurnOn d' id' event) →
        let swapped := store.traffic (before ++ (ys ++ xs) ++ after)
        (∀ (k : Nat) (c : Call), c.request.row? ≠ none →
          ((store.traffic events).calls[k]? = some c ↔ swapped.calls[k]? = some c)) ∧
        ∀ e i, (store.traffic events).store.posting? e i = swapped.store.posting? e i := by
  refine ⟨fun d id => ?_, fun d id store' events' agree same => Traffic.same_of_only agree same, ?_⟩
  · have left := Traffic.leaves_traffic (.refl d id store) events
    exact ⟨left.calls, left.store.posting?_eq.symm⟩
  rintro before xs ys after d id d' id' rfl other turns turns' swapped
  have requests : (before ++ (xs ++ ys) ++ after).flatMap Event.arriving =
      (before ++ (ys ++ xs) ++ after).flatMap Event.arriving := by
    simp only [List.flatMap_append, Traffic.arriving_eq_nil turns, Traffic.arriving_eq_nil turns']
  have only : ∀ e i, Event.only e i [] (before ++ (xs ++ ys) ++ after) =
      Event.only e i [] (before ++ (ys ++ xs) ++ after) := by
    intro e i
    have comm := Traffic.only_append_comm turns turns' other e i
    rw [Traffic.requests_traffic] at comm
    simp only [Event.only_append _ after, Event.only_append before, List.nil_append, comm,
      List.flatMap_append, Traffic.arriving_eq_nil turns, Traffic.arriving_eq_nil turns']
  have same := fun e i => Traffic.same_of_only (.refl e i store) (only e i)
  rw [← Traffic.requests_traffic store, ← Traffic.requests_traffic store] at requests
  refine ⟨fun k c about => ?_, fun e i => (same e i).2⟩
  obtain ⟨⟨e, i⟩, row⟩ := Option.ne_none_iff_exists'.mp about
  have concerns : c.request.concerns e i = true := Request.concerns_iff.mpr row
  exact ⟨fun hc => Traffic.getElem?_of_callsOn requests (same e i).1 hc concerns,
    fun hc => Traffic.getElem?_of_callsOn requests.symm (same e i).1.symm hc concerns⟩

namespace Race

/-- A withdrawal with the id of the deposit is asked for, and the deposit has been read. -/
def arrived : List Event :=
  [.arrival (.move .deposit row .completed), .arrival (.record row .withdrawal asked),
    .turn 0 (time 40) .answered]

def recorded : List Event :=
  [.turn 1 (time 41) .answered]

def completed : List Event :=
  [.turn 0 (time 42) .answered]

def confirmed : List Event :=
  [.turn 0 (time 43) .answered]

def undisturbed : List Event :=
  [.arrival (.move .deposit row .completed), .turn 0 (time 40) .answered,
    .turn 0 (time 42) .answered, .turn 0 (time 43) .answered]

end Race

/-- The deposit is moved in the same way where there is not even a table of withdrawals, and whether
the withdrawal is recorded first or last. -/
theorem rows_independent_swapped :
    let lone : Store := { Race.store with withdrawals := none }
    let events := Race.arrived ++ (Race.recorded ++ Race.completed) ++ Race.confirmed
    let swapped := Race.arrived ++ (Race.completed ++ Race.recorded) ++ Race.confirmed
    let before := Race.store.traffic Race.arrived
    Race.store.Agree .deposit Race.row lone ∧
      Event.only .deposit Race.row [] events = Event.only .deposit Race.row [] Race.undisturbed ∧
      (∀ event ∈ Race.recorded, before.TurnOn .withdrawal Race.row event) ∧
      (∀ event ∈ Race.completed, before.TurnOn .deposit Race.row event) ∧
      (Race.store.traffic events).store.posting? .deposit Race.row =
        some (Race.deposit .completed (Race.time 42)) ∧
      (Race.store.traffic swapped).store.posting? .withdrawal Race.row =
        some (Race.asked.stored Race.row (Race.time 41)) := by
  intro lone events swapped before
  obtain ⟨_, two, swap⟩ := rows_independent Race.store events
  have agree : Race.store.Agree .deposit Race.row lone := ⟨rfl, rfl, rfl, rfl⟩
  have same : Event.only .deposit Race.row [] events =
      Event.only .deposit Race.row [] Race.undisturbed := by decide
  have recorded : ∀ event ∈ Race.recorded, before.TurnOn .withdrawal Race.row event := by
    intro event hmem
    exact ⟨1, _, _, _, List.mem_singleton.mp hmem, rfl, rfl⟩
  have completed : ∀ event ∈ Race.completed, before.TurnOn .deposit Race.row event := by
    intro event hmem
    exact ⟨0, _, _, _, List.mem_singleton.mp hmem, rfl, rfl⟩
  have alone := (two .deposit Race.row lone Race.undisturbed agree same).2
  have moved := (swap Race.arrived Race.recorded Race.completed Race.confirmed _ _ _ _ rfl
    (by decide) recorded completed).2 .withdrawal Race.row
  refine ⟨agree, same, recorded, completed, alone.trans (by decide), moved.symm.trans (by decide)⟩

end FundsLedger
