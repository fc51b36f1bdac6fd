import FundsLedger.Proofs.Traffic.Course
import FundsLedger.Proofs.Traffic.Winners

/-!
# Times of rows

A row is stamped when it is recorded, and stamped anew when its status is changed, each time with the
time of the statement that does it. No statement stamps a row for any other reason. So where the
times of the statements do not decrease, neither do the times of a row. The main statement is
`timestamps_consistent`.
-/

namespace FundsLedger

open Database (Response Statement)
open Time (Timestamp)

/-- The lifecycle has no step that leads nowhere. -/
theorem Status.ne_of_canMoveTo {s next : Status} (h : s.canMoveTo next = true) : next ≠ s := by
  intro same
  have rises := rank_lt_of_canMoveTo h
  rw [same] at rises
  exact Nat.lt_irrefl _ rises

namespace Traffic

/-- When the store carries out a statement in an event, if it carries one out. -/
def time? (t : Traffic) : Event → Option Timestamp
  | .arrival _ => none
  | .turn k time delivery =>
    if delivery.reaches then (t.calls[k]?.bind Call.next?).map fun _ => time else none

def times (t : Traffic) : List Event → List Timestamp
  | [] => []
  | event :: events => (t.time? event).toList ++ (t.step event).times events

variable {t : Traffic}

theorem times_append (events more : List Event) :
    t.times (events ++ more) = t.times events ++ (t.run events).times more := by
  induction events generalizing t with
  | nil => rfl
  | cons event events ih =>
    rw [List.cons_append, times, times, ih, List.append_assoc]
    rfl

theorem Written.time? {event : Event} {m : Commit} {heard : List Response} {r : Response}
    (h : t.Written event m heard r) : t.time? event = some m.time := by
  rcases h.turn with ⟨delivery, rfl⟩
  have next : Call.next? ⟨m.request, heard⟩ = some m.statement := h.write.sends.next?
  have reaches : delivery.reaches = true := by
    by_contra lost
    have commits := h.commits
    rw [step_turn h.call h.write.sends] at commits
    simp [serve, lost] at commits
  simp [Traffic.time?, reaches, h.call, next]

end Traffic

/-- Every row was created no later than it was last changed, which is when a statement was carried
out. -/
def Store.Dated (store : Store) (past : List Timestamp) : Prop :=
  ∀ d, ∀ p ∈ store.postings d, p.createdAt ≤ p.updatedAt ∧ p.updatedAt ∈ past

namespace Store.Dated

variable {store store' : Store} {past : List Timestamp} {time : Timestamp} {request : Request}
  {heard : List Response} {s : Statement} {r : Response}

theorem mono (h : store.Dated past) (more : List Timestamp) : store.Dated (past ++ more) := by
  intro d p hp
  obtain ⟨created, updated⟩ := h d p hp
  exact ⟨created, List.mem_append_left more updated⟩

/-- A write that is carried out after everything else dates what it writes. -/
theorem write (h : store.Dated past) (later : ∀ earlier ∈ past, earlier ≤ time)
    (hw : Write store time request heard s r store') : store'.Dated (past ++ [time]) := by
  have now : time ∈ past ++ [time] := by simp
  cases hw with
  | @insert id d e table positive here fresh =>
    intro d' p hp
    rw [postings_setLedger] at hp
    by_cases hd : d' = d
    · subst hd
      rw [if_pos rfl, appendRow, List.mem_append, List.mem_singleton,
        ← postings_of_ledger here] at hp
      rcases hp with old | rfl
      · exact h.mono [time] d' p old
      · exact ⟨Timestamp.le_refl time, now⟩
    · rw [if_neg hd] at hp
      exact h.mono [time] d' p hp
  | @update d id next r q table saw allowed here target =>
    intro d' p hp
    rw [postings_setLedger] at hp
    by_cases hd : d' = d
    · subst hd
      rw [if_pos rfl, List.mem_map, ← postings_of_ledger here] at hp
      obtain ⟨p, old, rfl⟩ := hp
      obtain ⟨created, updated⟩ := h d' p old
      unfold turned
      split
      · exact ⟨Timestamp.le_trans created (later _ updated), now⟩
      · exact h.mono [time] d' p old
    · rw [if_neg hd] at hp
      exact h.mono [time] d' p hp

end Store.Dated

namespace Traffic

variable {t : Traffic} {past : List Timestamp} {d : Direction} {id : Uuid} {p : Posting}

theorem dated_step (h : t.store.Dated past) {event : Event}
    (later : ∀ time ∈ t.time? event, ∀ earlier ∈ past, earlier ≤ time) :
    (t.step event).store.Dated (past ++ (t.time? event).toList) := by
  rcases t.write_step event with ⟨hstore, _⟩ | ⟨m, heard, r, written⟩
  · rw [hstore]
    exact h.mono _
  · rw [written.time?] at later ⊢
    exact h.write (later m.time rfl) written.write

theorem dated_run (h : t.store.Dated past) {events : List Event}
    (ordered : (past ++ t.times events).Pairwise (· ≤ ·)) :
    (t.run events).store.Dated (past ++ t.times events) := by
  induction events generalizing t past with
  | nil => simpa [times, run] using h
  | cons event events ih =>
    rw [times, ← List.append_assoc] at ordered ⊢
    apply ih _ ordered
    apply dated_step h
    intro time htime earlier hearlier
    have first := (List.pairwise_append.mp (List.pairwise_append.mp ordered).1).2.2
    exact first earlier hearlier time (by simpa using htime)

/-- A row is left as it is by an event, or moved by the update that is carried out in it. -/
theorem Sound.changed_step (h : t.Sound) (hp : t.store.posting? d id = some p) (event : Event) :
    (t.step event).store.posting? d id = some p ∨
      ∃ k c time delivery next, event = .turn k time delivery ∧ t.time? event = some time ∧
        t.calls[k]? = some c ∧ c.next? = some (.updateStatus d id p.status next) ∧
        p.status.canMoveTo next = true ∧
        (t.step event).store.posting? d id = some (Store.moved time next p) := by
  rcases t.write_step event with ⟨hstore, _⟩ | ⟨m, heard, r, written⟩
  · rw [hstore]
    exact .inl hp
  · by_cases updates : m.Updates d id
    · obtain ⟨s, next, update⟩ := updates
      obtain ⟨allowed, q, hq, rfl, moved⟩ := h.moved_of_written written update
      obtain rfl : p = q := Option.some.inj (hp.symm.trans hq)
      obtain ⟨delivery, turn⟩ := written.turn
      refine .inr ⟨m.call, ⟨m.request, heard⟩, m.time, delivery, next, turn, written.time?,
        written.call, ?_, allowed, moved⟩
      rw [← update]
      exact written.write.sends.next?
    · exact .inl (written.write.posting?_of_other (fun s n hs => updates ⟨s, n, hs⟩) hp)

/-- The times of a row do not decrease in a run if those of its statements do not. -/
theorem Sound.updatedAt_le_run (h : t.Sound) (dated : t.store.Dated past)
    (hp : t.store.posting? d id = some p) {events : List Event}
    (ordered : (past ++ t.times events).Pairwise (· ≤ ·)) :
    ∃ q, (t.run events).store.posting? d id = some q ∧ q.createdAt = p.createdAt ∧
      p.updatedAt ≤ q.updatedAt := by
  induction events using List.reverseRecOn with
  | nil => exact ⟨p, hp, rfl, Timestamp.le_refl _⟩
  | append_singleton events event ih =>
    rw [times_append, ← List.append_assoc] at ordered
    obtain ⟨before, _, later⟩ := List.pairwise_append.mp ordered
    obtain ⟨q, hq, created, updated⟩ := ih before
    rw [run_append]
    rcases (h.run events).changed_step hq event with
      same | ⟨k, c, time, delivery, next, _, htime, _, _, _, moved⟩
    · exact ⟨q, same, created, updated⟩
    · refine ⟨_, moved, created, Timestamp.le_trans updated ?_⟩
      have past := ((dated_run dated before) d q (Store.mem_of_posting? hq)).2
      exact later q.updatedAt past time (by simp [times, htime])

end Traffic

/-- Where calls are served by a store that has no ledger rows at first, and the statements are carried
out at times that do not decrease: at any point, each row was created no later than it was last
changed. Ever after, its time of creation is the same and the time of its last change no earlier. That
time changes in no event but one that changes the status; and an event that changes the status is the
turn of a call that sends an update of the row, and the row then has the time of that turn. -/
theorem timestamps_consistent (store : Store) (rowless : ∀ d, store.postings d = [])
    (before after : List Event)
    (ordered : (Traffic.times { store } (before ++ after)).Pairwise (· ≤ ·)) (d : Direction) :
    ∀ p ∈ (store.traffic before).store.postings d,
      p.createdAt ≤ p.updatedAt ∧
      (∃ q, (store.traffic (before ++ after)).store.posting? d p.id = some q ∧
        q.createdAt = p.createdAt ∧ p.updatedAt ≤ q.updatedAt) ∧
      ∀ event, ∃ q, ((store.traffic before).step event).store.posting? d p.id = some q ∧
        (q.updatedAt ≠ p.updatedAt → q.status ≠ p.status) ∧
        (q.status ≠ p.status → ∃ k c delivery, event = .turn k q.updatedAt delivery ∧
          (store.traffic before).calls[k]? = some c ∧
          c.next? = some (.updateStatus d p.id p.status q.status)) := by
  intro p hp
  have keyed : store.Keyed := fun d => by simp [rowless d]
  have hp' := (Traffic.keyed_traffic keyed before).posting?_of_mem hp
  have sound := Traffic.sound_traffic store before
  have undated : store.Dated [] := fun d p hp => by simp [rowless d] at hp
  rw [Traffic.times_append] at ordered
  have dated : (store.traffic before).store.Dated (Traffic.times { store } before) :=
    Traffic.dated_run (t := { store }) undated (List.pairwise_append.mp ordered).1
  refine ⟨(dated d p hp).1, ?_, ?_⟩
  · rw [Store.traffic_append]
    exact sound.updatedAt_le_run dated hp' ordered
  · intro event
    rcases sound.changed_step hp' event with
      same | ⟨k, c, time, delivery, next, turn, _, call, update, allowed, moved⟩
    · exact ⟨p, same, fun changed => absurd rfl changed, fun changed => absurd rfl changed⟩
    · exact ⟨_, moved, fun _ => Status.ne_of_canMoveTo allowed,
        fun _ => ⟨k, c, delivery, turn, call, update⟩⟩

namespace Race

def unused : Store :=
  { store with deposits := some {} }

/-- A deposit is recorded, and a call that is to make it pending looks it up. -/
def stamped : List Event :=
  [.arrival (.record row .deposit asked), .turn 0 (time 10) .answered,
    .arrival (.move .deposit row .pending), .turn 1 (time 20) .answered]

/-- The update is carried out, but the call is told that it failed. -/
def restamped : List Event :=
  [.turn 1 (time 30) (.lost .notReturned)]

end Race

theorem timestamps_consistent_restamped :
    (Traffic.times { store := Race.unused } (Race.stamped ++ Race.restamped)).Pairwise (· ≤ ·) ∧
      (Race.unused.traffic Race.stamped).store.postings .deposit =
        [Race.asked.stored Race.row (Race.time 10)] ∧
      ∃ q, (Race.unused.traffic (Race.stamped ++ Race.restamped)).store.posting? .deposit Race.row =
          some q ∧
        q.status = .pending ∧ q.updatedAt = Race.time 30 ∧ q.createdAt = Race.time 10 ∧
        Race.time 10 ≤ q.updatedAt := by
  have rowless : ∀ d, Race.unused.postings d = [] := by
    intro d
    cases d <;> rfl
  have ordered : (Traffic.times { store := Race.unused } (Race.stamped ++ Race.restamped)).Pairwise
      (· ≤ ·) := by decide
  have recorded : (Race.unused.traffic Race.stamped).store.postings .deposit =
      [Race.asked.stored Race.row (Race.time 10)] := by decide
  obtain ⟨_, ⟨q, hq, created, updated⟩, _⟩ :=
    timestamps_consistent Race.unused rowless Race.stamped Race.restamped ordered .deposit
      (Race.asked.stored Race.row (Race.time 10)) (by simp [recorded])
  have now : (Race.unused.traffic (Race.stamped ++ Race.restamped)).store.posting? .deposit
      Race.row = some (Store.moved (Race.time 30) .pending (Race.asked.stored Race.row
        (Race.time 10))) := by decide
  obtain rfl := Option.some.inj (now.symm.trans hq)
  exact ⟨ordered, recorded, _, hq, rfl, rfl, created, updated⟩

end FundsLedger
