import FundsLedger.Proofs.Traffic.Course
import FundsLedger.Proofs.Traffic.Turns

/-!
# What a change of status reports

A call that has moved a row reads it once more, and returns what it then finds. Others may have moved
the row on by that time, but nobody else has moved it from where the call found it. The main statement
is `move_reported`.
-/

namespace FundsLedger

open Database (Answer Program Response Row Statement)
open Time (Timestamp)
open Request (Sends)

namespace Call

variable {d : Direction} {id : Uuid} {next : Status} {heard : List Response} {r : Response}
  {p : Posting}

/-- A call whose only response lets it end has failed. -/
theorem result?_move_one (entries : List Entry) :
    result? ⟨.move d id next, [r]⟩ ≠ some (.ok entries) := by
  intro result
  by_cases saw : ∃ p, firstRow Row.posting r = .ok (some p)
  · obtain ⟨p, saw⟩ := saw
    rw [result?, rest, Request.move_after_look saw] at result
    cases allowed : p.status.canMoveTo next with
    | true =>
      rw [Ledger.moveFrom_eq allowed] at result
      cases result
    | false =>
      rw [Ledger.moveFrom, allowed] at result
      cases result
  · rw [result?, rest, Request.program, Program.after_map, Ledger.updateStatus_eq] at result
    dsimp only [Program.after] at result
    cases found : Ledger.found d id r with
    | error e =>
      rw [found] at result
      cases result
    | ok entry =>
      obtain ⟨p, hp, _⟩ := Ledger.found_eq_ok found
      exact saw ⟨p, hp⟩

/-- A call that has not read its row again has not succeeded. -/
theorem result?_move_two {r' : Response} (saw : firstRow Row.posting r = .ok (some p))
    (allowed : p.status.canMoveTo next = true) (entries : List Entry) :
    result? ⟨.move d id next, [r, r']⟩ ≠ some (.ok entries) := by
  intro result
  cases r' with
  | error failure =>
    rw [result?, rest, Request.move_after_look saw, Ledger.moveFrom_eq allowed] at result
    cases result
  | ok answer =>
    by_cases affected : answer.count = 0
    · rw [result?, rest, Request.move_after_update saw allowed, affected] at result
      cases result
    · rw [result?, rest, Request.move_after_update saw allowed,
        Request.confirmMove_after affected] at result
      cases result

/-- A call that has read its row again returns what it has found. -/
theorem result?_move_three {answer : Answer} {r' : Response} {entries : List Entry}
    (saw : firstRow Row.posting r = .ok (some p)) (allowed : p.status.canMoveTo next = true)
    (affected : answer.count ≠ 0)
    (result : result? ⟨.move d id next, [r, .ok answer, r']⟩ = some (.ok entries)) :
    ∃ q, firstRow Row.posting r' = .ok (some q) ∧ entries = [q.entry d] := by
  rw [result?, rest, Request.move_after_update saw allowed, Request.confirmMove_after affected,
    Request.find_after] at result
  cases found : Ledger.found d id r' with
  | error e =>
    rw [found] at result
    cases result
  | ok entry =>
    rw [found] at result
    cases result
    obtain ⟨q, hq, rfl⟩ := Ledger.found_eq_ok found
    exact ⟨q, hq, rfl⟩

/-- The last response of a call that moved its row came from reading it again. -/
theorem confirm_of_result? {s : Statement} {entries : List Entry}
    (hs : Sends (.move d id next) heard s)
    (result : result? ⟨.move d id next, heard ++ [r]⟩ = some (.ok entries)) :
    ∃ r₀ p answer q, heard = [r₀, .ok answer] ∧ firstRow Row.posting r₀ = .ok (some p) ∧
      p.status.canMoveTo next = true ∧ answer.count ≠ 0 ∧
      s = .selectById (.ledger d) id ∧ firstRow Row.posting r = .ok (some q) ∧
      entries = [q.entry d] := by
  cases hs with
  | read => exact absurd result (result?_move_one entries)
  | update saw allowed => exact absurd result (result?_move_two saw allowed entries)
  | confirm saw allowed affected =>
    obtain ⟨q, found, rfl⟩ := result?_move_three saw allowed affected result
    exact ⟨_, _, _, q, rfl, saw, allowed, affected, rfl, found, rfl⟩

end Call

namespace Traffic

variable {t : Traffic} {k : Nat} {d : Direction} {id : Uuid} {next : Status} {r : Response}
  {p : Posting} {time : Timestamp} {answer : Answer}

/-- In the turn in which a call hears that its update has affected a row, it moves the very row that
it has seen. -/
theorem Sound.update_turn (h : t.Sound) (hc : t.calls[k]? = some ⟨.move d id next, [r]⟩)
    (saw : firstRow Row.posting r = .ok (some p)) (allowed : p.status.canMoveTo next = true)
    (affected : answer.count ≠ 0)
    (respond : (t.store.respond time (.updateStatus d id p.status next)).1 = .ok answer) :
    t.store.posting? d id = some p ∧
      (t.step (.turn k time .answered)).store.posting? d id = some (Store.moved time next p) ∧
      (t.step (.turn k time .answered)).commits =
        t.commits ++ [⟨k, .move d id next, .updateStatus d id p.status next, time⟩] := by
  have hs : Sends (.move d id next) [r] (.updateStatus d id p.status next) := .update saw allowed
  have effect : (Statement.updateStatus d id p.status next).takesEffect
      (t.store.respond time (.updateStatus d id p.status next)).1 = true := by
    rw [respond]
    exact decide_eq_true affected
  have commits : (t.step (.turn k time .answered)).commits =
      t.commits ++ [⟨k, .move d id next, .updateStatus d id p.status next, time⟩] := by
    rw [step_turn hc hs, serve, effect]
    rfl
  rcases t.write_step (.turn k time .answered) with ⟨_, idle⟩ | ⟨m, heard, r', written⟩
  · rw [commits] at idle
    simp at idle
  · have hm : m = ⟨k, .move d id next, .updateStatus d id p.status next, time⟩ := by
      have same := written.commits
      rw [commits] at same
      simpa using same.symm
    obtain ⟨_, q, there, hstatus, moved⟩ :=
      h.moved_of_written written (by rw [hm])
    have same := (h.since_of_sends hc rfl rfl saw).posting?_eq (Store.mem_of_posting? there)
      (Store.id_of_posting? there) hstatus
    rw [there] at same
    cases same
    rw [hm] at moved
    exact ⟨there, moved, commits⟩

/-- The row that a look-up has found is there. -/
theorem posting?_of_found {delivery : Delivery} {q : Posting}
    (hr : r = delivery.tells (t.store.respond time (.selectById (.ledger d) id)).1)
    (found : firstRow Row.posting r = .ok (some q)) :
    delivery = .answered ∧ t.store.posting? d id = some q := by
  obtain ⟨row, rows, rfl, _⟩ := firstRow_eq_ok found
  obtain ⟨answered, respond⟩ := Delivery.tells_eq_ok hr.symm
  rw [← respond] at found
  exact ⟨answered, Store.posting?_of_firstRow found⟩

/-- A write that took effect stays among the writes of a run, and no other one is of its call or moves
its row from the same status. -/
theorem Sound.mem_commits_iff {s : Status} (h : t.Sound) {m : Commit} (hm : m ∈ t.commits)
    (update : m.statement = .updateStatus d id s next) (m' : Commit) :
    m' ∈ t.commits ∧ (m'.call = m.call ∨ ∃ n, m'.statement = .updateStatus d id s n) ↔ m' = m := by
  constructor
  · rintro ⟨hm', call | ⟨n, update'⟩⟩
    · exact List.inj_on_of_nodup_map h.distinct hm' hm call
    · exact h.commit_unique hm' hm update' update
  · rintro rfl
    exact ⟨hm, .inl rfl⟩

/-- The run of a call that has moved its row is cut at two of its turns: the one in which its update
affected the row that it had seen, and the one in which it read the row again. -/
theorem cut_of_result? {store : Store} {events : List Event} {heard : List Response}
    {entries : List Entry}
    (hc : (store.traffic events).calls[k]? = some ⟨.move d id next, heard⟩)
    (result : Call.result? ⟨.move d id next, heard⟩ = some (.ok entries)) :
    ∃ before time between later after r p answer q,
      events = before ++ .turn k time .answered :: between ++ .turn k later .answered :: after ∧
      heard.head? = some r ∧ firstRow Row.posting r = .ok (some p) ∧
      p.status.canMoveTo next = true ∧
      (store.traffic before).calls[k]? = some ⟨.move d id next, [r]⟩ ∧ answer.count ≠ 0 ∧
      ((store.traffic before).store.respond time (.updateStatus d id p.status next)).1 =
        .ok answer ∧
      (store.traffic (before ++ .turn k time .answered :: between)).store.posting? d id = some q ∧
      entries = [q.entry d] := by
  rcases List.eq_nil_or_concat heard with rfl | ⟨heard, last, rfl⟩
  · cases result
  rw [List.concat_eq_append] at hc result
  obtain ⟨_, later, _, after, _, rfl, confirming, hs, hlast⟩ := exists_turn hc
  obtain ⟨r, p, answer, q, rfl, saw, allowed, affected, rfl, found, rfl⟩ :=
    Call.confirm_of_result? hs result
  obtain ⟨rfl, there⟩ := posting?_of_found hlast found
  obtain ⟨before, time, _, between, _, rfl, updating, hs, hanswer⟩ :=
    @exists_turn k store _ (.move d id next) [r] (.ok answer) confirming
  obtain ⟨rfl, respond⟩ := Delivery.tells_eq_ok hanswer.symm
  cases hs with
  | update saw' allowed' =>
    cases saw.symm.trans saw'
    exact ⟨before, time, between, later, after, r, p, answer, q, rfl, rfl, saw, allowed, updating,
      affected, respond, there, rfl⟩

end Traffic

/-- A call that has moved a row and succeeds, at any store and among any other calls, has had its
update answered in one turn and has read the row again in a later one. The update, and no other write
of the run, is of this call, and it alone moved the row from the status in which the call saw it. What
the call returns is the row as the later turn found it: with the id, references, amount and time of
creation of the row that it saw, and in a status to which steps of the lifecycle by other calls lead
from the next one. Where none of them updated the row in between, or the next status is an end of the
lifecycle, that is the row as this call's update left it. -/
theorem move_reported (store : Store) (events : List Event) (k : Nat) (c : Call) (d : Direction)
    (id : Uuid) (next : Status) (entries : List Entry)
    (hc : (store.traffic events).calls[k]? = some c) (request : c.request = .move d id next)
    (result : c.result? = some (.ok entries)) :
    ∃ p time before between after entry ms,
      (∃ later, events = before ++ .turn k time .answered ::
        (between ++ .turn k later .answered :: after)) ∧
      entries = [entry] ∧ c.saw? = some p ∧ p.status.canMoveTo next = true ∧
      -- the turn of the update
      (store.traffic before).store.posting? d id = some p ∧
      (store.traffic (before ++ [.turn k time .answered])).store.posting? d id =
        some (Store.moved time next p) ∧
      (∀ m, m ∈ (store.traffic events).commits ∧
        (m.call = k ∨ ∃ n, m.statement = .updateStatus d id p.status n) ↔
          m = ⟨k, .move d id next, .updateStatus d id p.status next, time⟩) ∧
      -- the writes between that turn and the later one
      (store.traffic (before ++ .turn k time .answered :: between)).commits =
        (store.traffic (before ++ [.turn k time .answered])).commits ++ ms ∧
      (∀ m ∈ ms, m.call ≠ k) ∧
      -- what is returned
      (store.traffic (before ++ .turn k time .answered :: between)).store.posting? d id =
        some entry.toPosting ∧
      (entry.direction = d ∧ entry.id = id ∧ entry.userId = p.userId ∧
        entry.currencyId = p.currencyId ∧ entry.amount = p.amount ∧
        entry.createdAt = p.createdAt) ∧
      Relation.ReflTransGen (fun s n => s.canMoveTo n = true ∧
        ∃ m ∈ ms, m.statement = .updateStatus d id s n) next entry.status ∧
      ((∀ m ∈ ms, ¬ m.Updates d id) ∨ next.isTerminal = true →
        entry.status = next ∧ entry.updatedAt = time) := by
  rcases c with ⟨_, heard⟩
  cases request
  obtain ⟨before, time, between, later, after, r, p, answer, q, rfl, first, saw, allowed, updating,
    affected, respond, there, rfl⟩ := Traffic.cut_of_result? hc result
  obtain ⟨here, moved, commits⟩ :=
    (Traffic.sound_traffic store before).update_turn updating saw allowed affected respond
  have turn : store.traffic (before ++ [.turn k time .answered]) =
      (store.traffic before).step (.turn k time .answered) := store.traffic_append before _
  have split : store.traffic (before ++ .turn k time .answered :: between) =
      (store.traffic (before ++ [.turn k time .answered])).run between := by
    rw [← Store.traffic_append, List.append_assoc]
    rfl
  rw [← turn] at moved commits
  obtain ⟨q', ms, hq, since, course⟩ :=
    (Traffic.sound_traffic store (before ++ [.turn k time .answered])).course_run moved between
  rw [← split] at hq since
  cases there.symm.trans hq
  obtain ⟨_, user, currency, amount, created⟩ := course.later.origin
  refine ⟨p, time, before, between, after, q.entry d, ms, ⟨later, by simp⟩, rfl, ?saw, allowed, here,
    moved, ?unique, since, ?others, there,
    ⟨rfl, Store.id_of_posting? there, user, currency, amount, created⟩, course.reaches, ?left⟩
  case saw =>
    obtain ⟨rs, rfl⟩ := List.head?_eq_some_iff.mp first
    exact Call.saw?_eq_some_iff.mpr ⟨r, rs, rfl, saw⟩
  case unique =>
    have sound := Traffic.sound_traffic store
      (before ++ .turn k time .answered :: between ++ .turn k later .answered :: after)
    obtain ⟨_, more, _, last, _⟩ := (Traffic.sound_traffic store
      (before ++ .turn k time .answered :: between)).course_run there
        (.turn k later .answered :: after)
    rw [← Store.traffic_append] at last
    have mem : ⟨k, .move d id next, .updateStatus d id p.status next, time⟩ ∈ (store.traffic
        (before ++ .turn k time .answered :: between ++
          .turn k later .answered :: after)).commits := by
      rw [last, since, commits]
      simp
    exact sound.mem_commits_iff mem rfl
  case others =>
    intro m hm same
    have distinct := (Traffic.sound_traffic store
      (before ++ .turn k time .answered :: between)).distinct
    rw [since, commits, List.map_append, List.nodup_append'] at distinct
    refine distinct.2.2 ?_ (List.mem_map.mpr ⟨m, hm, same⟩)
    simp
  case left =>
    rintro (idle | terminal)
    · rw [course.eq_of_no_update idle]
      exact ⟨rfl, rfl⟩
    · rw [course.later.eq_of_isTerminal terminal]
      exact ⟨rfl, rfl⟩

namespace Race

def earlier : Store :=
  { store with deposits := some { rows := [deposit .created (time 10)] } }

/-- The first call makes the deposit pending. Before it reads the deposit again, the second call
completes it. -/
def overtaking : List Event :=
  [.arrival (.move .deposit row .pending), .arrival (.move .deposit row .completed),
    .turn 0 (time 30) .answered, .turn 0 (time 31) .answered, .turn 1 (time 32) .answered,
    .turn 1 (time 33) .answered, .turn 0 (time 34) .answered]

def overtaken : Call where
  request := .move .deposit row .pending
  heard := [.ok (.rows [.ofPosting (deposit .created (time 10))]), .ok (.affected 1),
    .ok (.rows [.ofPosting (deposit .completed (time 33))])]

end Race

theorem move_reported_overtaken :
    (Race.earlier.traffic Race.overtaking).calls[0]? = some Race.overtaken ∧
      Race.overtaken.result? =
        some (.ok [(Race.deposit .completed (Race.time 33)).entry .deposit]) ∧
      ∃ ms : List Commit, (∀ m ∈ ms, m.call ≠ 0) ∧
        Relation.ReflTransGen (fun s n => s.canMoveTo n = true ∧
          ∃ m ∈ ms, m.statement = .updateStatus .deposit Race.row s n) .pending .completed := by
  have call : (Race.earlier.traffic Race.overtaking).calls[0]? = some Race.overtaken := by rfl
  have result : Race.overtaken.result? =
      some (.ok [(Race.deposit .completed (Race.time 33)).entry .deposit]) := by rfl
  obtain ⟨p, time, before, between, after, entry, ms, _, returned, _, _, _, _, _, _, others, _, _,
    reaches, _⟩ := move_reported Race.earlier Race.overtaking 0 Race.overtaken .deposit Race.row
      .pending _ call rfl result
  cases returned
  exact ⟨call, result, ms, others, reaches⟩

end FundsLedger
