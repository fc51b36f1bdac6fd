import FundsLedger.Proofs.Session.Recording
import FundsLedger.Proofs.Traffic.Turns
import FundsLedger.Proofs.Traffic.Winners

/-!
# What is listed

A listing gives the rows of a user as looking each of them up would give them, none of them twice, and
the newest first. So whatever was recorded for the user is listed, as it stands by then. The main
statement is `list_complete`.
-/

namespace FundsLedger

open Database (Program Response Row Statement)
open Time (Timestamp)
open Request (Sends)

namespace Store

variable {store : Store} {d : Direction} {table : Relation Posting}

theorem newestFirst_perm (rows : List Posting) : (newestFirst rows).Perm rows :=
  List.mergeSort_perm rows _

theorem newestFirst_sorted (rows : List Posting) :
    (newestFirst rows).Pairwise fun p q => q.createdAt ≤ p.createdAt := by
  have sorted := @List.pairwise_mergeSort _ (fun p q : Posting => q.createdAt ≤ p.createdAt)
    (fun p q r hpq hqr => by
      rw [decide_eq_true_eq] at *
      exact Timestamp.le_trans hqr hpq)
    (fun p q => by simpa using Timestamp.le_total q.createdAt p.createdAt) rows
  exact sorted.imp of_decide_eq_true

theorem respond_selectByUser_of_ledger (here : store.ledger d = some table) (time : Timestamp)
    (user : Uuid) :
    store.respond time (.selectByUser d user) =
      (.ok (.rows ((newestFirst (table.rows.filter (·.userId == user))).map .ofPosting)), store) := by
  simp only [respond, execute, here]
  rfl

theorem Keyed.nodup_filter (h : store.Keyed) (d : Direction) (keep : Posting → Bool) :
    (((store.postings d).filter keep).map Posting.id).Nodup :=
  (h d).sublist (List.filter_sublist.map _)

end Store

namespace Ledger

variable {d : Direction} {table : Relation Posting}

/-- What is listed of some rows has their ids. -/
theorem ids_newestFirst (d : Direction) (rows : List Posting) :
    (((Store.newestFirst rows).map (·.entry d)).map (·.id)).Perm (rows.map Posting.id) := by
  rw [List.map_map]
  exact (Store.newestFirst_perm rows).map _

/-- Of rows of distinct ids each is listed once. -/
theorem listed_once (d : Direction) {rows : List Posting} {q : Posting}
    (distinct : (rows.map Posting.id).Nodup) (hq : q ∈ rows) :
    q.entry d ∈ (Store.newestFirst rows).map (·.entry d) ∧
      (((Store.newestFirst rows).map (·.entry d)).map (·.id)).count q.id = 1 := by
  refine ⟨List.mem_map_of_mem ((Store.newestFirst_perm rows).mem_iff.mpr hq), ?_⟩
  rw [(ids_newestFirst d rows).count_eq]
  exact List.count_eq_one_of_mem distinct (List.mem_map_of_mem hq)

theorem mapM_ofPosting (ps : List Posting) :
    (ps.map Row.ofPosting).mapM Row.posting = .ok ps := by
  induction ps with
  | nil => rfl
  | cons p ps ih =>
    rw [List.map_cons, List.mapM_cons, Row.posting_ofPosting, ih]
    rfl

theorem listed_rows (d : Direction) (ps : List Posting) :
    listed d (.ok (.rows (ps.map .ofPosting))) = .ok (ps.map (·.entry d)) := by
  have read : everyRow Row.posting (.ok (.rows (ps.map .ofPosting))) = .ok ps := mapM_ofPosting ps
  rw [listed, read]

theorem run_listForUser_undisturbed (session : Session) (sound : session.aborted = false)
    (here : session.store.ledger d = some table) (user : Uuid) :
    ((listForUser d user).run (Session.connection {}) session).result =
        .ok ((Store.newestFirst (table.rows.filter (·.userId == user))).map (·.entry d)) ∧
      ((listForUser d user).run (Session.connection {}) session).state.store = session.store := by
  obtain ⟨aborted, answer, _⟩ := Session.answer_undisturbed sound
    (Store.respond_selectByUser_of_ledger here session.now user)
  obtain ⟨notes, hrun⟩ := run_listForUser answer
  rw [hrun, listed_rows]
  exact ⟨rfl, rfl⟩

end Ledger

/-- A call that has recorded a row returns the row that it was given. -/
theorem Call.of_result?_record {d : Direction} {id : Uuid} {e : NewEntry} {r : Response}
    {entries : List Entry} (positive : 0 < e.amount.toInt)
    (result : result? ⟨.record id d e, [r]⟩ = some (.ok entries)) :
    ∃ p, firstRow Row.posting r = .ok (some p) ∧ entries = [p.entry d] := by
  rw [result?, rest, Request.program, Program.after_map, Ledger.record_after positive] at result
  cases recorded : Ledger.recorded d r with
  | error e =>
    rw [recorded] at result
    cases result
  | ok entry =>
    rw [recorded] at result
    cases result
    obtain ⟨p, hp, rfl⟩ := Ledger.recorded_eq_ok recorded
    exact ⟨p, hp, rfl⟩

namespace Traffic

variable {t : Traffic} {k : Nat} {d : Direction} {id : Uuid} {e : NewEntry} {store : Store}
  {events : List Event}

theorem ledger_isSome_traffic (store : Store) (events : List Event) (d : Direction) :
    ((store.traffic events).store.ledger d).isSome = (store.ledger d).isSome := by
  refine run_induction (P := fun t => (t.store.ledger d).isSome = (store.ledger d).isSome) ?_ rfl
  intro t event _ same
  rcases t.write_step event with ⟨hstore, _⟩ | ⟨m, heard, r, written⟩
  · rw [hstore, same]
  · rw [written.write.ledger_isSome, same]

/-- What a call has recorded with success is there ever after, though it may have moved on. -/
theorem there_of_recorded {heard : List Response} {entries : List Entry}
    (hc : (store.traffic events).calls[k]? = some ⟨.record id d e, heard⟩)
    (result : Call.result? ⟨.record id d e, heard⟩ = some (.ok entries)) :
    ∃ time q, entries = [(e.stored id time).entry d] ∧
      (store.traffic events).store.posting? d id = some q ∧ (e.stored id time).Later q := by
  rcases List.eq_nil_or_concat heard with rfl | ⟨heard, r, rfl⟩
  · by_cases positive : 0 < e.amount.toInt
    · have next : Call.next? ⟨.record id d e, []⟩ = some (.insertPosting d id e) :=
        Sends.next? (.insert positive)
      rw [Call.next?_eq_none result] at next
      cases next
    · rw [Call.result?, Call.rest, Request.program, Ledger.record, if_pos (by omega)] at result
      cases result
  rw [List.concat_eq_append] at hc result
  obtain ⟨before, time, delivery, after, s, rfl, past, hs, hr⟩ := exists_turn hc
  cases hs with
  | insert positive =>
    obtain ⟨p, found, rfl⟩ := Call.of_result?_record positive result
    obtain ⟨row, rows, rfl, _⟩ := firstRow_eq_ok found
    obtain ⟨rfl, answer⟩ := Delivery.tells_eq_ok hr.symm
    rcases (store.traffic before).store.respond_insertPosting time d id e with
      ⟨f, respond⟩ | ⟨table, here, fresh, respond⟩
    · rw [respond] at answer
      cases answer
    rw [← answer, respond, firstRow_row] at found
    cases found
    have stored : ((store.traffic before).step (.turn k time .answered)).store.posting? d id =
        some (e.stored id time) := by
      rw [step_turn past (.insert positive)]
      change ((store.traffic before).store.respond time (.insertPosting d id e)).2.posting? d id = _
      rw [respond]
      exact @Store.posting?_appendRow_self _ d (e.stored id time) table here fresh
    obtain ⟨q, there, later⟩ := posting?_run stored after
    refine ⟨time, q, rfl, ?_, later⟩
    rw [Store.traffic_append]
    exact there

end Traffic

/-- After every run of calls at a store where ids are distinct, listing the rows of a user gives what
looking up the id of each of those rows gives, each of them once and the newest first. Every row that a
call has recorded for the user is among them, as it stands. No row of anyone else is, and none of the
other direction. -/
theorem list_complete (store : Store) (keyed : store.Keyed) (d : Direction)
    (there : (store.ledger d).isSome = true) (events : List Event) (clock : Int) (user : Uuid) :
    let session : Session := { store := (store.traffic events).store, clock }
    let listing := (Ledger.listForUser d user).run (Session.connection {}) session
    let find := fun id => ((Ledger.find d id).run (Session.connection {}) session).result
    let ids := ((session.store.postings d).filter (·.userId = user)).map Posting.id
    ∃ entries, listing.result = .ok entries ∧ listing.state.store = session.store ∧
      ids.Nodup ∧ (entries.map Except.ok).Perm (ids.map find) ∧
      (∀ (k : Nat) (c : Call) id e recorded, (store.traffic events).calls[k]? = some c →
        c.request = .record id d e → e.userId = user → c.result? = some (.ok recorded) →
          ∃ current, find id = .ok current ∧ current ∈ entries ∧
            (entries.map fun x => x.id).count id = 1) ∧
      (∀ x ∈ entries, x.userId = user ∧ x.direction = d) ∧
      entries.Pairwise fun x y => y.createdAt ≤ x.createdAt := by
  intro session listing find ids
  obtain ⟨table, here⟩ : ∃ table, session.store.ledger d = some table := by
    rw [← Option.isSome_iff_exists, Traffic.ledger_isSome_traffic, there]
  have distinct : session.store.Keyed := Traffic.keyed_traffic keyed events
  obtain ⟨result, unchanged⟩ := Ledger.run_listForUser_undisturbed session rfl here user
  rw [← Store.postings_of_ledger here] at result
  let owned := (session.store.postings d).filter (·.userId == user)
  have same : ids = owned.map Posting.id := rfl
  have nodup : (owned.map Posting.id).Nodup := distinct.nodup_filter d _
  have found : ∀ p ∈ owned, find p.id = .ok (p.entry d) := fun p hp =>
    (Ledger.run_find_undisturbed session rfl (distinct.posting?_of_mem (List.mem_of_mem_filter hp))).1
  refine ⟨(Store.newestFirst owned).map (·.entry d), result, unchanged, same ▸ nodup, ?perm,
    ?recorded, ?own, ?sorted⟩
  case perm =>
    have looked : ids.map find = owned.map fun p => .ok (p.entry d) := by
      rw [same, List.map_map]
      exact List.map_congr_left found
    rw [looked, List.map_map]
    exact (Store.newestFirst_perm owned).map _
  case recorded =>
    intro k c id e recorded hc request owner success
    rcases c with ⟨_, heard⟩
    cases request
    obtain ⟨time, q, _, hq, later⟩ := Traffic.there_of_recorded hc success
    have mem : q ∈ owned := by
      rw [List.mem_filter, beq_iff_eq, later.origin.2.1]
      exact ⟨Store.mem_of_posting? hq, owner⟩
    obtain ⟨listed, once⟩ := Ledger.listed_once d nodup mem
    rw [Store.id_of_posting? hq] at once
    exact ⟨q.entry d, (Ledger.run_find_undisturbed session rfl hq).1, listed, once⟩
  case own =>
    intro x hx
    obtain ⟨p, hp, rfl⟩ := List.mem_map.mp hx
    have mem := (Store.newestFirst_perm owned).mem_iff.mp hp
    have owner : p.userId = user := by simpa using (List.mem_filter.mp mem).2
    exact ⟨owner, rfl⟩
  case sorted =>
    rw [List.pairwise_map]
    exact Store.newestFirst_sorted owned

namespace Race

def second : Uuid := ⟨4, by decide⟩

/-- Another deposit of the same user is recorded and made pending. -/
def recording : List Event :=
  [.arrival (.record second .deposit asked), .turn 0 (time 40) .answered,
    .arrival (.move .deposit second .pending), .turn 1 (time 41) .answered,
    .turn 1 (time 42) .answered, .turn 1 (time 43) .answered]

end Race

theorem list_complete_pending :
    let session : Session := { store := (Race.store.traffic Race.recording).store, clock := 50 }
    Race.store.Keyed ∧ (Race.store.ledger .deposit).isSome = true ∧
      ∃ entries current,
        ((Ledger.listForUser .deposit Race.user.id).run (Session.connection {}) session).result =
          .ok entries ∧
        ((Ledger.find .deposit Race.second).run (Session.connection {}) session).result =
          .ok current ∧
        current.status = .pending ∧ current ∈ entries ∧
        (entries.map fun x => x.id).count Race.second = 1 := by
  intro session
  obtain ⟨entries, result, _, _, _, recorded, _⟩ :=
    list_complete Race.store Race.keyed .deposit rfl Race.recording 50 Race.user.id
  have call : (Race.store.traffic Race.recording).calls[0]? =
      some ⟨.record Race.second .deposit Race.asked,
        [.ok (.rows [.ofPosting (Race.asked.stored Race.second (Race.time 40))])]⟩ := by rfl
  obtain ⟨current, found, mem, once⟩ := recorded 0 _ _ _ _ call rfl rfl rfl
  have pending : (.ok current : Except LedgerError Entry).map (fun x => x.status) =
      .ok .pending := by
    rw [← found]
    rfl
  exact ⟨Race.keyed, rfl, entries, current, result, found, Except.ok.inj pending, mem, once⟩

end FundsLedger
