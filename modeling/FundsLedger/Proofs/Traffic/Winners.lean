import FundsLedger.Proofs.Traffic.Invariant
import Mathlib.Data.List.Perm.Subperm

/-!
# Races for a row

Any number of calls may read a row in one status and try to move it on from there. The update names
only the id and the status, yet it never hits a row that was changed since it was read. So at most
one of the calls takes effect, and the others are told of the conflict. The main statement is
`compare_and_set_sound`.
-/

namespace FundsLedger

open Database (Answer Program Response Statement)
open Time (Timestamp)
open Request (Sends)

theorem Call.result?_of_conflict {c : Call} {d : Direction} {id : Uuid} {s next : Status}
    (hs : Sends c.request c.heard (.updateStatus d id s next)) :
    (c.hear (.ok (.affected 0))).result? = some (.error (.statusConflict d id s)) := by
  rcases c with ⟨request, heard⟩
  cases hs with
  | @update _ _ _ r p saw allowed =>
    have hrest : (Request.move d id next).program.after [r, .ok (.affected 0)] =
        .fail (.statusConflict d id p.status) :=
      Request.move_after_update saw allowed []
    exact congrArg Program.result? hrest

namespace Traffic

/-- A write of the call number `k` has taken effect. -/
def TookEffect (t : Traffic) (k : Nat) : Prop :=
  k ∈ t.commits.map Commit.call

def Moves (t : Traffic) (k : Nat) (d : Direction) (id : Uuid) : Prop :=
  ∃ c next, t.calls[k]? = some c ∧ c.request = .move d id next

/-- The call number `k` is to move the row of the id, and it read the status `s`. -/
def ReadStatus (t : Traffic) (k : Nat) (d : Direction) (id : Uuid) (s : Status) : Prop :=
  ∃ c next p, t.calls[k]? = some c ∧ c.request = .move d id next ∧ c.saw? = some p ∧ p.status = s

variable {t : Traffic} {k k' : Nat} {c : Call} {d : Direction} {id : Uuid} {s next : Status}
  {time : Timestamp} {delivery : Delivery}

theorem keyed_step (h : t.store.Keyed) (event : Event) : (t.step event).store.Keyed := by
  rcases t.write_step event with ⟨hstore, _⟩ | ⟨m, heard, r, written⟩
  · rw [hstore]
    exact h
  · exact written.write.keyed h

theorem keyed_traffic {store : Store} (h : store.Keyed) (events : List Event) :
    (store.traffic events).store.Keyed :=
  run_induction (P := fun t => t.store.Keyed) (fun _ event _ ht => keyed_step ht event) h

theorem TookEffect.step (h : t.TookEffect k) (event : Event) : (t.step event).TookEffect k := by
  rcases t.write_step event with ⟨_, hcommits⟩ | ⟨m, heard, r, written⟩
  · rw [TookEffect, hcommits]
    exact h
  · rw [TookEffect, written.commits, List.map_append]
    exact List.mem_append_left _ h

theorem TookEffect.run (h : t.TookEffect k) (events : List Event) :
    (t.run events).TookEffect k :=
  run_induction (P := (TookEffect · k)) (fun _ event _ ht => ht.step event) h

theorem ended_run {result : Except LedgerError (List Entry)} (hc : t.calls[k]? = some c)
    (ended : c.result? = some result) (events : List Event) :
    (t.run events).calls[k]? = some c := by
  refine run_induction (P := fun t => t.calls[k]? = some c) (fun t event _ hc => ?_) hc
  rcases calls_step hc event with hc' | ⟨s, _, _, _, hs, _⟩
  · exact hc'
  · have hnext : c.next? = some s := hs.next?
    rw [Call.next?_eq_none ended] at hnext
    cases hnext

theorem store_step_of_not_tookEffect (h : ¬ (t.step (.turn k time delivery)).TookEffect k) :
    (t.step (.turn k time delivery)).store = t.store := by
  rcases t.write_step (.turn k time delivery) with ⟨hstore, _⟩ | ⟨m, heard, r, written⟩
  · exact hstore
  · rcases written.turn with ⟨_, hevent⟩
    cases hevent
    rw [TookEffect, written.commits] at h
    exact absurd (by simp) h

theorem Sound.statement_of_readStatus (h : t.Sound) (read : t.ReadStatus k d id s) {m : Commit}
    (hm : m ∈ t.commits) (hk : m.call = k) :
    ∃ next, m.statement = .updateStatus d id s next ∧ s.canMoveTo next = true := by
  rcases read with ⟨c, next, p, hc, hrequest, saw, rfl⟩
  rcases h.wrote m hm with ⟨c', hc', _, hwrote⟩
  rw [hk, hc] at hc'
  cases hc'
  rcases Call.saw?_eq_some_iff.mp saw with ⟨r, rs, hheard, hfirst⟩
  generalize m.statement = statement at hwrote ⊢
  cases hwrote with
  | record => cases hrequest
  | move saw' allowed =>
    cases hrequest
    cases hheard
    rw [hfirst] at saw'
    cases saw'
    exact ⟨next, rfl, allowed⟩

theorem Sound.readStatus_of_tookEffect (h : t.Sound) (moves : t.Moves k d id)
    (effect : t.TookEffect k) : ∃ s next, t.ReadStatus k d id s ∧ s.canMoveTo next = true := by
  rcases moves with ⟨c, next, hc, hrequest⟩
  rcases List.mem_map.mp effect with ⟨m, hm, rfl⟩
  rcases h.wrote m hm with ⟨c', hc', _, hwrote⟩
  rw [hc] at hc'
  cases hc'
  generalize m.statement = statement at hwrote
  cases hwrote with
  | record => cases hrequest
  | @move _ _ _ r p r' rs saw allowed =>
    cases hrequest
    exact ⟨p.status, next, ⟨_, next, p, hc, rfl, Call.saw?_eq_some_iff.mpr ⟨r, _, rfl, saw⟩, rfl⟩,
      allowed⟩

/-- Of the calls that read the same status of a row, at most one takes effect. -/
theorem Sound.winner_unique (h : t.Sound) (read : t.ReadStatus k d id s)
    (read' : t.ReadStatus k' d id s) (effect : t.TookEffect k) (effect' : t.TookEffect k') :
    k = k' := by
  rcases List.mem_map.mp effect with ⟨m, hm, hk⟩
  rcases List.mem_map.mp effect' with ⟨m', hm', hk'⟩
  rcases h.statement_of_readStatus read hm hk with ⟨next, hstatement, _⟩
  rcases h.statement_of_readStatus read' hm' hk' with ⟨next', hstatement', _⟩
  rw [← hk, ← hk', h.commit_unique hm hm' hstatement hstatement']

theorem Sound.winners_length_le (h : t.Sound) {ks : List Nat} (distinct : ks.Nodup)
    (winners : ∀ k ∈ ks, t.Moves k d id ∧ t.TookEffect k) : ks.length ≤ 2 := by
  have hread : ∀ k, ∃ s, k ∈ ks → t.ReadStatus k d id s ∧ s ∈ [Status.created, .pending] := by
    intro k
    by_cases hk : k ∈ ks
    · rcases winners k hk with ⟨moves, effect⟩
      rcases h.readStatus_of_tookEffect moves effect with ⟨s, next, read, allowed⟩
      refine ⟨s, fun _ => ⟨read, ?_⟩⟩
      cases s with
      | created => simp
      | pending => simp
      | completed => cases allowed
      | failed => cases allowed
    · exact ⟨.created, fun hmem => absurd hmem hk⟩
  choose status hstatus using hread
  have hnodup : (ks.map status).Nodup := by
    refine List.Nodup.map_on (fun k hk k' hk' same => ?_) distinct
    exact h.winner_unique (hstatus k hk).1 (same ▸ (hstatus k' hk').1) (winners k hk).2
      (winners k' hk').2
  have hsub : ks.map status ⊆ [.created, .pending] := by
    intro s hs
    rcases List.mem_map.mp hs with ⟨k, hk, rfl⟩
    exact (hstatus k hk).2
  simpa using (List.Nodup.subperm hnodup hsub).length_le

/-- The row that a call saw before it sends its update is there, though it may have changed. -/
theorem Sound.there_of_sends (h : t.Sound) (hc : t.calls[k]? = some c)
    (hs : Sends c.request c.heard (.updateStatus d id s next)) :
    ∃ q, t.store.posting? d id = some q := by
  rcases c with ⟨request, heard⟩
  cases hs with
  | update saw allowed =>
    rcases h.since_of_sends hc rfl rfl saw with ⟨q, hq, _⟩
    exact ⟨q, hq⟩

theorem idle_of_not_tookEffect {s : Statement} (hc : t.calls[k]? = some c)
    (hs : Sends c.request c.heard s) (lost : ¬ (t.step (.turn k time .answered)).TookEffect k) :
    s.takesEffect (t.store.respond time s).1 = false := by
  rw [step_turn hc hs] at lost
  by_contra effect
  rw [Bool.not_eq_false] at effect
  refine lost ?_
  rw [TookEffect, serve, effect]
  simp [Delivery.reaches]

/-- A call whose update is answered and does not take effect ends with a conflict. -/
theorem Sound.conflict_of_not_tookEffect (h : t.Sound) (hc : t.calls[k]? = some c)
    (hs : Sends c.request c.heard (.updateStatus d id s next))
    (lost : ¬ (t.step (.turn k time .answered)).TookEffect k) :
    ∃ c', (t.step (.turn k time .answered)).calls[k]? = some c' ∧
      c'.result? = some (.error (.statusConflict d id s)) := by
  have idle := idle_of_not_tookEffect hc hs lost
  have response : (t.store.respond time (.updateStatus d id s next)).1 = .ok (.affected 0) := by
    rcases t.store.respond_updateStatus time d id s next with ⟨none, _⟩ | ⟨table, _, hr⟩
    · rcases h.there_of_sends hc hs with ⟨q, hq⟩
      exact absurd none (Store.ledger_ne_none hq)
    · rw [hr] at idle ⊢
      have hcount : table.rows.countP (Store.isTarget id s) = 0 := by
        simpa [Statement.takesEffect, Answer.count] using idle
      rw [hcount]
  refine ⟨_, calls_turn hc hs, ?_⟩
  rw [response]
  exact Call.result?_of_conflict hs

end Traffic

/-- How the calls that move one row fare after some events. -/
structure CompareAndSet (store : Store) (events : List Event) (d : Direction) (id : Uuid) :
    Prop where
  /-- A row that an update is about to hit is what its call read. -/
  fresh (k : Nat) (c : Call) (s next : Status) (hc : (store.traffic events).calls[k]? = some c)
    (sends : c.next? = some (.updateStatus d id s next)) (q : Posting)
    (there : q ∈ (store.traffic events).store.postings d) (here : q.id = id)
    (hits : q.status = s) : c.saw? = some q
  /-- Of the calls that read the same status at most one takes effect. -/
  unique (s : Status) (k k' : Nat) (read : (store.traffic events).ReadStatus k d id s)
    (read' : (store.traffic events).ReadStatus k' d id s)
    (effect : (store.traffic events).TookEffect k)
    (effect' : (store.traffic events).TookEffect k') : k = k'
  /-- A call whose update is answered and takes no effect ends with a conflict. -/
  conflict (k : Nat) (c : Call) (s next : Status) (time : Timestamp) (more : List Event)
    (hc : (store.traffic events).calls[k]? = some c)
    (sends : c.next? = some (.updateStatus d id s next))
    (lost : ¬(store.traffic (events ++ .turn k time .answered :: more)).TookEffect k) :
    ∃ c', (store.traffic (events ++ .turn k time .answered :: more)).calls[k]? = some c' ∧
      c'.result? = some (.error (.statusConflict d id s))
  /-- A call that takes no effect changes nothing. -/
  unchanged (k : Nat) (time : Timestamp) (delivery : Delivery) (more : List Event)
    (lost : ¬(store.traffic (events ++ .turn k time delivery :: more)).TookEffect k) :
    (store.traffic (events ++ [.turn k time delivery])).store = (store.traffic events).store
  /-- No more than two calls ever move the row. -/
  two (ks : List Nat) (distinct : ks.Nodup)
    (winners : ∀ k ∈ ks, (store.traffic events).Moves k d id ∧
      (store.traffic events).TookEffect k) : ks.length ≤ 2

/-- An update never hits a row that has changed since its call read it. So of the calls that read
the same status of a row at most one takes effect, the others end with a conflict and change
nothing, and in all no more than two calls ever move a row. -/
theorem compare_and_set_sound (store : Store) (keyed : store.Keyed) (events : List Event)
    (d : Direction) (id : Uuid) : CompareAndSet store events d id := by
  have sound := Traffic.sound_traffic store events
  have turn : ∀ event more, store.traffic (events ++ event :: more) =
      ((store.traffic events).step event).run more := fun event more =>
    Traffic.run_append _ events (event :: more)
  constructor
  case fresh =>
    intro k c s next hc sends q there here hits
    rcases c with ⟨request, heard⟩
    cases Request.next?_eq_some_iff.mp sends with
    | @update _ _ _ r p saw allowed =>
      have hp := (sound.since_of_sends hc rfl rfl saw).posting?_eq there here hits
      rw [← here, (Traffic.keyed_traffic keyed events).posting?_of_mem there] at hp
      cases hp
      exact Call.saw?_eq_some_iff.mpr ⟨r, [], rfl, saw⟩
  case unique => exact fun s k k' => sound.winner_unique
  case conflict =>
    intro k c s next time more hc sends lost
    rw [turn] at lost ⊢
    obtain ⟨c', hc', hresult⟩ := sound.conflict_of_not_tookEffect hc
      (Request.next?_eq_some_iff.mp sends) fun effect => lost (effect.run more)
    exact ⟨c', Traffic.ended_run hc' hresult more, hresult⟩
  case unchanged =>
    intro k time delivery more lost
    rw [turn] at lost ⊢
    exact Traffic.store_step_of_not_tookEffect fun effect => lost (effect.run more)
  case two => exact fun ks => sound.winners_length_le

theorem Race.keyed : store.Keyed := by
  intro d
  cases d <;> decide

theorem compare_and_set_sound_race :
    Race.store.Keyed ∧
      ¬ (Race.store.traffic (Race.events ++ [Race.late])).TookEffect 1 ∧
      ∃ c, (Race.store.traffic (Race.events ++ [Race.late])).calls[1]? = some c ∧
        c.result? = some (.error (.statusConflict .deposit Race.row .pending)) := by
  have read : (Race.store.traffic Race.events).calls[1]? =
      some ⟨.move .deposit Race.row .failed,
        [.ok (.rows [.ofPosting (Race.deposit .pending (Race.time 20))])]⟩ := by rfl
  have lost : ¬ (Race.store.traffic (Race.events ++ [Race.late])).TookEffect 1 := by
    unfold Traffic.TookEffect
    decide
  have sound := compare_and_set_sound Race.store Race.keyed Race.events .deposit Race.row
  exact ⟨Race.keyed, lost, sound.conflict 1 _ .pending .failed (Race.time 33) [] read rfl lost⟩

end FundsLedger
