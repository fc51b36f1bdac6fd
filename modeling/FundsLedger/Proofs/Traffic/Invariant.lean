import FundsLedger.Proofs.Traffic.Lookups

/-!
# What every run keeps

The writes that took effect on one row read statuses of rising rank, and no call has written twice.
The main statement is `sound_traffic`.
-/

namespace FundsLedger

open Database (Answer Failure Response Row Statement)
open Time (Timestamp)
open Request (Sends)

/-- Of two writes to the same row the earlier one read a status of lower rank. -/
def Commit.Before (m m' : Commit) : Prop :=
  ∀ d id s n s' n', m.statement = .updateStatus d id s n → m'.statement = .updateStatus d id s' n' →
    s.rank < s'.rank

/-- What every run keeps. -/
structure Traffic.Sound (t : Traffic) : Prop where
  seen : ∀ c ∈ t.calls, ∀ d id next p, c.request = .move d id next → c.saw? = some p →
    t.store.Since d id p
  /-- Every write was sent by its call. -/
  wrote : ∀ m ∈ t.commits, ∃ c, t.calls[m.call]? = some c ∧ c.request = m.request ∧
    c.Wrote m.statement
  distinct : (t.commits.map Commit.call).Nodup
  rising : t.commits.Pairwise Commit.Before
  /-- A row that was moved has left the status it was moved from behind. -/
  passed : ∀ m ∈ t.commits, ∀ d id s n, m.statement = .updateStatus d id s n →
    ∃ q, t.store.posting? d id = some q ∧ s.rank < q.status.rank

namespace Traffic

variable {t : Traffic} {k : Nat} {c : Call} {event : Event} {m : Commit} {heard : List Response}
  {r : Response}

theorem sound_start (store : Store) : ({ store } : Traffic).Sound where
  seen _ hc := by cases hc
  wrote _ hm := by cases hm
  distinct := List.nodup_nil
  rising := List.Pairwise.nil
  passed _ hm := by cases hm

theorem Sound.since_of_sends (h : t.Sound) (hc : t.calls[k]? = some c) {d : Direction} {id : Uuid}
    {next : Status} {r : Response} {p : Posting} (request : c.request = .move d id next)
    (heard : c.heard = [r]) (saw : firstRow Row.posting r = .ok (some p)) :
    t.store.Since d id p :=
  h.seen c (List.mem_of_getElem? hc) d id next p request
    (Call.saw?_eq_some_iff.mpr ⟨r, [], heard, saw⟩)

/-- What is known of a row that was looked up outlasts every event. -/
theorem Sound.since_step (h : t.Sound) (event : Event) {d : Direction} {id : Uuid} {p : Posting}
    (since : t.store.Since d id p) : (t.step event).store.Since d id p := by
  rcases t.write_step event with ⟨hstore, _⟩ | ⟨m, heard, r, written⟩
  · rw [hstore]
    exact since
  · exact since.write written.write fun _ _ _ _ _ => h.since_of_sends written.call

theorem Sound.seen_step (h : t.Sound) (event : Event) :
    ∀ c ∈ (t.step event).calls, ∀ d id next p, c.request = .move d id next → c.saw? = some p →
      (t.step event).store.Since d id p := by
  intro c hc d id next p hrequest saw
  rcases mem_calls_step hc with ⟨request, rfl⟩ | old | ⟨c, old, s, time, delivery, hs, rfl⟩
  · cases saw
  · exact h.since_step event (h.seen c old d id next p hrequest saw)
  · rcases Call.saw?_of_turn hs hrequest saw with saw' | here
    · exact h.since_step event (h.seen c old d id next p hrequest saw')
    · exact h.since_step event ⟨p, here, .inl rfl⟩

theorem Sound.wrote_step (h : t.Sound) (event : Event) {m : Commit} (hm : m ∈ t.commits) :
    ∃ c, (t.step event).calls[m.call]? = some c ∧ c.request = m.request ∧
      c.Wrote m.statement := by
  rcases h.wrote m hm with ⟨c, hc, hrequest, hwrote⟩
  rcases calls_step hc event with hc' | ⟨s, time, delivery, _, _, hc'⟩
  · exact ⟨c, hc', hrequest, hwrote⟩
  · exact ⟨_, hc', hrequest, hwrote.hear⟩

theorem Sound.passed_step (h : t.Sound) (event : Event) {m : Commit} (hm : m ∈ t.commits)
    {d : Direction} {id : Uuid} {s next : Status}
    (hstatement : m.statement = .updateStatus d id s next) :
    ∃ q, (t.step event).store.posting? d id = some q ∧ s.rank < q.status.rank := by
  rcases h.passed m hm d id s next hstatement with ⟨q, hq, hlt⟩
  rcases posting?_step hq event with ⟨q', hq', hnext⟩
  exact ⟨q', hq', Nat.lt_of_lt_of_le hlt hnext.rank_le⟩

/-- No call writes twice. -/
theorem Sound.not_mem_of_written (h : t.Sound) (written : t.Written event m heard r) :
    m.call ∉ t.commits.map Commit.call := by
  intro hk
  rcases List.mem_map.mp hk with ⟨m', hm', hcall⟩
  rcases h.wrote m' hm' with ⟨c, hc, _, hwrote⟩
  rw [hcall, written.call] at hc
  cases hc
  exact hwrote.not_write written.write

/-- An update that takes effect finds the row that its call saw, and moves it. -/
theorem Sound.moved_of_written (h : t.Sound) (written : t.Written event m heard r) {d : Direction}
    {id : Uuid} {expected next : Status}
    (hstatement : m.statement = .updateStatus d id expected next) :
    expected.canMoveTo next = true ∧
      ∃ p, t.store.posting? d id = some p ∧ p.status = expected ∧
        (t.step event).store.posting? d id = some (Store.moved m.time next p) := by
  rcases m with ⟨k, request, s, time⟩
  cases hstatement
  have since : ∀ next r p, request = .move d id next → heard = [r] →
      firstRow Row.posting r = .ok (some p) → t.store.Since d id p :=
    fun _ _ _ => h.since_of_sends written.call
  have write := written.write
  generalize (t.step event).store = store' at write ⊢
  cases write with
  | @update _ _ _ r p table saw allowed here target =>
    rcases target with ⟨q, hmem, htarget⟩
    rcases Store.isTarget_iff.mp htarget with ⟨hid, hstatus⟩
    have hp : t.store.posting? d id = some p :=
      (since next r p rfl rfl saw).posting?_eq
        (by rw [Store.postings_of_ledger here]; exact hmem) hid hstatus
    refine ⟨allowed, p, hp, rfl, ?_⟩
    rw [Store.posting?_turned here, if_pos rfl, hp, Option.map_some, Store.turned,
      if_pos (Store.isTarget_iff.mpr ⟨Store.id_of_posting? hp, rfl⟩)]

theorem Sound.step (h : t.Sound) (event : Event) : (t.step event).Sound := by
  rcases t.write_step event with ⟨_, commits⟩ | ⟨m, heard, r, written⟩
  · exact {
      seen := h.seen_step event
      wrote := fun m hm => h.wrote_step event (commits ▸ hm)
      distinct := commits ▸ h.distinct
      rising := commits ▸ h.rising
      passed := fun m hm _ _ _ _ => h.passed_step event (commits ▸ hm) }
  have mem_commits : ∀ m' ∈ (t.step event).commits, m' ∈ t.commits ∨ m' = m := by
    intro m' hm'
    rw [written.commits, List.mem_append, List.mem_singleton] at hm'
    exact hm'
  constructor
  case seen => exact h.seen_step event
  case wrote =>
    intro m' hm'
    rcases mem_commits m' hm' with old | rfl
    · exact h.wrote_step event old
    · rcases written.calls with ⟨delivery, _, hc⟩
      exact ⟨_, hc, rfl, written.write.wrote _⟩
  case distinct =>
    rw [written.commits, List.map_append]
    exact List.nodup_append'.mpr ⟨h.distinct, List.nodup_singleton _,
      by simpa using h.not_mem_of_written written⟩
  case rising =>
    rw [written.commits, List.pairwise_append]
    refine ⟨h.rising, List.pairwise_singleton _ _, fun m₁ hm₁ m₂ hm₂ => ?_⟩
    rw [List.mem_singleton.mp hm₂]
    intro d id s₁ n₁ s₂ n₂ hs₁ hs₂
    -- The row still has the status that the later write expects, and left the earlier one behind.
    rcases h.passed m₁ hm₁ d id s₁ n₁ hs₁ with ⟨q, hq, hlt⟩
    rcases h.moved_of_written written hs₂ with ⟨_, q', hq', hstatus, _⟩
    rw [hq] at hq'
    cases hq'
    rwa [hstatus] at hlt
  case passed =>
    intro m' hm' d id s n hs
    rcases mem_commits m' hm' with old | rfl
    · exact h.passed_step event old hs
    · rcases h.moved_of_written written hs with ⟨allowed, q, _, _, hmoved⟩
      exact ⟨_, hmoved, Status.rank_lt_of_canMoveTo allowed⟩

/-- No two writes move one row from the same status. -/
theorem Sound.commit_unique (h : t.Sound) {m m' : Commit} (hm : m ∈ t.commits)
    (hm' : m' ∈ t.commits) {d : Direction} {id : Uuid} {s next next' : Status}
    (update : m.statement = .updateStatus d id s next)
    (update' : m'.statement = .updateStatus d id s next') : m = m' := by
  rcases List.getElem_of_mem hm with ⟨i, hi, rfl⟩
  rcases List.getElem_of_mem hm' with ⟨j, hj, rfl⟩
  have rising := List.pairwise_iff_getElem.mp h.rising
  -- Whichever of the two came first read a status of lower rank.
  rcases Nat.lt_trichotomy i j with hij | rfl | hij
  · exact absurd (rising i j hi hj hij d id s next s next' update update') (Nat.lt_irrefl _)
  · rfl
  · exact absurd (rising j i hj hi hij d id s next' s next update' update) (Nat.lt_irrefl _)

theorem sound_traffic (store : Store) (events : List Event) : (store.traffic events).Sound :=
  run_induction (fun _ event _ ht => ht.step event) (sound_start store)

end Traffic

end FundsLedger
