import FundsLedger.Proofs.Traffic.Invariant

/-!
# One call after the other

However the statements of many calls are mixed, what they leave behind could as well have come about
by one call after the other: those whose write took effect, each of them alone from its start to its
end, in the order of their writes. The main statement is `serialisable`.
-/

namespace FundsLedger

open Database (Answer Connection Outcome Program Response Row Sent Statement)
open Time (Timestamp)
open Request (Sends)

/-- The way to a store that nobody else uses, where every statement is sent at the same time. -/
def Store.connection (time : Timestamp) : Connection Store where
  answer s store := store.respond time s
  move _ store := store

/-- The call behind a commit, run on its own from its start to its end. -/
def Commit.alone (m : Commit) (store : Store) : Outcome Store LedgerError (List Entry) :=
  m.request.program.run (Store.connection m.time) store

/-- From one store to another by running the calls behind some commits one at a time. Each of them
succeeds, and its write takes effect again. -/
inductive Serial (store : Store) : List Commit → Store → Prop
  | none : Serial store [] store
  | next {ms store' m} (before : Serial store ms store')
      (done : ∃ entry, (m.alone store').result = .ok [entry])
      (sent : .statement m.statement ∈ (m.alone store').sent)
      (effect : m.statement.takesEffect (store'.respond m.time m.statement).1 = true) :
      Serial store (ms ++ [m]) (m.alone store').state

namespace Request

variable {store : Store} {d : Direction} {id : Uuid} {time : Timestamp} {next : Status}
  {p : Posting}

theorem run_record {e : NewEntry} (positive : 0 < e.amount.toInt) {store' : Store}
    (h : store.respond time (.insertPosting d id e) = (.ok (.rows [.ofPosting p]), store')) :
    ∃ notes, (record id d e).program.run (Store.connection time) store =
      ⟨.ok [p.entry d], store', [.statement (.insertPosting d id e)], notes⟩ := by
  obtain ⟨notes, hrun⟩ := Ledger.run_record (c := Store.connection time) positive h
  rw [Ledger.recorded_row] at hrun
  refine ⟨notes, ?_⟩
  rw [program, Program.run_map, hrun]
  rfl

theorem run_move (there : store.posting? d id = some p) (allowed : p.status.canMoveTo next = true)
    (time : Timestamp) :
    ∃ notes, (move d id next).program.run (Store.connection time) store =
      ⟨.ok [(Store.moved time next p).entry d],
        (store.respond time (.updateStatus d id p.status next)).2,
        [.statement (.selectById (.ledger d) id), .statement (.updateStatus d id p.status next),
          .statement (.selectById (.ledger d) id)], notes⟩ := by
  obtain ⟨table, n, here, affected, update, moved⟩ :=
    Store.respond_updateStatus_of_posting? there time next
  rw [update] at moved ⊢
  obtain ⟨notes, hrun⟩ := Ledger.run_updateStatus (c := Store.connection time)
    (Store.respond_selectById_of_posting? there time) (firstRow_row p) allowed update affected
    (Store.respond_selectById_of_posting? moved time)
  rw [Ledger.found_row] at hrun
  refine ⟨notes, ?_⟩
  rw [program, Program.run_map, hrun]
  rfl

end Request

namespace Traffic

variable {t : Traffic} {event : Event} {m : Commit} {heard : List Response} {r : Response}

/-- A write that takes effect among others takes effect when its call runs on its own instead. -/
theorem Sound.alone_of_written (h : t.Sound) (written : t.Written event m heard r) :
    ∃ entry sent notes, m.alone t.store = ⟨.ok [entry], (t.step event).store, sent, notes⟩ ∧
      .statement m.statement ∈ sent := by
  have moved : ∀ d id expected next, m.statement = .updateStatus d id expected next →
      ∃ p, t.store.posting? d id = some p ∧ p.status = expected := by
    intro d id expected next hs
    rcases h.moved_of_written written hs with ⟨_, p, there, hstatus, _⟩
    exact ⟨p, there, hstatus⟩
  rcases m with ⟨k, request, s, time⟩
  have respond := written.respond
  have write := written.write
  generalize (t.step event).store = store' at respond write ⊢
  cases write with
  | insert positive here fresh =>
    rcases Request.run_record positive respond with ⟨notes, hrun⟩
    exact ⟨_, _, notes, hrun, List.mem_singleton_self _⟩
  | @update d id next r p table saw allowed here target =>
    rcases moved d id p.status next rfl with ⟨q, there, hstatus⟩
    rw [← hstatus] at allowed
    rcases Request.run_move there allowed time with ⟨notes, hrun⟩
    rw [hstatus, respond] at hrun
    exact ⟨_, _, notes, hrun, by simp⟩

theorem Sound.serial_step {store : Store} (h : t.Sound) (serial : Serial store t.commits t.store)
    (event : Event) : Serial store (t.step event).commits (t.step event).store := by
  rcases t.write_step event with ⟨hstore, hcommits⟩ | ⟨m, heard, r, written⟩
  · rw [hstore, hcommits]
    exact serial
  · rcases h.alone_of_written written with ⟨entry, sent, notes, halone, hsent⟩
    have hnext := Serial.next (m := m) serial
    rw [halone, written.respond] at hnext
    rw [written.commits]
    exact hnext ⟨entry, rfl⟩ hsent written.write.takesEffect

theorem serial_traffic (store : Store) (events : List Event) :
    Serial store (store.traffic events).commits (store.traffic events).store := by
  have both : (store.traffic events).Sound ∧
      Serial store (store.traffic events).commits (store.traffic events).store :=
    run_induction (P := fun t => t.Sound ∧ Serial store t.commits t.store)
      (fun _ event _ ⟨sound, serial⟩ => ⟨sound.step event, sound.serial_step serial event⟩)
      ⟨sound_start store, .none⟩
  exact both.2

end Traffic

def Event.answered : Event → Bool
  | .arrival _ => true
  | .turn _ _ delivery => delivery = .answered

/-- A call whose write took effect and was answered, and that was answered ever since. -/
inductive Call.Thrives : Call → Prop
  | recorded {id d e p} (positive : 0 < e.amount.toInt) :
      Thrives ⟨.record id d e, [.ok (.rows [.ofPosting p])]⟩
  | moved {d id next r p answer} (saw : firstRow Row.posting r = .ok (some p))
      (allowed : p.status.canMoveTo next = true) (affected : answer.count ≠ 0) :
      Thrives ⟨.move d id next, [r, .ok answer]⟩
  | confirmed {d id next r p answer q} (saw : firstRow Row.posting r = .ok (some p))
      (allowed : p.status.canMoveTo next = true) (affected : answer.count ≠ 0) :
      Thrives ⟨.move d id next, [r, .ok answer, .ok (.rows [.ofPosting q])]⟩

theorem Write.thrives {store store' : Store} {time : Timestamp} {request : Request}
    {heard : List Response} {s : Statement} {r : Response}
    (h : Write store time request heard s r store') : Call.Thrives ⟨request, heard ++ [r]⟩ := by
  have effect := h.takesEffect
  cases h with
  | insert positive here fresh => exact .recorded positive
  | update saw allowed here target => exact .moved saw allowed (of_decide_eq_true effect)

theorem Call.Thrives.result?_ne {c : Call} (h : c.Thrives) (e : LedgerError) :
    c.result? ≠ some (.error e) := by
  intro hresult
  cases h with
  | @recorded id d e p positive =>
    have hrest : (Request.record id d e).program.after [.ok (.rows [.ofPosting p])] =
        .done [p.entry d] := by
      rw [Request.program, Program.after_map, Ledger.record_after positive, Ledger.recorded_row]
      rfl
    rw [result?, rest, hrest] at hresult
    cases hresult
  | @moved d id next r p answer saw allowed affected =>
    have hnext : Call.next? ⟨.move d id next, [r, .ok answer]⟩ =
        some (.selectById (.ledger d) id) :=
      Sends.next? (.confirm saw allowed affected)
    rw [Call.next?_eq_none hresult] at hnext
    cases hnext
  | @confirmed d id next r p answer q saw allowed affected =>
    have hrest : (Request.move d id next).program.after
        [r, .ok answer, .ok (.rows [.ofPosting q])] = .done [q.entry d] := by
      rw [Request.move_after_update saw allowed, Request.confirmMove_after affected,
        Request.find_after, Ledger.found_row]
      rfl
    rw [result?, rest, hrest] at hresult
    cases hresult

namespace Traffic

variable {t : Traffic} {k : Nat} {c : Call} {s : Statement} {time : Timestamp}

theorem Sound.thrives_hear (h : t.Sound) (hc : t.calls[k]? = some c)
    (hs : Sends c.request c.heard s) (thrives : c.Thrives) :
    (c.hear (t.store.respond time s).1).Thrives := by
  cases thrives with
  | recorded positive => cases hs
  | @moved d id next r p answer saw allowed affected =>
    cases hs with
    | confirm saw' allowed' affected' =>
      obtain ⟨q, there, _⟩ := h.seen _ (List.mem_of_getElem? hc) d id next p rfl
        (Call.saw?_eq_some_iff.mpr ⟨r, _, rfl, saw⟩)
      rw [Store.respond_selectById_of_posting? there]
      exact .confirmed saw allowed affected
  | confirmed saw allowed affected => cases hs

/-- As long as every statement is answered, the calls whose write took effect thrive. -/
theorem Sound.thrives_step (h : t.Sound)
    (thrive : ∀ m ∈ t.commits, ∃ c, t.calls[m.call]? = some c ∧ c.Thrives) {event : Event}
    (answered : event.answered = true) :
    ∀ m ∈ (t.step event).commits, ∃ c, (t.step event).calls[m.call]? = some c ∧ c.Thrives := by
  have old : ∀ m ∈ t.commits, ∃ c, (t.step event).calls[m.call]? = some c ∧ c.Thrives := by
    intro m hm
    rcases thrive m hm with ⟨c, hc, thrives⟩
    rcases calls_step hc event with hc' | ⟨s, time, delivery, rfl, hs, hc'⟩
    · exact ⟨c, hc', thrives⟩
    · cases of_decide_eq_true answered
      exact ⟨_, hc', h.thrives_hear hc hs thrives⟩
  intro m hm
  rcases t.write_step event with ⟨_, hcommits⟩ | ⟨m', heard, r, written⟩
  · rw [hcommits] at hm
    exact old m hm
  · rw [written.commits, List.mem_append, List.mem_singleton] at hm
    rcases hm with hm | rfl
    · exact old m hm
    · rcases written.calls with ⟨delivery, rfl, hc⟩
      cases of_decide_eq_true answered
      exact ⟨_, hc, written.write.thrives⟩

theorem thrives_traffic (store : Store) {events : List Event}
    (answered : ∀ event ∈ events, event.answered = true) :
    ∀ m ∈ (store.traffic events).commits,
      ∃ c, (store.traffic events).calls[m.call]? = some c ∧ c.Thrives := by
  have both : (store.traffic events).Sound ∧ ∀ m ∈ (store.traffic events).commits,
      ∃ c, (store.traffic events).calls[m.call]? = some c ∧ c.Thrives := by
    refine run_induction (P := fun t => t.Sound ∧ ∀ m ∈ t.commits,
      ∃ c, t.calls[m.call]? = some c ∧ c.Thrives) ?_ ⟨sound_start store, fun m hm => by cases hm⟩
    intro t event hevent ⟨sound, thrive⟩
    exact ⟨sound.step event, sound.thrives_step thrive (answered event hevent)⟩
  exact both.2

end Traffic

/-- What any calls leave behind comes about by running those whose write took effect one at a time,
in the order of their writes. As long as every statement is answered, a call that fails has left
nothing behind. -/
theorem serialisable (store : Store) (events : List Event) :
    Serial store (store.traffic events).commits (store.traffic events).store ∧
      ((store.traffic events).commits.map Commit.call).Nodup ∧
      (∀ m ∈ (store.traffic events).commits,
        ∃ c, (store.traffic events).calls[m.call]? = some c ∧ c.request = m.request) ∧
      ((∀ event ∈ events, event.answered = true) →
        ∀ (k : Nat) (c : Call) e, (store.traffic events).calls[k]? = some c →
          c.result? = some (.error e) → k ∉ (store.traffic events).commits.map Commit.call) := by
  have sound := Traffic.sound_traffic store events
  refine ⟨Traffic.serial_traffic store events, sound.distinct, fun m hm => ?_, ?_⟩
  · rcases sound.wrote m hm with ⟨c, hc, hrequest, _⟩
    exact ⟨c, hc, hrequest⟩
  · intro answered k c e hc hresult hk
    rcases List.mem_map.mp hk with ⟨m, hm, rfl⟩
    rcases Traffic.thrives_traffic store answered m hm with ⟨c', hc', thrives⟩
    rw [hc] at hc'
    cases hc'
    exact thrives.result?_ne e hresult

theorem serialisable_race :
    Serial Race.store
        [⟨0, .move .deposit Race.row .completed,
          .updateStatus .deposit Race.row .pending .completed, Race.time 32⟩]
        (Race.store.traffic (Race.events ++ [Race.late])).store ∧
      ∃ c : Call, (Race.store.traffic (Race.events ++ [Race.late])).calls[1]? = some c ∧
        c.result? = some (.error (.statusConflict .deposit Race.row .pending)) ∧
        1 ∉ (Race.store.traffic (Race.events ++ [Race.late])).commits.map Commit.call := by
  obtain ⟨serial, _, _, fail⟩ := serialisable Race.store (Race.events ++ [Race.late])
  have commits : (Race.store.traffic (Race.events ++ [Race.late])).commits =
      [⟨0, .move .deposit Race.row .completed,
        .updateStatus .deposit Race.row .pending .completed, Race.time 32⟩] := by decide
  have call : (Race.store.traffic (Race.events ++ [Race.late])).calls[1]? =
      some ⟨.move .deposit Race.row .failed,
        [.ok (.rows [.ofPosting (Race.deposit .pending (Race.time 20))]), .ok (.affected 0)]⟩ := by
    rfl
  have answered : ∀ event ∈ Race.events ++ [Race.late], event.answered = true := by decide
  rw [commits] at serial
  exact ⟨serial, _, call, rfl, fail answered 1 _ _ call rfl⟩

end FundsLedger
