import FundsLedger.Proofs.Traffic.Invariant
import Mathlib.Data.List.Induction

/-!
# What became of a row

A row changes by the updates that name it and by nothing else. So what it has become since some point
of a run can be read off the writes that took effect since. The main statement is
`Sound.course_run`.
-/

namespace FundsLedger

open Database (Response Statement)
open Time (Timestamp)

def Commit.Updates (m : Commit) (d : Direction) (id : Uuid) : Prop :=
  ∃ s next, m.statement = .updateStatus d id s next

/-- The row that the first one has become by some writes. Each of them that updates it finds it in the
status that it expects and takes a step of the lifecycle; the others leave it as it is. -/
inductive Posting.Course (d : Direction) (id : Uuid) (p : Posting) : List Commit → Posting → Prop
  | start : Course d id p [] p
  | other {ms q m} (before : Course d id p ms q) (other : ¬ m.Updates d id) :
      Course d id p (ms ++ [m]) q
  | moved {ms q m next} (before : Course d id p ms q)
      (update : m.statement = .updateStatus d id q.status next)
      (allowed : q.status.canMoveTo next = true) :
      Course d id p (ms ++ [m]) (Store.moved m.time next q)

namespace Posting.Course

variable {d : Direction} {id : Uuid} {p q : Posting} {ms : List Commit}

theorem later (h : p.Course d id ms q) : p.Later q := by
  induction h with
  | start => exact .refl
  | other before other ih => exact ih
  | moved before update allowed ih => exact ih.tail (.moved _ allowed)

theorem eq_of_no_update (h : p.Course d id ms q) (none : ∀ m ∈ ms, ¬ m.Updates d id) : q = p := by
  induction h with
  | start => rfl
  | other before other ih => exact ih fun m hm => none m (List.mem_append_left _ hm)
  | moved before update allowed ih => exact absurd ⟨_, _, update⟩ (none _ (by simp))

/-- The status of the row was reached by steps of the lifecycle that the writes took. -/
theorem reaches (h : p.Course d id ms q) :
    Relation.ReflTransGen (fun s next => s.canMoveTo next = true ∧
      ∃ m ∈ ms, m.statement = .updateStatus d id s next) p.status q.status := by
  have extend : ∀ (ms : List Commit) (m : Commit) (s next : Status),
      (s.canMoveTo next = true ∧ ∃ m ∈ ms, m.statement = .updateStatus d id s next) →
        s.canMoveTo next = true ∧ ∃ m' ∈ ms ++ [m], m'.statement = .updateStatus d id s next := by
    intro ms m s next ⟨allowed, m', hm', update⟩
    exact ⟨allowed, m', List.mem_append_left _ hm', update⟩
  induction h with
  | start => exact .refl
  | other before other ih => exact Relation.ReflTransGen.mono (extend _ _) _ _ ih
  | moved before update allowed ih =>
    exact (Relation.ReflTransGen.mono (extend _ _) _ _ ih).tail ⟨allowed, _, by simp, update⟩

end Posting.Course

namespace Write

variable {store store' : Store} {time : Timestamp} {request : Request} {heard : List Response}
  {s : Statement} {r : Response} {d : Direction} {id : Uuid} {p : Posting}

/-- A write that does not update a row leaves it as it is. -/
theorem posting?_of_other (h : Write store time request heard s r store')
    (other : ∀ expected next, s ≠ .updateStatus d id expected next)
    (hp : store.posting? d id = some p) : store'.posting? d id = some p := by
  cases h with
  | insert positive here fresh =>
    rw [Store.posting?_appendRow here]
    split
    · rename_i hd
      rw [← hd, hp, Option.some_or]
    · exact hp
  | @update d' id' next r p' table saw allowed here target =>
    rw [Store.posting?_turned here]
    split
    · rename_i hd
      subst hd
      have hne : p.id ≠ id' := by
        intro hid
        rw [Store.id_of_posting? hp] at hid
        subst hid
        exact other _ _ rfl
      rw [hp, Option.map_some, Store.turned_of_ne hne]
    · exact hp

end Write

namespace Traffic

variable {t : Traffic} {d : Direction} {id : Uuid} {p : Posting}

/-- What one event makes of a row is told by the write that it adds. -/
theorem Sound.course_step (h : t.Sound) {ms : List Commit} {q : Posting}
    (course : p.Course d id ms q) (hq : t.store.posting? d id = some q) (event : Event) :
    ∃ q' more, (t.step event).store.posting? d id = some q' ∧
      (t.step event).commits = t.commits ++ more ∧ p.Course d id (ms ++ more) q' := by
  rcases t.write_step event with ⟨hstore, hcommits⟩ | ⟨m, heard, r, written⟩
  · exact ⟨q, [], by rw [hstore, hq], by simpa using hcommits, by simpa using course⟩
  · by_cases updates : m.Updates d id
    · obtain ⟨s, next, update⟩ := updates
      obtain ⟨allowed, q', hq', rfl, hmoved⟩ := h.moved_of_written written update
      rw [hq] at hq'
      cases hq'
      exact ⟨_, [m], hmoved, written.commits, course.moved update allowed⟩
    · have kept := written.write.posting?_of_other (fun s n hs => updates ⟨s, n, hs⟩) hq
      exact ⟨q, [m], kept, written.commits, course.other updates⟩

theorem Sound.run (h : t.Sound) (events : List Event) : (t.run events).Sound :=
  run_induction (fun _ event _ ht => ht.step event) h

/-- What a run makes of a row is told by the writes that took effect in it. -/
theorem Sound.course_run (h : t.Sound) (hp : t.store.posting? d id = some p)
    (events : List Event) :
    ∃ q ms, (t.run events).store.posting? d id = some q ∧
      (t.run events).commits = t.commits ++ ms ∧ p.Course d id ms q := by
  induction events using List.reverseRecOn with
  | nil => exact ⟨p, [], hp, (List.append_nil _).symm, .start⟩
  | append_singleton events event ih =>
    obtain ⟨q, ms, hq, hcommits, course⟩ := ih
    obtain ⟨q', more, hq', hmore, course'⟩ := (h.run events).course_step course hq event
    rw [run_append]
    refine ⟨q', ms ++ more, hq', ?_, course'⟩
    calc ((t.run events).step event).commits = (t.run events).commits ++ more := hmore
      _ = t.commits ++ (ms ++ more) := by rw [hcommits, List.append_assoc]

end Traffic

end FundsLedger
