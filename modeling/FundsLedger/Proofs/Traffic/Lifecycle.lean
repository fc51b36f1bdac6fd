import FundsLedger.Proofs.Traffic.Steps
import Mathlib.Logic.Relation

/-!
# The life of a row

Whatever calls do, and however their statements are mixed and fail, a row stays where it was
recorded, keeps all but its status and the time of its last change, takes only steps of the
lifecycle, and at an end of the lifecycle is left as it is. The main statement is
`lifecycle_safety`.
-/

namespace FundsLedger

open Database (Answer Failure Response Row Statement)
open Time (Timestamp)

theorem Status.canMoveTo_of_isTerminal {s next : Status} (h : s.isTerminal = true) :
    s.canMoveTo next = false := by
  cases s <;> cases next <;> first | rfl | cases h

namespace Posting

def Later : Posting → Posting → Prop :=
  Relation.ReflTransGen Next

variable {p q : Posting}

theorem Next.origin (h : p.Next q) :
    q.id = p.id ∧ q.userId = p.userId ∧ q.currencyId = p.currencyId ∧ q.amount = p.amount ∧
      q.createdAt = p.createdAt := by
  cases h with
  | same => exact ⟨rfl, rfl, rfl, rfl, rfl⟩
  | moved time allowed => exact ⟨rfl, rfl, rfl, rfl, rfl⟩

theorem Next.canMoveTo (h : p.Next q) (changed : q.status ≠ p.status) :
    p.status.canMoveTo q.status = true := by
  cases h with
  | same => exact absurd rfl changed
  | moved time allowed => exact allowed

theorem Next.eq_of_isTerminal (h : p.Next q) (terminal : p.status.isTerminal = true) : q = p := by
  cases h with
  | same => rfl
  | moved time allowed =>
    rw [Status.canMoveTo_of_isTerminal terminal] at allowed
    cases allowed

theorem Later.origin (h : p.Later q) :
    q.id = p.id ∧ q.userId = p.userId ∧ q.currencyId = p.currencyId ∧ q.amount = p.amount ∧
      q.createdAt = p.createdAt := by
  induction h with
  | refl => exact ⟨rfl, rfl, rfl, rfl, rfl⟩
  | tail _ hstep ih =>
    rcases ih with ⟨id, user, currency, amount, created⟩
    rcases hstep.origin with ⟨id', user', currency', amount', created'⟩
    exact ⟨id'.trans id, user'.trans user, currency'.trans currency, amount'.trans amount,
      created'.trans created⟩

theorem Later.eq_of_isTerminal (h : p.Later q) (terminal : p.status.isTerminal = true) :
    q = p := by
  induction h with
  | refl => rfl
  | tail _ hstep ih =>
    subst ih
    exact hstep.eq_of_isTerminal terminal

end Posting

namespace Traffic

variable {t : Traffic} {d : Direction} {id : Uuid} {p q : Posting}

theorem posting?_step (hp : t.store.posting? d id = some p) (event : Event) :
    ∃ q, (t.step event).store.posting? d id = some q ∧ p.Next q := by
  rcases t.write_step event with ⟨hstore, _⟩ | ⟨m, heard, r, written⟩
  · rw [hstore]
    exact ⟨p, hp, .same⟩
  · exact written.write.posting?_of_some hp

/-- A row is there after every run, and has become what the lifecycle allows. -/
theorem posting?_run (hp : t.store.posting? d id = some p) (events : List Event) :
    ∃ q, (t.run events).store.posting? d id = some q ∧ p.Later q := by
  induction events generalizing t p with
  | nil => exact ⟨p, hp, .refl⟩
  | cons event events ih =>
    rcases posting?_step hp event with ⟨q, hq, hnext⟩
    rcases ih hq with ⟨r, hr, hlater⟩
    exact ⟨r, hr, hlater.head hnext⟩

theorem posting?_step_of_none {event : Event} (hp : t.store.posting? d id = none)
    (hq : (t.step event).store.posting? d id = some q) :
    ∃ k c e time delivery, event = .turn k time delivery ∧ t.calls[k]? = some c ∧
      c.request = .record id d e ∧ q = e.stored id time := by
  rcases t.write_step event with ⟨hstore, _⟩ | ⟨m, heard, r, written⟩
  · rw [hstore, hp] at hq
    cases hq
  · rcases written.turn with ⟨delivery, hevent⟩
    rcases written.write.posting?_of_none hp hq with ⟨e, hrequest, hstored⟩
    exact ⟨m.call, _, e, m.time, delivery, hevent, written.call, hrequest, hstored⟩

end Traffic

/-- At any point of any run, a row that was not there appears only by being recorded, with the
status that was asked for or else as created. A row that is there changes its status only by a step of the
lifecycle. Ever after it is there, with the same id, user, currency, amount and time of creation,
and entirely the same once it is completed or failed. -/
theorem lifecycle_safety (store : Store) (events : List Event) (d : Direction) (id : Uuid) :
    (∀ event q, (store.traffic events).store.posting? d id = none →
      ((store.traffic events).step event).store.posting? d id = some q →
        ∃ k c e time delivery, event = .turn k time delivery ∧
          (store.traffic events).calls[k]? = some c ∧ c.request = .record id d e ∧
          q = e.stored id time ∧ q.status = e.status.getD .created) ∧
    ∀ p, (store.traffic events).store.posting? d id = some p →
      (∀ event, ∃ q, ((store.traffic events).step event).store.posting? d id = some q ∧
        (q.status ≠ p.status → p.status.canMoveTo q.status = true)) ∧
      ∀ more, ∃ q, (store.traffic (events ++ more)).store.posting? d id = some q ∧
        (q.id = p.id ∧ q.userId = p.userId ∧ q.currencyId = p.currencyId ∧ q.amount = p.amount ∧
          q.createdAt = p.createdAt) ∧
        (p.status = .completed ∨ p.status = .failed → q = p) := by
  refine ⟨fun event q hp hq => ?_, fun p hp => ⟨fun event => ?_, fun more => ?_⟩⟩
  · obtain ⟨k, c, e, time, delivery, hevent, hc, hrequest, rfl⟩ :=
      Traffic.posting?_step_of_none hp hq
    exact ⟨k, c, e, time, delivery, hevent, hc, hrequest, rfl, rfl⟩
  · rcases Traffic.posting?_step hp event with ⟨q, hq, hnext⟩
    exact ⟨q, hq, hnext.canMoveTo⟩
  · rcases Traffic.posting?_run hp more with ⟨q, hq, hlater⟩
    refine ⟨q, ?_, hlater.origin, fun terminal => hlater.eq_of_isTerminal ?_⟩
    · rw [Store.traffic, Traffic.run_append]
      exact hq
    · rcases terminal with h | h <;> rw [h] <;> rfl

/-! ### Two calls that race for one row -/

namespace Race

def row : Uuid := ⟨3, by decide⟩

def time (n : Int) : Timestamp := .ofUnixSeconds n

def user : User where
  id := ⟨1, by decide⟩
  createdAt := time 0

def currency : Currency where
  id := ⟨2, by decide⟩
  code := "JPY"
  minorUnitDigits := .zero
  createdAt := time 0

def deposit (status : Status) (since : Timestamp) : Posting where
  id := row
  userId := user.id
  currencyId := currency.id
  amount := ⟨100, by decide, by decide⟩
  status
  createdAt := time 10
  updatedAt := since

def asked : NewEntry where
  userId := user.id
  currencyId := currency.id
  amount := ⟨5, by decide, by decide⟩

def store : Store where
  users := some { rows := [user] }
  currencies := some { rows := [currency] }
  deposits := some { rows := [deposit .pending (time 20)] }
  withdrawals := some {}
  types := [.status]

/-- Both calls read the deposit, and the first one completes it. -/
def events : List Event :=
  [.arrival (.move .deposit row .completed), .arrival (.move .deposit row .failed),
    .turn 0 (time 30) .answered, .turn 1 (time 31) .answered, .turn 0 (time 32) .answered]

/-- The second call sends an update that expects the deposit to be pending. -/
def late : Event :=
  .turn 1 (time 33) .answered

end Race

theorem lifecycle_safety_race :
    (Race.store.traffic Race.events).store.posting? .deposit Race.row =
        some (Race.deposit .completed (Race.time 32)) ∧
      (Race.store.traffic (Race.events ++ [Race.late])).store.posting? .deposit Race.row =
        some (Race.deposit .completed (Race.time 32)) := by
  have completed : (Race.store.traffic Race.events).store.posting? .deposit Race.row =
      some (Race.deposit .completed (Race.time 32)) := by decide
  obtain ⟨q, hq, _, final⟩ :=
    ((lifecycle_safety Race.store Race.events .deposit Race.row).2 _ completed).2 [Race.late]
  exact ⟨completed, by rw [hq, final (.inl rfl)]⟩

end FundsLedger
