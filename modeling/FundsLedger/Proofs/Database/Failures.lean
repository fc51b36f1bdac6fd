import FundsLedger.Proofs.Database.Conduct

/-!
# Programs that stop at a failure

A program that stops at a failure sends nothing more once a statement has failed, and tells of that
failure and no other. What it may send and say at all is told by a manner. The main statements are
`Stops.result_eq` and `Stops.last_of_error`.
-/

namespace FundsLedger.Database

def Response.failure? : Response → Option Failure
  | .ok _ => none
  | .error failure => some failure

/-- What a program may send and say. -/
structure Manner where
  may : Statement → Prop := fun _ => True
  speak : Note → Prop := fun _ => True

/-- The law of programs that neither start nor end a transaction and do nothing more once a statement
has failed. What is known is the failure, if there was one. -/
def Manner.law (manner : Manner) : Law (Option Failure) where
  asks failed s := failed = none ∧ manner.may s
  hears _ _ r failed := failed = Response.failure? r
  moves _ _ _ := False
  speaks failed note failed' := failed = none ∧ failed' = none ∧ manner.speak note

namespace Program

variable {manner : Manner} {ε ε' α β σ : Type} {g : Failure → ε} {post : α → Prop}
  {post' : β → Prop} {p : Program ε α}

/-- Success, with no statement that has failed. -/
def Unfailed (post : α → Prop) (failed : Option Failure) (a : α) : Prop :=
  failed = none ∧ post a

/-- An error is what `g` makes of the failure of a statement, if one has failed. -/
def Passes (g : Failure → ε) (failed : Option Failure) (e : ε) : Prop :=
  ∀ f, failed = some f → e = g f

/-- A program that stops as soon as a statement fails, with the error that `g` makes of the failure.
If it succeeds, its result satisfies `post`. -/
abbrev Stops (manner : Manner) (g : Failure → ε) (post : α → Prop) (p : Program ε α) : Prop :=
  Obeys manner.law (Unfailed post) (Passes g) none p

namespace Stops

theorem done {a : α} (h : post a) : Stops manner g post (.done a : Program ε α) :=
  Obeys.done ⟨rfl, h⟩

theorem fail (e : ε) : Stops manner g post (.fail e : Program ε α) :=
  Obeys.fail nofun

theorem say {note : Note} {next : Program ε α} (speaks : manner.speak note)
    (rest : Stops manner g post next) : Stops manner g post (.say note next) :=
  Obeys.say ⟨rfl, rfl, speaks⟩ rest

theorem bind {f : α → Program ε β} (hp : Stops manner g post p)
    (hf : ∀ a, post a → Stops manner g post' (f a)) : Stops manner g post' (p >>= f) :=
  Obeys.bind hp fun _ a ⟨clean, h⟩ => clean ▸ hf a h

theorem mapError {f : ε → ε'} (hp : Stops manner g post p) :
    Stops manner (fun failure => f (g failure)) post (p.mapError f) :=
  Obeys.mapError hp fun _ _ passes failure failed => congrArg f (passes failure failed)

theorem report {message : String} (speaks : manner.speak (.progress message)) :
    Stops manner g (fun _ => True) (Program.report message) :=
  say speaks (done trivial)

/-- After a failure there is nothing but the error. -/
theorem eq_fail {f : Failure} (h : Obeys manner.law (Unfailed post) (Passes g) (some f) p) :
    p = .fail (g f) := by
  cases h with
  | done h => cases h.1
  | fail h => rw [h f rfl]
  | send asks rest => cases asks.1
  | bound moves rest => cases moves
  | say speaks rest => cases speaks.1

variable {s : Statement} {next : Response → Program ε α}

theorem next_error (h : Stops manner g post (send s next)) (f : Failure) :
    next (.error f) = .fail (g f) := by
  cases h with
  | send asks rest => exact eq_fail (rest (.error f) _ rfl)

theorem next_ok (h : Stops manner g post (send s next)) (answer : Answer) :
    Stops manner g post (next (.ok answer)) := by
  cases h with
  | send asks rest => exact rest (.ok answer) _ rfl

theorem of_say {note : Note} {rest : Program ε α} (h : Stops manner g post (.say note rest)) :
    Stops manner g post rest := by
  cases h with
  | say speaks rest =>
    obtain ⟨-, rfl, -⟩ := speaks
    exact rest

/-- Of what such a program exchanges with a database only the last response can be a failure, and it is
the failure that is known. -/
def Heard (failed : Option Failure) (heard : List (Statement × Response)) : Prop :=
  match failed with
  | none => ∀ x ∈ heard, ∃ answer, x.2 = .ok answer
  | some f => ∃ before s, heard = before ++ [(s, .error f)] ∧ ∀ x ∈ before, ∃ answer, x.2 = .ok answer

theorem tracks_heard (c : Connection σ) :
    manner.law.Tracks c fun failed _ heard _ => Heard failed heard where
  send {failed state heard said s} h asks := by
    obtain ⟨rfl, -⟩ := asks
    refine ⟨_, rfl, ?_⟩
    cases hr : (c.answer s state).1 with
    | error f => exact ⟨heard, s, rfl, h⟩
    | ok answer =>
      intro x hx
      rcases List.mem_append.mp hx with hx | hx
      · exact h x hx
      · rw [List.mem_singleton.mp hx]
        exact ⟨answer, rfl⟩
  move _ moves := nomatch moves
  say h speaks := by
    obtain ⟨rfl, rfl, -⟩ := speaks
    exact h

/-- A program either hears of no failure, or its last statement has failed, and so it fails itself. -/
theorem exchanges_cases (h : Stops manner g post p) (c : Connection σ) (state : σ) :
    (∀ x ∈ p.exchanges c state, ∃ answer, x.2 = .ok answer) ∨
      ∃ before s f, p.exchanges c state = before ++ [(s, .error f)] ∧
        (∀ x ∈ before, ∃ answer, x.2 = .ok answer) ∧ (p.run c state).result = .error (g f) := by
  have nothing : Heard none [] := fun _ hx => absurd hx List.not_mem_nil
  obtain ⟨failed, heard, promised⟩ := h.run (tracks_heard c) nothing
  cases failed with
  | none => exact .inl heard
  | some f =>
    obtain ⟨before, s, last, answered⟩ := heard
    refine .inr ⟨before, s, f, last, answered, ?_⟩
    cases hr : (p.run c state).result with
    | ok a =>
      rw [hr] at promised
      cases promised.1
    | error e =>
      rw [hr] at promised
      rw [promised f rfl]

/-- A statement that failed is the last one, and the program fails for that reason. -/
theorem result_eq (h : Stops manner g post p) (c : Connection σ) (state : σ) {s : Statement}
    {f : Failure} (hx : (s, .error f) ∈ p.exchanges c state) :
    (p.run c state).result = .error (g f) := by
  rcases h.exchanges_cases c state with answered | ⟨before, s', f', last, answered, result⟩
  · obtain ⟨answer, accepted⟩ := answered _ hx
    cases accepted
  · rw [last] at hx
    rcases List.mem_append.mp hx with hx | hx
    · obtain ⟨answer, accepted⟩ := answered _ hx
      cases accepted
    · cases List.mem_singleton.mp hx
      exact result

/-- After a statement that failed nothing more is sent. -/
theorem last_of_error (h : Stops manner g post p) (c : Connection σ) (state : σ)
    {before after : List (Statement × Response)} {s : Statement} {f : Failure}
    (hx : p.exchanges c state = before ++ (s, .error f) :: after) : after = [] := by
  rcases h.exchanges_cases c state with answered | ⟨first, s', f', last, answered, -⟩
  · obtain ⟨answer, accepted⟩ := answered (s, .error f) (by rw [hx]; simp)
    cases accepted
  · rw [last] at hx
    rcases List.eq_nil_or_concat after with none | ⟨rest, x, rfl⟩
    · exact none
    -- The failure would be among the responses before the last one.
    · rw [List.concat_eq_append, ← List.cons_append, ← List.append_assoc] at hx
      have same := (List.append_inj' hx rfl).1
      obtain ⟨answer, accepted⟩ := answered (s, .error f) (by rw [same]; simp)
      cases accepted

/-- All that such a program sends is statements. -/
theorem sent_eq (h : Stops manner g post p) (c : Connection σ) (state : σ) :
    (p.run c state).sent = (p.exchanges c state).map fun x => .statement x.1 := by
  induction p generalizing state with
  | done a => rfl
  | fail e => rfl
  | send s next ih =>
    rcases hr : c.answer s state with ⟨failure | answer, state'⟩
    · rw [run_send c state _ _ hr, exchanges, hr]
      dsimp only
      rw [h.next_error]
      rfl
    · rw [run_send c state _ _ hr, exchanges, hr]
      simp only [ih _ (h.next_ok answer) state', List.map_cons]
  | bound b next ih =>
    cases h with
    | bound moves rest => cases moves
  | say note next ih => exact ih h.of_say state

/-- What is said is what may be said. -/
theorem notes (h : Stops manner g post p) (c : Connection σ) (state : σ) :
    ∀ note ∈ (p.run c state).notes, manner.speak note := by
  have tracks : manner.law.Tracks c fun _ _ _ said => ∀ note ∈ said, manner.speak note := {
    send := fun h _ => ⟨_, rfl, h⟩
    move := fun _ moves => nomatch moves
    say := fun h speaks note hn => (List.mem_append.mp hn).elim (h note) fun hn => by
      rw [List.mem_singleton.mp hn]
      exact speaks.2.2 }
  obtain ⟨_, spoken, -⟩ := h.run tracks fun _ hn => absurd hn List.not_mem_nil
  exact spoken

end Stops

/-! ### Single statements -/

section Statements

variable {s : Statement} {read : Row → Except Failure α}

/-- A statement, and what is read from its response, where a failure is read as that failure. -/
theorem stops_read {read : Response → Except Failure α} (may : manner.may s)
    (passes : ∀ f, read (.error f) = .error f) :
    Stops manner id (fun _ => True) (.send s fun r => .ofExcept (read r)) := by
  refine .read ⟨rfl, may⟩ ?_ ?_
  · rintro (f | answer) _ a rfl hread
    · rw [passes] at hread
      cases hread
    · exact ⟨rfl, trivial⟩
  · rintro (f | answer) _ e rfl hread failure failed
    · rw [passes] at hread
      cases hread
      cases failed
      rfl
    · cases failed

theorem stops_act (may : manner.may s) : Stops manner id (fun _ => True) s.act := by
  rw [Statement.act_eq]
  exact stops_read may fun _ => rfl

theorem stops_first (may : manner.may s) : Stops manner id (fun _ => True) (s.first read) := by
  rw [Statement.first_eq]
  exact stops_read may fun _ => rfl

theorem stops_insertAnd (may : manner.may s) :
    Stops manner id (fun _ => True) (s.insertAnd read) := by
  rw [Statement.insertAnd_eq]
  exact stops_read may fun _ => rfl

theorem stops_every (may : manner.may s) : Stops manner id (fun _ => True) (s.every read) := by
  rw [Statement.every_eq]
  exact stops_read may fun _ => rfl

end Statements

end Program

end FundsLedger.Database
