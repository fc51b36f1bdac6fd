import FundsLedger.Proofs.Database.Reading

/-!
# Laws for programs

A law tells what a program may do, given what is known of its run so far: which statements it may
send and what is reckoned with as a response, which transactions it may start and end, and what it
may say. A program obeys a law if each of its nodes does, and so the combinators keep to it. What is
known of a run, and is true at first, is then true at its end. The main statement is `Obeys.run`.
-/

namespace FundsLedger.Database

variable {κ σ ε ε' α β : Type}

/-- What may be done, given what is known, and what is known afterwards. -/
structure Law (κ : Type) where
  asks : κ → Statement → Prop
  hears : κ → Statement → Response → κ → Prop
  moves : κ → Bound → κ → Prop
  speaks : κ → Note → κ → Prop

namespace Program

/-- A program that keeps to a law. If it succeeds, its result satisfies `post` together with what is
known then, and if it fails, its error satisfies `fails`. -/
inductive Obeys (law : Law κ) (post : κ → α → Prop) (fails : κ → ε → Prop) :
    κ → Program ε α → Prop
  | done {known a} (h : post known a) : Obeys law post fails known (done a)
  | fail {known e} (h : fails known e) : Obeys law post fails known (fail e)
  | send {known s next} (asks : law.asks known s)
      (rest : ∀ r known', law.hears known s r known' → Obeys law post fails known' (next r)) :
      Obeys law post fails known (send s next)
  | bound {known known' b next} (moves : law.moves known b known')
      (rest : Obeys law post fails known' next) : Obeys law post fails known (bound b next)
  | say {known known' note next} (speaks : law.speaks known note known')
      (rest : Obeys law post fails known' next) : Obeys law post fails known (say note next)

namespace Obeys

variable {law : Law κ} {post weaker : κ → α → Prop} {post' : κ → β → Prop} {fails : κ → ε → Prop}
  {fails' : κ → ε' → Prop} {known : κ} {p : Program ε α}

theorem bind {f : α → Program ε β} (hp : Obeys law post fails known p)
    (hf : ∀ known a, post known a → Obeys law post' fails known (f a)) :
    Obeys law post' fails known (p >>= f) := by
  induction hp with
  | done h => exact hf _ _ h
  | fail h => exact .fail h
  | send asks rest ih => exact .send asks ih
  | bound moves rest ih => exact .bound moves ih
  | say speaks rest ih => exact .say speaks ih

theorem map {f : α → β} (hp : Obeys law post fails known p)
    (hf : ∀ known a, post known a → post' known (f a)) :
    Obeys law post' fails known (f <$> p) :=
  hp.bind fun known a h => .done (hf known a h)

theorem mapError {f : ε → ε'} (hp : Obeys law post fails known p)
    (hf : ∀ known e, fails known e → fails' known (f e)) :
    Obeys law post fails' known (p.mapError f) := by
  induction hp with
  | done h => exact .done h
  | fail h => exact .fail (hf _ _ h)
  | send asks rest ih => exact .send asks ih
  | bound moves rest ih => exact .bound moves ih
  | say speaks rest ih => exact .say speaks ih

theorem mono (hp : Obeys law post fails known p)
    (weaken : ∀ known a, post known a → weaker known a) : Obeys law weaker fails known p := by
  induction hp with
  | done h => exact .done (weaken _ _ h)
  | fail h => exact .fail h
  | send asks rest ih => exact .send asks ih
  | bound moves rest ih => exact .bound moves ih
  | say speaks rest ih => exact .say speaks ih

theorem ofExcept {x : Except ε α} (ok : ∀ a, x = .ok a → post known a)
    (error : ∀ e, x = .error e → fails known e) :
    Obeys law post fails known (Program.ofExcept x) := by
  cases x with
  | error e => exact .fail (error e rfl)
  | ok a => exact .done (ok a rfl)

/-- A statement, and what is read from its response. -/
theorem read {s : Statement} {read : Response → Except ε α} (asks : law.asks known s)
    (ok : ∀ r known' a, law.hears known s r known' → read r = .ok a → post known' a)
    (error : ∀ r known' e, law.hears known s r known' → read r = .error e → fails known' e) :
    Obeys law post fails known (.send s fun r => .ofExcept (read r)) :=
  .send asks fun r known' heard =>
    .ofExcept (fun a => ok r known' a heard) fun e => error r known' e heard

end Obeys

end Program

/-- A relation between what is known and a run so far, the state it is in, what it has exchanged and
what it has said, that is kept by every step which the law allows. -/
structure Law.Tracks (law : Law κ) (c : Connection σ)
    (holds : κ → σ → List (Statement × Response) → List Note → Prop) : Prop where
  send {known state heard said s} (h : holds known state heard said) (asks : law.asks known s) :
    ∃ known', law.hears known s (c.answer s state).1 known' ∧
      holds known' (c.answer s state).2 (heard ++ [(s, (c.answer s state).1)]) said
  move {known known' state heard said b} (h : holds known state heard said)
    (moves : law.moves known b known') : holds known' (c.move b state) heard said
  say {known known' state heard said note} (h : holds known state heard said)
    (speaks : law.speaks known note known') : holds known' state heard (said ++ [note])

namespace Program

variable {law : Law κ} {post : κ → α → Prop} {fails : κ → ε → Prop} {known : κ} {p : Program ε α}
  {c : Connection σ} {holds : κ → σ → List (Statement × Response) → List Note → Prop} {state : σ}

/-- How a run goes on keeps true what is known of it. -/
theorem Obeys.run_append (hp : Obeys law post fails known p) (tracks : law.Tracks c holds)
    {heard : List (Statement × Response)} {said : List Note} (h : holds known state heard said) :
    ∃ known', holds known' (p.run c state).state (heard ++ p.exchanges c state)
        (said ++ (p.run c state).notes) ∧
      match (p.run c state).result with
      | .ok a => post known' a
      | .error e => fails known' e := by
  induction hp generalizing state heard said with
  | @done known a promised =>
    refine ⟨known, ?_, promised⟩
    rw [exchanges, Program.run, List.append_nil, List.append_nil]
    exact h
  | @fail known e promised =>
    refine ⟨known, ?_, promised⟩
    rw [exchanges, Program.run, List.append_nil, List.append_nil]
    exact h
  | @send known s next asks rest ih =>
    obtain ⟨known', heard', h'⟩ := tracks.send h asks
    obtain ⟨last, atEnd, promised⟩ := ih _ known' heard' h'
    refine ⟨last, ?_, promised⟩
    rw [List.append_assoc] at atEnd
    exact atEnd
  | bound moves rest ih => exact ih (tracks.move h moves)
  | say speaks rest ih =>
    obtain ⟨last, atEnd, promised⟩ := ih (tracks.say h speaks)
    refine ⟨last, ?_, promised⟩
    rw [List.append_assoc] at atEnd
    exact atEnd

/-- What is known of a run at its end is true of it, and so is what the program promises. -/
theorem Obeys.run (hp : Obeys law post fails known p) (tracks : law.Tracks c holds)
    (h : holds known state [] []) :
    ∃ known', holds known' (p.run c state).state (p.exchanges c state) (p.run c state).notes ∧
      match (p.run c state).result with
      | .ok a => post known' a
      | .error e => fails known' e := by
  obtain ⟨last, atEnd, promised⟩ := hp.run_append tracks h
  rw [List.nil_append, List.nil_append] at atEnd
  exact ⟨last, atEnd, promised⟩

end Program

end FundsLedger.Database
