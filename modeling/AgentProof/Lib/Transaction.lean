import Mathlib.Tactic

/-!
# Transactions with bracketed executions

A system whose state changes in transactions.  A transaction is a tree of
atomic actions and bracketed executions: a bracket runs a check before its
body, keeps what that check returned, and runs a second check with it after
the body.  Brackets nest, a failing sub-call can be caught, and whatever fails
leaves no trace.  Between transactions the clock may move, and only then.

A run leaves a log of the actions and executions that took effect.
`Keeps.run` is the induction rule for properties of a state together with the
log of how it was reached: each kind of step is looked at once, and an
execution is looked at with the states on both ends of its body.
-/

namespace Transaction

/-- Atomic actions, the two checks around an execution, and the clock. -/
structure System (S A B H E ε K T C : Type*) where
  act : A → S → Except ε (S × E)
  enter : B → S → Except ε H
  leave : B → H → S → Except ε (S × E)
  /-- Executions of one scope nest in each other. -/
  scope : B → K
  tick : T → S → S
  clock : S → C
  act_clock : ∀ {a s s' events}, act a s = .ok (s', events) → clock s' = clock s
  leave_clock : ∀ {b h s s' events}, leave b h s = .ok (s', events) → clock s' = clock s

/-- What a transaction does. -/
inductive Call (A B : Type*)
  | done
  | act (a : A)
  | seq (first second : Call A B)
  | bracket (b : B) (body : Call A B)
  /-- A sub-call whose failure the caller survives. -/
  | attempt (body : Call A B)

/-- What took effect.  An execution is recorded when it ends, after everything
its body did, with the states it started from and ended in. -/
inductive Entry (S A B E : Type*)
  | act (a : A) (events : E)
  | bracket (b : B) (pre post : S) (nested : Bool) (events : E)

inductive Step (A B T : Type*)
  | tick (t : T)
  | tx (call : Call A B)

variable {S A B H E ε K T C : Type*} [DecidableEq K]

/-- Run a call while executions of the scopes `active` are under way. -/
def Call.run (sys : System S A B H E ε K T C) :
    Call A B → List K → S → Except ε (S × List (Entry S A B E))
  | .done, _, s => .ok (s, [])
  | .act a, _, s =>
      match sys.act a s with
      | .ok (s', events) => .ok (s', [.act a events])
      | .error e => .error e
  | .seq first second, active, s =>
      match first.run sys active s with
      | .ok (s₁, log) =>
          match second.run sys active s₁ with
          | .ok (s₂, log') => .ok (s₂, log ++ log')
          | .error e => .error e
      | .error e => .error e
  | .bracket b body, active, s =>
      match sys.enter b s with
      | .error e => .error e
      | .ok h =>
          match body.run sys (sys.scope b :: active) s with
          | .error e => .error e
          | .ok (s₁, log) =>
              match sys.leave b h s₁ with
              | .error e => .error e
              | .ok (s', events) =>
                  .ok (s', log ++ [.bracket b s s' (decide (sys.scope b ∈ active)) events])
  | .attempt body, active, s =>
      match body.run sys active s with
      | .ok result => .ok result
      | .error _ => .ok (s, [])

/-- A failing transaction changes nothing. -/
def Step.run (sys : System S A B H E ε K T C) : Step A B T → S → S × List (Entry S A B E)
  | .tick t, s => (sys.tick t s, [])
  | .tx call, s =>
      match call.run sys [] s with
      | .ok result => result
      | .error _ => (s, [])

def run (sys : System S A B H E ε K T C) : List (Step A B T) → S → S × List (Entry S A B E)
  | [], s => (s, [])
  | step :: steps, s =>
      let (s₁, log) := step.run sys s
      let (s₂, log') := run sys steps s₁
      (s₂, log ++ log')

theorem run_append (sys : System S A B H E ε K T C) (steps steps' : List (Step A B T)) (s : S) :
    run sys (steps ++ steps') s =
      ((run sys steps' (run sys steps s).1).1,
        (run sys steps s).2 ++ (run sys steps' (run sys steps s).1).2) := by
  induction steps generalizing s with
  | nil => simp [run]
  | cons step steps ih => simp only [List.cons_append, run, ih, List.append_assoc]

/-! ## What a successful call did -/

section Inversion

variable {sys : System S A B H E ε K T C} {active : List K} {s s' : S}
  {log : List (Entry S A B E)}

theorem run_act_eq_ok {a : A} (ran : (Call.act a).run sys active s = .ok (s', log)) :
    ∃ events, sys.act a s = .ok (s', events) ∧ log = [.act a events] := by
  simp only [Call.run] at ran
  split at ran
  · next acted =>
      obtain ⟨rfl, rfl⟩ := by simpa using ran
      exact ⟨_, acted, rfl⟩
  · simp at ran

theorem run_seq_eq_ok {first second : Call A B}
    (ran : (Call.seq first second).run sys active s = .ok (s', log)) :
    ∃ s₁ log₁ log₂, first.run sys active s = .ok (s₁, log₁) ∧
      second.run sys active s₁ = .ok (s', log₂) ∧ log = log₁ ++ log₂ := by
  simp only [Call.run] at ran
  split at ran
  · next ranFirst =>
      split at ran
      · next ranSecond =>
          obtain ⟨rfl, rfl⟩ := by simpa using ran
          exact ⟨_, _, _, ranFirst, ranSecond, rfl⟩
      · simp at ran
  · simp at ran

theorem run_bracket_eq_ok {b : B} {body : Call A B}
    (ran : (Call.bracket b body).run sys active s = .ok (s', log)) :
    ∃ h s₁ inner events, sys.enter b s = .ok h ∧
      body.run sys (sys.scope b :: active) s = .ok (s₁, inner) ∧
      sys.leave b h s₁ = .ok (s', events) ∧
      log = inner ++ [.bracket b s s' (decide (sys.scope b ∈ active)) events] := by
  simp only [Call.run] at ran
  split at ran
  · simp at ran
  · next h entered =>
      split at ran
      · simp at ran
      · next ranBody =>
          split at ran
          · simp at ran
          · next left =>
              obtain ⟨rfl, rfl⟩ := by simpa using ran
              exact ⟨_, _, _, _, entered, ranBody, left, rfl⟩

theorem run_attempt_eq_ok {body : Call A B}
    (ran : (Call.attempt body).run sys active s = .ok (s', log)) :
    body.run sys active s = .ok (s', log) ∨ s' = s ∧ log = [] := by
  simp only [Call.run] at ran
  split at ran
  · next ranBody => exact .inl (ranBody.trans ran)
  · obtain ⟨rfl, rfl⟩ := by simpa using ran
    exact .inr ⟨rfl, rfl⟩

theorem run_act_of_ok {a : A} {events : E} (acted : sys.act a s = .ok (s', events)) :
    (Call.act a).run sys active s = .ok (s', [.act a events]) := by
  simp only [Call.run, acted]

/-- An execution whose two checks and body succeed succeeds. -/
theorem run_bracket_of_ok {b : B} {body : Call A B} {h : H} {s₁ : S} {events : E}
    (entered : sys.enter b s = .ok h)
    (ranBody : body.run sys (sys.scope b :: active) s = .ok (s₁, log))
    (left : sys.leave b h s₁ = .ok (s', events)) :
    (Call.bracket b body).run sys active s =
      .ok (s', log ++ [.bracket b s s' (decide (sys.scope b ∈ active)) events]) := by
  simp only [Call.run, entered, ranBody, left]

/-- The clock stands still within a transaction. -/
theorem Call.run_clock {call : Call A B} (ran : call.run sys active s = .ok (s', log)) :
    sys.clock s' = sys.clock s := by
  induction call generalizing active s s' log with
  | done =>
      obtain ⟨rfl, -⟩ := by simpa [Call.run] using ran
      rfl
  | act a =>
      obtain ⟨events, acted, -⟩ := run_act_eq_ok ran
      exact sys.act_clock acted
  | seq first second ihFirst ihSecond =>
      obtain ⟨s₁, log₁, log₂, ranFirst, ranSecond, -⟩ := run_seq_eq_ok ran
      exact (ihSecond ranSecond).trans (ihFirst ranFirst)
  | bracket b body ih =>
      obtain ⟨h, s₁, inner, events, -, ranBody, left, -⟩ := run_bracket_eq_ok ran
      exact (sys.leave_clock left).trans (ih ranBody)
  | attempt body ih =>
      rcases run_attempt_eq_ok ran with ranBody | ⟨rfl, -⟩
      · exact ih ranBody
      · rfl

end Inversion

/-! ## The induction rule -/

/-- `Inv` survives every step whose log entry is `Allowed`. -/
structure Keeps (sys : System S A B H E ε K T C) (Allowed : Entry S A B E → Prop)
    (Inv : S → List (Entry S A B E) → Prop) : Prop where
  act : ∀ {s log a s' events}, Inv s log → sys.act a s = .ok (s', events) →
    Allowed (.act a events) → Inv s' (log ++ [.act a events])
  bracket : ∀ {s log b h s₁ inner s' nested events}, Inv s log → sys.enter b s = .ok h →
    Inv s₁ (log ++ inner) → sys.clock s₁ = sys.clock s → sys.leave b h s₁ = .ok (s', events) →
    Allowed (.bracket b s s' nested events) →
    Inv s' (log ++ inner ++ [.bracket b s s' nested events])
  tick : ∀ {s log t}, Inv s log → Inv (sys.tick t s) log

section Rule

variable {sys : System S A B H E ε K T C} {Allowed : Entry S A B E → Prop}
  {Inv : S → List (Entry S A B E) → Prop}

/-- One call, at any depth of nesting. -/
theorem Keeps.call (keeps : Keeps sys Allowed Inv) {call : Call A B} {active : List K} {s s' : S}
    {log log' : List (Entry S A B E)} (start : Inv s log)
    (ran : call.run sys active s = .ok (s', log')) (allowed : ∀ e ∈ log', Allowed e) :
    Inv s' (log ++ log') := by
  induction call generalizing active s s' log log' with
  | done =>
      obtain ⟨rfl, rfl⟩ := by simpa [Call.run] using ran
      simpa using start
  | act a =>
      obtain ⟨events, acted, rfl⟩ := run_act_eq_ok ran
      exact keeps.act start acted (allowed _ (by simp))
  | seq first second ihFirst ihSecond =>
      obtain ⟨s₁, log₁, log₂, ranFirst, ranSecond, rfl⟩ := run_seq_eq_ok ran
      rw [← List.append_assoc]
      exact ihSecond (ihFirst start ranFirst fun e mem => allowed e (by simp [mem])) ranSecond
        fun e mem => allowed e (by simp [mem])
  | bracket b body ih =>
      obtain ⟨h, s₁, inner, events, entered, ranBody, left, rfl⟩ := run_bracket_eq_ok ran
      rw [← List.append_assoc]
      exact keeps.bracket start entered
        (ih start ranBody fun e mem => allowed e (by simp [mem])) (Call.run_clock ranBody) left
        (allowed _ (by simp))
  | attempt body ih =>
      rcases run_attempt_eq_ok ran with ranBody | ⟨rfl, rfl⟩
      · exact ih start ranBody allowed
      · simpa using start

/-- One step of a run: a failing transaction keeps the state and the log. -/
theorem Keeps.step (keeps : Keeps sys Allowed Inv) {step : Step A B T} {s : S}
    {log : List (Entry S A B E)} (start : Inv s log)
    (allowed : ∀ e ∈ (step.run sys s).2, Allowed e) :
    Inv (step.run sys s).1 (log ++ (step.run sys s).2) := by
  cases step with
  | tick t => simpa [Step.run] using keeps.tick start
  | tx call =>
      simp only [Step.run] at allowed ⊢
      split at allowed
      · next ran => exact keeps.call start ran allowed
      · simpa using start

/-- Every run. -/
theorem Keeps.run (keeps : Keeps sys Allowed Inv) (steps : List (Step A B T)) {s : S}
    {log : List (Entry S A B E)} (start : Inv s log)
    (allowed : ∀ e ∈ (run sys steps s).2, Allowed e) :
    Inv (run sys steps s).1 (log ++ (run sys steps s).2) := by
  induction steps generalizing s log with
  | nil => simpa [Transaction.run] using start
  | cons step steps ih =>
      simp only [Transaction.run] at allowed ⊢
      rw [← List.append_assoc]
      exact ih (keeps.step start fun e mem => allowed e (by simp [mem]))
        fun e mem => allowed e (by simp [mem])

/-- Every run, for a property of the state alone. -/
theorem Keeps.run_state {P : S → Prop} (keeps : Keeps sys Allowed fun s _ => P s)
    (steps : List (Step A B T)) {s : S} (start : P s)
    (allowed : ∀ e ∈ (Transaction.run sys steps s).2, Allowed e) :
    P (Transaction.run sys steps s).1 :=
  @Keeps.run S A B H E ε K T C _ sys Allowed (fun s _ => P s) keeps steps s [] start allowed

end Rule

end Transaction
