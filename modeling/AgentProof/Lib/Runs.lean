import Mathlib.Tactic

/-!
# Runs of a labelled step function

A component that reacts to one event at a time is a partial step function.  A
run is a list of events the component accepts one after another, each in a
state that meets a side condition with it.  `Run.invariant` carries a property
of states along a run; `replay` executes a run, and finds that it is one.
-/

namespace Runs

variable {S A : Type*}

/-- From `s`, the events lead to `t`, each accepted where `Meets` holds. -/
inductive Run (step : S → A → Option S) (Meets : S → A → Prop) : S → List A → S → Prop
  | nil {s} : Run step Meets s [] s
  | cons {s s' t a as} (meets : Meets s a) (steps : step s a = some s')
      (rest : Run step Meets s' as t) : Run step Meets s (a :: as) t

variable {step : S → A → Option S} {Meets Meets' : S → A → Prop} {s t u : S} {as bs : List A}

/-- What every step keeps, a run keeps. -/
theorem Run.invariant {Inv : S → Prop} (run : Run step Meets s as t)
    (kept : ∀ s a s', Inv s → Meets s a → step s a = some s' → Inv s') (start : Inv s) :
    Inv t := by
  induction run with
  | nil => exact start
  | cons meets steps _ ih => exact ih (kept _ _ _ start meets steps)

theorem Run.concat {a : A} (run : Run step Meets s as t) (meets : Meets t a)
    (steps : step t a = some u) : Run step Meets s (as ++ [a]) u := by
  induction run with
  | nil => exact .cons meets steps .nil
  | cons first stepped _ ih => exact .cons first stepped (ih meets steps)

/-- What holds of no events at the start, and goes from the events so far to one
more, holds of the events of a run. -/
theorem Run.history {Inv : List A → S → Prop} (run : Run step Meets s as t) (start : Inv [] s)
    (kept : ∀ before a s₁ s₂, Run step Meets s before s₁ → Inv before s₁ → Meets s₁ a →
      step s₁ a = some s₂ → Inv (before ++ [a]) s₂) : Inv as t := by
  have from_here : ∀ {s' : S} {before : List A}, Run step Meets s before s' → Inv before s' →
      ∀ {after : List A} {t' : S}, Run step Meets s' after t' → Inv (before ++ after) t' := by
    intro s' before ran held after t' rest
    induction rest generalizing before with
    | nil => rwa [List.append_nil]
    | cons meets steps _ ih =>
        rw [List.append_cons]
        exact ih (ran.concat meets steps) (kept _ _ _ _ ran held meets steps)
  exact from_here .nil start run

theorem Run.append (first : Run step Meets s as t) (second : Run step Meets t bs u) :
    Run step Meets s (as ++ bs) u := by
  induction first with
  | nil => exact second
  | cons meets steps _ ih => exact .cons meets steps (ih second)

theorem Run.mono (weaker : ∀ s a, Meets s a → Meets' s a) (run : Run step Meets s as t) :
    Run step Meets' s as t := by
  induction run with
  | nil => exact .nil
  | cons meets steps _ ih => exact .cons (weaker _ _ meets) steps ih

/-- One list of events leads to one state. -/
theorem Run.target_unique (run : Run step Meets s as t) (other : Run step Meets s as u) :
    t = u := by
  induction run with
  | nil =>
      cases other
      rfl
  | cons meets steps _ ih =>
      cases other with
      | cons meets' steps' rest =>
          obtain rfl := Option.some.inj (steps.symm.trans steps')
          exact ih rest

/-- The state a run is in before the events that are left. -/
theorem Run.split (run : Run step Meets s (as ++ bs) u) :
    ∃ t, Run step Meets s as t ∧ Run step Meets t bs u := by
  induction as generalizing s with
  | nil => exact ⟨s, .nil, run⟩
  | cons a as ih =>
      cases run with
      | cons meets steps rest =>
          obtain ⟨t, first, second⟩ := ih rest
          exact ⟨t, .cons meets steps first, second⟩

/-- Somewhere among the events from `s` on, one finds a state with `P`. -/
def Passes (step : S → A → Option S) (Meets P : S → A → Prop) (s : S) (as : List A) : Prop :=
  ∃ before a after t, as = before ++ a :: after ∧ Run step Meets s before t ∧ P t a

theorem not_passes_nil {P : S → A → Prop} : ¬ Passes step Meets P s [] := by
  rintro ⟨before, a, after, t, split, -⟩
  exact List.append_ne_nil_of_right_ne_nil before (List.cons_ne_nil a after) split.symm

theorem Run.passes_concat {P : S → A → Prop} {a : A} (run : Run step Meets s as t) :
    Passes step Meets P s (as ++ [a]) ↔ Passes step Meets P s as ∨ P t a := by
  constructor
  · rintro ⟨before, b, after, u, split, ran, holds⟩
    rcases List.eq_nil_or_concat after with rfl | ⟨after, last, rfl⟩
    · obtain ⟨rfl, same⟩ := List.append_inj' split rfl
      cases same
      exact .inr (ran.target_unique run ▸ holds)
    · rw [List.concat_eq_append, ← List.cons_append, ← List.append_assoc] at split
      exact .inl ⟨before, b, after, u, List.append_inj_left' split rfl, ran, holds⟩
  · rintro (⟨before, b, after, u, rfl, ran, holds⟩ | holds)
    · exact ⟨before, b, after ++ [a], u, by rw [List.append_assoc, List.cons_append], ran, holds⟩
    · exact ⟨as, a, [], t, rfl, run, holds⟩

/-- Every event from `s` on finds a state with `P`. -/
def Throughout (step : S → A → Option S) (Meets P : S → A → Prop) (s : S) (as : List A) : Prop :=
  ∀ before a after t, as = before ++ a :: after → Run step Meets s before t → P t a

theorem Run.throughout_concat {P : S → A → Prop} {a : A} (run : Run step Meets s as t) :
    Throughout step Meets P s (as ++ [a]) ↔ Throughout step Meets P s as ∧ P t a := by
  have passes := @Run.passes_concat _ _ _ _ _ _ _ (fun s a => ¬ P s a) a run
  have dual (bs : List A) : Throughout step Meets P s bs ↔
      ¬ Passes step Meets (fun s a => ¬ P s a) s bs := by
    unfold Throughout Passes
    push Not
    rfl
  rw [dual, dual, passes, not_or, not_not]

/-- Two properties that agree wherever `Inv` holds, the second of which makes a step keep `Inv`. -/
theorem Run.throughout_congr {Inv : S → Prop} {P Q : S → A → Prop} (run : Run step Meets s as t)
    (start : Inv s) (same : ∀ s a, Inv s → Meets s a → (P s a ↔ Q s a))
    (kept : ∀ s a s', Inv s → Meets s a → Q s a → step s a = some s' → Inv s') :
    Throughout step Meets P s as ↔ Throughout step Meets Q s as := by
  have reached : (Throughout step Meets P s as ↔ Throughout step Meets Q s as) ∧
      (Throughout step Meets Q s as → Inv t) := by
    refine @Run.history _ _ _ _ _ _ _ (fun as t => (Throughout step Meets P s as ↔
      Throughout step Meets Q s as) ∧ (Throughout step Meets Q s as → Inv t)) run ?_ ?_
    · refine ⟨?_, fun _ => start⟩
      have none {R : S → A → Prop} : Throughout step Meets R s [] :=
        fun before a after t split => absurd split.symm
          (List.append_ne_nil_of_right_ne_nil before (List.cons_ne_nil a after))
      exact iff_of_true none none
    · intro before a s₁ s₂ ran held meets steps
      obtain ⟨agree, invariant⟩ := held
      rw [ran.throughout_concat, ran.throughout_concat, agree]
      refine ⟨and_congr_right fun through => same _ _ (invariant through) meets, fun through => ?_⟩
      exact kept _ _ _ (invariant through.1) meets through.2 steps
  exact reached.1

/-- Execute a run, checking the side condition of every step. -/
def replay (step : S → A → Option S) (Meets : S → A → Prop) [∀ s a, Decidable (Meets s a)] :
    S → List A → Option S
  | s, [] => some s
  | s, a :: as =>
      if Meets s a then
        match step s a with
        | some s' => replay step Meets s' as
        | none => none
      else none

theorem run_of_replay [∀ s a, Decidable (Meets s a)] (replayed : replay step Meets s as = some t) :
    Run step Meets s as t := by
  induction as generalizing s with
  | nil =>
      obtain rfl : s = t := by simpa [replay] using replayed
      exact .nil
  | cons a as ih =>
      rw [replay] at replayed
      split at replayed
      · next meets =>
          split at replayed
          · next s' steps => exact .cons meets steps (ih replayed)
          · simp at replayed
      · simp at replayed

end Runs
