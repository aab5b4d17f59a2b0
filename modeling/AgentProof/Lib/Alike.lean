import Mathlib.Tactic

/-!
# Two runs side by side

Two computations that may throw are alike when both throw, whatever they throw,
or both return and the results are related.  Runs of one program on related
inputs are compared step by step.  `AlikeBy` asks more: what they throw is
related too.
-/

universe u v w x

/-- Both throw, or both return related results. -/
inductive Alike {E : Type u} {A : Type v} {B : Type w} (R : A → B → Prop) :
    Except E A → Except E B → Prop
  | throws (e e' : E) : Alike R (.error e) (.error e')
  | returns {a : A} {b : B} (related : R a b) : Alike R (.ok a) (.ok b)

namespace Alike

variable {E : Type u} {A B : Type v} {C D : Type v} {R : A → B → Prop} {S : C → D → Prop}

theorem refl (y : Except E A) : Alike Eq y y := by
  cases y with
  | error e => exact throws e e
  | ok a => exact returns rfl

theorem symm {y : Except E A} {z : Except E B} (alike : Alike R y z) :
    Alike (fun b a => R a b) z y := by
  cases alike with
  | throws e e' => exact throws e' e
  | returns related => exact returns related

theorem mono {y : Except E A} {z : Except E B} {R' : A → B → Prop} (alike : Alike R y z)
    (weaker : ∀ a b, R a b → R' a b) : Alike R' y z := by
  cases alike with
  | throws e e' => exact throws e e'
  | returns related => exact returns (weaker _ _ related)

theorem ok_iff {a : A} {b : B} : Alike R (.ok a : Except E A) (.ok b) ↔ R a b := by
  constructor
  · rintro (_ | related)
    exact related
  · exact returns

theorem not_error_ok {e : E} {b : B} : ¬ Alike R (.error e : Except E A) (.ok b) := by
  intro alike
  cases alike

theorem not_ok_error {e : E} {a : A} : ¬ Alike R (.ok a : Except E A) (.error e) := by
  intro alike
  cases alike

theorem eq_ok {a : A} {z : Except E A} (alike : Alike Eq (.ok a) z) : z = .ok a := by
  cases alike with
  | returns same => rw [same]

/-- Related results, one after the other. -/
theorem bind {y : Except E A} {z : Except E B} {f : A → Except E C} {g : B → Except E D}
    (first : Alike R y z) (rest : ∀ a b, R a b → Alike S (f a) (g b)) :
    Alike S (y >>= f) (z >>= g) := by
  cases first with
  | throws e e' => exact throws e e'
  | returns related => exact rest _ _ related

/-- The same result, one after the other. -/
theorem bindEq {y z : Except E A} {f : A → Except E C} {g : A → Except E D}
    (first : Alike Eq y z) (rest : ∀ a, Alike S (f a) (g a)) : Alike S (y >>= f) (z >>= g) :=
  first.bind fun a b same => by
    subst same
    exact rest a

/-- The same branch on both sides. -/
theorem ite {p q : Prop} [Decidable p] [Decidable q] (same : p ↔ q) {y y' : Except E A}
    {z z' : Except E B} (holds : p → Alike R y z) (fails : ¬ p → Alike R y' z') :
    Alike R (if p then y else y') (if q then z else z') := by
  by_cases here : p
  · rw [if_pos here, if_pos (same.mp here)]
    exact holds here
  · rw [if_neg here, if_neg (mt same.mpr here)]
    exact fails here

/-- The results remember where they came from. -/
theorem remember {y : Except E A} {z : Except E B} (alike : Alike R y z) :
    Alike (fun a b => R a b ∧ y = .ok a) y z := by
  cases alike with
  | throws e e' => exact throws e e'
  | returns related => exact returns ⟨related, rfl⟩

/-- What is left when what was thrown is forgotten. -/
theorem toOption {y : Except E A} {z : Except E B} (alike : Alike R y z) :
    Option.Rel R y.toOption z.toOption := by
  cases alike with
  | throws e e' => exact .none
  | returns related => exact .some related

theorem join {y : Except E (Option A)} {z : Except E (Option B)} (alike : Alike (Option.Rel R) y z) :
    Option.Rel R y.toOption.join z.toOption.join := by
  cases alike with
  | throws e e' => exact .none
  | returns related => exact related

end Alike

/-- Both throw, and the errors are related, or both return, and the results are. -/
inductive AlikeBy {E : Type u} {A : Type v} {B : Type w} (K : E → E → Prop) (R : A → B → Prop) :
    Except E A → Except E B → Prop
  | throws {e e' : E} (related : K e e') : AlikeBy K R (.error e) (.error e')
  | returns {a : A} {b : B} (related : R a b) : AlikeBy K R (.ok a) (.ok b)

namespace AlikeBy

variable {E F : Type u} {A B C D : Type v} {K : E → E → Prop} {R : A → B → Prop} {S : C → D → Prop}

theorem bind {y : Except E A} {z : Except E B} {f : A → Except E C} {g : B → Except E D}
    (first : AlikeBy K R y z) (rest : ∀ a b, R a b → AlikeBy K S (f a) (g b)) :
    AlikeBy K S (y >>= f) (z >>= g) := by
  cases first with
  | throws related => exact throws related
  | returns related => exact rest _ _ related

/-- The same branch on both sides. -/
theorem ite {p q : Prop} [Decidable p] [Decidable q] (same : p ↔ q) {y y' : Except E A}
    {z z' : Except E B} (holds : p → AlikeBy K R y z) (fails : ¬ p → AlikeBy K R y' z') :
    AlikeBy K R (if p then y else y') (if q then z else z') := by
  by_cases here : p
  · rw [if_pos here, if_pos (same.mp here)]
    exact holds here
  · rw [if_neg here, if_neg (mt same.mpr here)]
    exact fails here

/-- Errors of another kind, all of which are related. -/
theorem mapError {y : Except F A} {z : Except F B} {wrap : F → E} (alike : Alike R y z)
    (related : ∀ e e', K (wrap e) (wrap e')) : AlikeBy K R (y.mapError wrap) (z.mapError wrap) := by
  cases alike with
  | throws e e' => exact throws (related e e')
  | returns same => exact returns same

end AlikeBy
