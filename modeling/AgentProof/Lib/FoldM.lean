import Mathlib.Tactic

/-!
# Folds that may fail

Fields set one after another, by a fold that stops at the first failure: what
each field is in the end, and what no step touches.  A list mapped one element after
another has a result where each element has one.
-/

namespace FoldM

variable {P K V ε : Type*} {set : P → K → Except ε P} {keys : List K} {p p' : P}

theorem foldlM_cons_eq_ok {key : K} (folded : (key :: keys).foldlM set p = .ok p') :
    ∃ q, set p key = .ok q ∧ keys.foldlM set q = .ok p' := by
  rw [List.foldlM_cons] at folded
  cases first : set p key with
  | error e =>
      rw [first] at folded
      cases folded
  | ok q =>
      rw [first] at folded
      exact ⟨q, rfl, folded⟩

/-- Each key has what was asked for it, or what it had. -/
theorem foldlM_asked [DecidableEq K] {get : P → K → Option V} {asked : K → Option V}
    (one : ∀ p key p', set p key = .ok p' →
      ∀ k, get p' k = if k = key then (asked k).or (get p k) else get p k)
    (folded : keys.foldlM set p = .ok p') (k : K) :
    get p' k = if k ∈ keys then (asked k).or (get p k) else get p k := by
  induction keys generalizing p with
  | nil =>
      cases folded
      rw [if_neg List.not_mem_nil]
  | cons key rest ih =>
      obtain ⟨q, first, folded⟩ := foldlM_cons_eq_ok folded
      rw [ih folded, one p key q first k]
      by_cases here : k = key
      · rw [if_pos here, if_pos (List.mem_cons.mpr (.inl here))]
        -- asked for twice is asked for once
        split_ifs
        · cases asked k with
          | none => rfl
          | some value => rfl
        · rfl
      · rw [if_neg here]
        by_cases later : k ∈ rest
        · rw [if_pos later, if_pos (List.mem_cons_of_mem _ later)]
        · rw [if_neg later, if_neg]
          intro mem
          rcases List.mem_cons.mp mem with now | mem
          · exact here now
          · exact later mem

/-- What no step touches is as it was. -/
theorem foldlM_same {get : P → V} (one : ∀ p key p', set p key = .ok p' → get p' = get p)
    (folded : keys.foldlM set p = .ok p') : get p' = get p := by
  induction keys generalizing p with
  | nil =>
      cases folded
      rfl
  | cons key rest ih =>
      obtain ⟨q, first, folded⟩ := foldlM_cons_eq_ok folded
      rw [ih folded, one p key q first]

theorem mapM_cons_eq_ok_iff {A B : Type*} {f : A → Except ε B} {a : A} {as : List A} {bs : List B} :
    (a :: as).mapM f = .ok bs ↔ ∃ b rest, f a = .ok b ∧ as.mapM f = .ok rest ∧ b :: rest = bs := by
  rw [List.mapM_cons]
  cases f a with
  | error e => simp [bind, Except.bind]
  | ok b => cases as.mapM f <;> simp [bind, Except.bind, pure, Except.pure]

/-- Where a step succeeds on some inputs, and then has one result: over a list. -/
theorem mapM_eq_ok_iff {A B : Type*} {f : A → Except ε B} {Accepts : A → Prop} {g : A → B}
    (one : ∀ a b, f a = .ok b ↔ Accepts a ∧ g a = b) {as : List A} {bs : List B} :
    as.mapM f = .ok bs ↔ (∀ a ∈ as, Accepts a) ∧ as.map g = bs := by
  induction as generalizing bs with
  | nil => simp [pure, Except.pure, eq_comm]
  | cons a as ih =>
      simp only [mapM_cons_eq_ok_iff, one, ih, List.forall_mem_cons, List.map_cons]
      constructor
      · rintro ⟨_, _, ⟨accepts, rfl⟩, ⟨all, rfl⟩, rfl⟩
        exact ⟨⟨accepts, all⟩, rfl⟩
      · rintro ⟨⟨accepts, all⟩, rfl⟩
        exact ⟨_, _, ⟨accepts, rfl⟩, ⟨all, rfl⟩, rfl⟩

end FoldM
