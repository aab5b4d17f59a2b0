import Mathlib.Tactic

/-!
# Computations that count their loops

A computation that may throw and records, for every loop it ran, how many turns
were begun.  A loop over a count that nobody checked is bounded by where its body
throws.
-/

universe u v w

/-- The turns of every loop that was run, and the result. -/
structure Counted (E : Type u) (A : Type v) where
  loops : List Nat
  result : Except E A

namespace Counted

variable {E F : Type u} {A B S : Type v} {I : Type w}

/-- A computation without loops. -/
def lift (x : Except E A) : Counted E A := ⟨[], x⟩

/-- Go on with a result; an error goes past. -/
def andThen (x : Counted E A) (f : A → Counted E B) : Counted E B :=
  match x.result with
  | .error e => ⟨x.loops, .error e⟩
  | .ok a => ⟨x.loops ++ (f a).loops, (f a).result⟩

instance : Monad (Counted E) where
  pure a := ⟨[], .ok a⟩
  bind := andThen

/-- Catch an error. -/
def attempt (x : Counted E A) : Counted F (Except E A) := ⟨x.loops, .ok x.result⟩

/-- The turns of a loop over a list, and how many were begun. -/
def turns (body : S → I → Counted E S) : List I → S → Nat × Counted E S
  | [], s => (0, ⟨[], .ok s⟩)
  | a :: rest, s =>
      let turn := body s a
      match turn.result with
      | .error e => (1, ⟨turn.loops, .error e⟩)
      | .ok next =>
          let later := turns body rest next
          (later.1 + 1, ⟨turn.loops ++ later.2.loops, later.2.result⟩)

/-- `for (const a of list)`. -/
def forEach (body : S → I → Counted E S) (list : List I) (s : S) : Counted E S :=
  let run := turns body list s
  ⟨run.2.loops ++ [run.1], run.2.result⟩

/-- `for (i = 0; i < count; i++)`. -/
def forLoop (body : S → Nat → Counted E S) (count : Nat) (s : S) : Counted E S :=
  forEach body (List.range count) s

/-! ## Results -/

section Results

variable {x : Counted E A} {f : A → Counted E B} {body : S → I → Counted E S}

@[simp] theorem result_lift (y : Except E A) : (lift y).result = y := rfl

@[simp] theorem result_pure (a : A) : (pure a : Counted E A).result = .ok a := rfl

@[simp] theorem result_attempt : (attempt x : Counted F (Except E A)).result = .ok x.result := rfl

@[simp] theorem result_bind : (x >>= f).result = (x.result >>= fun a => (f a).result) := by
  change (andThen x f).result = _
  unfold andThen
  cases x.result with
  | error e => rfl
  | ok a => rfl

/-- A loop computes the fold of its turns. -/
theorem result_forEach (list : List I) (s : S) :
    (forEach body list s).result = list.foldlM (fun s a => (body s a).result) s := by
  change (turns body list s).2.result = _
  induction list generalizing s with
  | nil => rfl
  | cons a rest ih =>
      rw [turns, List.foldlM_cons]
      dsimp only
      cases (body s a).result with
      | error e => rfl
      | ok next => exact ih next

end Results

/-! ## Bounds -/

/-- No loop took more turns. -/
def Within (bound : Nat) (x : Counted E A) : Prop := ∀ n ∈ x.loops, n ≤ bound

section Bounds

variable {bound : Nat} {x : Counted E A} {f : A → Counted E B}

theorem within_lift (y : Except E A) : Within bound (lift y) := by
  intro n mem
  cases mem

theorem within_pure (a : A) : Within bound (pure a : Counted E A) := by
  intro n mem
  cases mem

theorem Within.attempt (within : Within bound x) :
    Within bound (attempt x : Counted F (Except E A)) := within

theorem Within.bind (first : Within bound x)
    (later : ∀ a, x.result = .ok a → Within bound (f a)) : Within bound (x >>= f) := by
  change Within bound (andThen x f)
  unfold andThen
  cases result : x.result with
  | error e => exact first
  | ok a =>
      intro n mem
      rcases List.mem_append.mp mem with before | after
      · exact first n before
      · exact later a result n after

section Loop

variable {body : S → I → Counted E S} {list : List I}

theorem turns_le_length (list : List I) (s : S) : (turns body list s).1 ≤ list.length := by
  induction list generalizing s with
  | nil => exact le_refl 0
  | cons a rest ih =>
      rw [turns]
      dsimp only
      cases (body s a).result with
      | error e => exact Nat.succ_le_succ (Nat.zero_le _)
      | ok next => exact Nat.succ_le_succ (ih next)

/-- Where every turn behind the first `stop` throws, one of them is begun at most. -/
theorem turns_le_of_throws {stop : Nat}
    (throws : ∀ a ∈ list.drop stop, ∀ s next, (body s a).result ≠ .ok next) (s : S) :
    (turns body list s).1 ≤ stop + 1 := by
  induction list generalizing stop s with
  | nil => exact Nat.zero_le _
  | cons a rest ih =>
      rw [turns]
      dsimp only
      cases turned : (body s a).result with
      | error e => exact Nat.le_add_left 1 stop
      | ok next =>
          cases stop with
          | zero => exact absurd turned (throws a List.mem_cons_self s next)
          | succ stop => exact Nat.succ_le_succ (ih throws next)

theorem within_turns (inner : ∀ s, ∀ a ∈ list, Within bound (body s a)) (s : S) :
    Within bound (turns body list s).2 := by
  induction list generalizing s with
  | nil => exact within_pure s
  | cons a rest ih =>
      rw [turns]
      dsimp only
      cases (body s a).result with
      | error e => exact inner s a List.mem_cons_self
      | ok next =>
          intro n mem
          rcases List.mem_append.mp mem with here | later
          · exact inner s a List.mem_cons_self n here
          · exact ih (fun s b mem => inner s b (.tail _ mem)) next n later

/-- A loop is within what bounds its own turns and the loops inside. -/
theorem within_forEach {s : S} (inner : ∀ s, ∀ a ∈ list, Within bound (body s a))
    (own : (turns body list s).1 ≤ bound) : Within bound (forEach body list s) := by
  intro n mem
  rcases List.mem_append.mp mem with inside | last
  · exact within_turns inner s n inside
  · rw [List.mem_singleton.mp last]
    exact own

theorem within_forEach_of_length {s : S} (inner : ∀ s, ∀ a ∈ list, Within bound (body s a))
    (short : list.length ≤ bound) : Within bound (forEach body list s) :=
  within_forEach inner ((turns_le_length list s).trans short)

end Loop

/-- A count that nobody checked does no harm where the turns throw in time. -/
theorem within_forLoop_of_throws {body : S → Nat → Counted E S} {count stop : Nat} {s : S}
    (inner : ∀ s i, Within bound (body s i))
    (throws : ∀ s i, stop ≤ i → ∀ next, (body s i).result ≠ .ok next) (small : stop + 1 ≤ bound) :
    Within bound (forLoop body count s) := by
  refine within_forEach (fun s i _ => inner s i) (le_trans (turns_le_of_throws ?_ s) small)
  intro i mem s next
  rw [List.range_eq_range', List.drop_range', List.mem_range'_1] at mem
  exact throws s i (by omega) next

end Bounds

end Counted
