import Mathlib.Tactic

/-!
# Texts that can be read back

A printer is read back before stops when no text it prints, followed by a stop or
by nothing, is also the text of something else followed by a stop or by nothing.
Texts without a stop inside are; so is a bracketed, separated list of parts that
are; `Reads` composes by appending.
-/

namespace Readable

variable {C A : Type*}

/-- The text is at its end, or goes on with a stop. -/
def Stopped (stops : C → Prop) (s : List C) : Prop := ∀ c ∈ s.head?, stops c

theorem Stopped.cons {stops : C → Prop} {c : C} (stop : stops c) (s : List C) :
    Stopped stops (c :: s) := by
  intro d head
  rw [List.head?_cons, Option.mem_some_iff] at head
  exact head ▸ stop

/-- Before stops, the text of `a` is that of nothing but `a`, as far as `good`
values and `same` go. -/
def Reads (stops : C → Prop) (text : A → List C) (good : A → Prop) (same : A → A → Prop) (a : A) :
    Prop :=
  ∀ b s t, good b → Stopped stops s → Stopped stops t → text a ++ s = text b ++ t →
    same a b ∧ s = t

section Words

variable {stops : C → Prop} {text : A → List C} {good : A → Prop}

/-- Two texts without stops end where the stops are. -/
theorem append_inj_of_unstopped : ∀ {x y s t : List C}, (∀ c ∈ x, ¬ stops c) →
    (∀ c ∈ y, ¬ stops c) → Stopped stops s → Stopped stops t → x ++ s = y ++ t → x = y ∧ s = t
  | [], [], _, _, _, _, _, _, same => ⟨rfl, same⟩
  | [], d :: y, s, t, _, plain, stopped, _, same => by
      subst same
      exact absurd (stopped d rfl) (plain d List.mem_cons_self)
  | c :: x, [], s, t, plain, _, _, stopped, same => by
      subst same
      exact absurd (stopped c rfl) (plain c List.mem_cons_self)
  | c :: x, d :: y, s, t, plain, plain', stopped, stopped', same => by
      rw [List.cons_append, List.cons_append, List.cons.injEq] at same
      obtain ⟨rfl, rest⟩ := same
      obtain ⟨rfl, tails⟩ := append_inj_of_unstopped (fun e mem => plain e (.tail _ mem))
        (fun e mem => plain' e (.tail _ mem)) stopped stopped' rest
      exact ⟨rfl, tails⟩

end Words

/-! ## Lists -/

/-- `texts.join(sep)`. -/
def join (sep : C) (texts : List (List C)) : List C := [sep].intercalate texts

@[simp] theorem join_nil (sep : C) : join sep [] = [] := rfl

theorem join_cons (sep : C) (text : List C) (texts : List (List C)) :
    join sep (text :: texts) = text ++ texts.flatMap (sep :: ·) := by
  induction texts generalizing text with
  | nil => simp [join, List.intercalate]
  | cons next rest ih =>
      have further := ih next
      simp only [join, List.intercalate, List.intersperse_cons_cons, List.flatten_cons] at further ⊢
      rw [further, List.flatMap_cons]
      rfl

section Lists

variable {stops : C → Prop} {text : A → List C} {good : A → Prop} {same : A → A → Prop}
  {sep close : C}

/-- The rest of a list, from a separator or the bracket on. -/
theorem reads_rest (apart : sep ≠ close) (separates : stops sep) (closes : stops close) :
    ∀ {as bs : List A} {s t : List C}, (∀ a ∈ as, Reads stops text good same a) →
      (∀ b ∈ bs, good b) →
      (as.map text).flatMap (sep :: ·) ++ close :: s =
        (bs.map text).flatMap (sep :: ·) ++ close :: t →
      List.Forall₂ same as bs ∧ s = t
  | [], [], _, _, _, _, eq => ⟨.nil, (List.cons.inj eq).2⟩
  | [], _ :: _, _, _, _, _, eq => absurd (List.cons.inj eq).1.symm apart
  | _ :: _, [], _, _, _, _, eq => absurd (List.cons.inj eq).1 apart
  | a :: as, b :: bs, s, t, reads, fine, eq => by
      have stopped : ∀ (cs : List A) (u : List C),
          Stopped stops ((cs.map text).flatMap (sep :: ·) ++ close :: u) := by
        intro cs u
        cases cs with
        | nil => exact .cons closes u
        | cons c cs => exact .cons separates _
      simp only [List.map_cons, List.flatMap_cons, List.cons_append, List.append_assoc,
        List.cons.injEq, true_and] at eq
      obtain ⟨first, rest⟩ := reads a List.mem_cons_self b _ _ (fine b List.mem_cons_self)
        (stopped as s) (stopped bs t) eq
      obtain ⟨others, tails⟩ := reads_rest apart separates closes
        (fun a mem => reads a (.tail _ mem)) (fun b mem => fine b (.tail _ mem)) rest
      exact ⟨.cons first others, tails⟩

/-- A separated list up to its closing bracket, with which no part begins. -/
theorem reads_join (apart : sep ≠ close) (separates : stops sep) (closes : stops close)
    (opens : ∀ a, ∃ c rest, text a = c :: rest ∧ c ≠ close) {as bs : List A} {s t : List C}
    (reads : ∀ a ∈ as, Reads stops text good same a) (fine : ∀ b ∈ bs, good b)
    (eq : join sep (as.map text) ++ close :: s = join sep (bs.map text) ++ close :: t) :
    List.Forall₂ same as bs ∧ s = t := by
  cases as with
  | nil =>
      cases bs with
      | nil => exact ⟨.nil, (List.cons.inj eq).2⟩
      | cons b bs =>
          obtain ⟨c, rest, begins, other⟩ := opens b
          rw [List.map_cons, join_cons, begins] at eq
          exact absurd (List.cons.inj eq).1.symm other
  | cons a as =>
      cases bs with
      | nil =>
          obtain ⟨c, rest, begins, other⟩ := opens a
          rw [List.map_cons, join_cons, begins] at eq
          exact absurd (List.cons.inj eq).1 other
      | cons b bs =>
          refine reads_rest apart separates closes reads fine ?_
          simpa only [List.map_cons, join_cons, List.flatMap_cons, List.cons_append,
            List.cons.injEq, true_and] using eq

end Lists

/-! ## Records -/

section Records

variable {sep : C} {x y s t : List C}

/-- The last separator of a text is where the last part begins. -/
theorem append_inj_of_last (plain : sep ∉ s) (plain' : sep ∉ t)
    (eq : x ++ sep :: s = y ++ sep :: t) : x = y ∧ s = t := by
  have free {u : List C} (absent : sep ∉ u) : ∀ c ∈ u.reverse, ¬ c = sep := by
    intro c mem same
    exact absent (same ▸ List.mem_reverse.mp mem)
  have backwards : s.reverse ++ sep :: x.reverse = t.reverse ++ sep :: y.reverse := by
    have reversed := congrArg List.reverse eq
    rwa [List.reverse_append, List.reverse_append, List.reverse_cons, List.reverse_cons,
      List.append_assoc, List.append_assoc] at reversed
  have stopped (u : List C) : Stopped (· = sep) (sep :: u) := @Stopped.cons C (· = sep) sep rfl u
  obtain ⟨ends, begins⟩ := append_inj_of_unstopped (free plain) (free plain') (stopped _)
    (stopped _) backwards
  exact ⟨List.reverse_injective (List.cons.inj begins).2, List.reverse_injective ends⟩

/-- Joined fields are read from the back; the first may hold separators. -/
theorem join_inj : ∀ {x y : List C} {fields others : List (List C)},
    fields.length = others.length → (∀ field ∈ fields, sep ∉ field) →
    (∀ other ∈ others, sep ∉ other) → join sep (x :: fields) = join sep (y :: others) →
    x = y ∧ fields = others
  | x, y, [], [], _, _, _, eq => by
      rw [join_cons, join_cons, List.flatMap_nil, List.append_nil, List.append_nil] at eq
      exact ⟨eq, rfl⟩
  | x, y, field :: fields, other :: others, lengths, plain, plain', eq => by
      have shift (z first : List C) (rest : List (List C)) :
          join sep (z :: first :: rest) = join sep ((z ++ sep :: first) :: rest) := by
        rw [join_cons, join_cons, List.flatMap_cons, List.append_assoc]
      rw [shift, shift] at eq
      obtain ⟨heads, rest⟩ := join_inj (Nat.succ.inj lengths) (fun f mem => plain f (.tail _ mem))
        (fun f mem => plain' f (.tail _ mem)) eq
      obtain ⟨first, second⟩ := append_inj_of_last (plain field (.head _)) (plain' other (.head _))
        heads
      rw [first, second, rest]
      exact ⟨rfl, rfl⟩

end Records

end Readable
