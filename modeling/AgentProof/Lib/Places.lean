import Mathlib.Tactic

/-!
# Places in a text

What holds at some place of a text, where a place is a letter with the letter before
it and the text after it.  Texts that are put together with a letter between them
that no pattern goes over have the places of both.
-/

namespace Places

variable {C : Type*}

/-- At some place: of the letter before it, its letter and the text that follows. -/
def Somewhere (P : Option C → C → List C → Prop) : Option C → List C → Prop
  | _, [] => False
  | before, c :: rest => P before c rest ∨ Somewhere P (some c) rest

section Somewhere

variable {P Q : Option C → C → List C → Prop} {before : Option C} {c : C} {s t : List C}

@[simp] theorem somewhere_nil : ¬ Somewhere P before [] := id

theorem somewhere_cons :
    Somewhere P before (c :: s) ↔ P before c s ∨ Somewhere P (some c) s := Iff.rfl

instance [∀ before c rest, Decidable (P before c rest)] :
    ∀ before s, Decidable (Somewhere P before s)
  | _, [] => .isFalse id
  | before, c :: rest =>
      have : Decidable (Somewhere P (some c) rest) := instDecidableSomewhere (some c) rest
      inferInstanceAs (Decidable (P before c rest ∨ Somewhere P (some c) rest))

theorem Somewhere.imp (imp : ∀ before c rest, P before c rest → Q before c rest)
    (holds : Somewhere P before s) : Somewhere Q before s := by
  induction s generalizing before with
  | nil => exact holds
  | cons c rest ih =>
      rcases holds with here | later
      · exact .inl (imp before c rest here)
      · exact .inr (ih later)

/-- A part without a place of its own. -/
theorem somewhere_append_of_not
    (nowhere : ∀ before c rest, c :: rest <:+ s → ¬ P before c (rest ++ t)) :
    Somewhere P before (s ++ t) ↔ Somewhere P (s.getLast?.or before) t := by
  induction s generalizing before with
  | nil => exact Iff.rfl
  | cons c rest ih =>
      have last : (c :: rest).getLast?.or before = rest.getLast?.or (some c) := by
        cases rest with
        | nil => rfl
        | cons d rest =>
            rw [List.getLast?_cons_cons, List.getLast?_cons]
            rfl
      rw [List.cons_append, somewhere_cons, or_iff_right (nowhere before c rest List.suffix_rfl),
        last]
      exact ih fun before d tail suffix =>
        nowhere before d tail (suffix.trans (List.suffix_cons c rest))

section Patterns

variable {R : C → List C → Prop}

/-- Where the letter before a place plays no part. -/
theorem somewhere_iff_exists :
    Somewhere (fun _ => R) before s ↔ ∃ front c rest, s = front ++ c :: rest ∧ R c rest := by
  induction s generalizing before with
  | nil =>
      refine iff_of_false id ?_
      rintro ⟨front, c, rest, same, -⟩
      exact absurd same.symm (List.append_ne_nil_of_right_ne_nil front (List.cons_ne_nil c rest))
  | cons d s ih =>
      rw [somewhere_cons, ih]
      constructor
      · rintro (here | ⟨front, c, rest, rfl, holds⟩)
        · exact ⟨[], d, s, rfl, here⟩
        · exact ⟨d :: front, c, rest, rfl, holds⟩
      · rintro ⟨front, c, rest, same, holds⟩
        cases front with
        | nil =>
            obtain ⟨rfl, rfl⟩ := List.cons.inj same
            exact .inl holds
        | cons e front => exact .inr ⟨front, c, rest, (List.cons.inj same).2, holds⟩

/-- A letter that no pattern begins with or goes over. -/
theorem somewhere_append_cons (begins : ∀ rest, ¬ R c rest)
    (across : ∀ d s t, R d (s ++ c :: t) ↔ R d s) :
    Somewhere (fun _ => R) before (s ++ c :: t) ↔
      Somewhere (fun _ => R) before s ∨ Somewhere (fun _ => R) (some c) t := by
  induction s generalizing before with
  | nil => exact (or_iff_right (begins t)).trans (or_iff_right id).symm
  | cons d s ih => rw [List.cons_append, somewhere_cons, somewhere_cons, across, ih, or_assoc]

theorem somewhere_before (before before' : Option C) :
    Somewhere (fun _ => R) before s ↔ Somewhere (fun _ => R) before' s := by
  cases s with
  | nil => exact Iff.rfl
  | cons c rest => exact Iff.rfl

end Patterns

end Somewhere

/-! ## A run of letters -/

/-- The text begins with so many letters of a class. -/
def Run (inClass : C → Bool) : Nat → List C → Prop
  | 0, _ => True
  | _ + 1, [] => False
  | n + 1, c :: rest => inClass c = true ∧ Run inClass n rest

instance (inClass : C → Bool) : ∀ n s, Decidable (Run inClass n s)
  | 0, _ => .isTrue trivial
  | _ + 1, [] => .isFalse id
  | n + 1, c :: rest =>
      have : Decidable (Run inClass n rest) := instDecidableRun inClass n rest
      inferInstanceAs (Decidable (inClass c = true ∧ Run inClass n rest))

section Runs

variable {inClass : C → Bool} {c : C} {s t : List C}

/-- A run does not go over a letter outside its class. -/
theorem run_append_cons (outside : inClass c = false) (n : Nat) :
    Run inClass n (s ++ c :: t) ↔ Run inClass n s := by
  induction s generalizing n with
  | nil =>
      cases n with
      | zero => exact Iff.rfl
      | succ n =>
          refine iff_of_false ?_ id
          rintro ⟨inside, -⟩
          rw [outside] at inside
          cases inside
  | cons d rest ih =>
      cases n with
      | zero => exact Iff.rfl
      | succ n => exact and_congr_right fun _ => ih n

/-- The letters of a run. -/
theorem run_iff_exists (n : Nat) :
    Run inClass n s ↔ ∃ front rest, s = front ++ rest ∧ front.length = n ∧
      ∀ d ∈ front, inClass d = true := by
  induction n generalizing s with
  | zero =>
      refine iff_of_true trivial ⟨[], s, rfl, rfl, nofun⟩
  | succ n ih =>
      cases s with
      | nil =>
          refine iff_of_false id ?_
          rintro ⟨front, rest, same, length, -⟩
          obtain ⟨rfl, -⟩ := List.append_eq_nil_iff.mp same.symm
          cases length
      | cons c s =>
          rw [Run, ih]
          constructor
          · rintro ⟨inside, front, rest, rfl, rfl, all⟩
            exact ⟨c :: front, rest, rfl, rfl, List.forall_mem_cons.mpr ⟨inside, all⟩⟩
          · rintro ⟨front, rest, same, length, all⟩
            cases front with
            | nil => cases length
            | cons d front =>
                obtain ⟨rfl, tails⟩ := List.cons.inj same
                obtain ⟨inside, all⟩ := List.forall_mem_cons.mp all
                exact ⟨inside, front, rest, tails, Nat.succ.inj length, all⟩

end Runs

end Places
