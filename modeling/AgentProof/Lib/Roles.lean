import Mathlib.Tactic

/-!
# Role tables

A table of the roles each account holds on each resource, as bit sets.  A
check asks for all bits of a mask, a grant adds the bits of a mask to one cell
of the table and a revocation takes them out.  The frame lemmas say that
nothing else moves; `Has.granted` and `Has.of_revoked` say in which direction
the cell itself can.
-/

namespace Roles

variable {R A : Type*} {w : Nat}

/-- The roles of every account on every resource. -/
abbrev Table (R A : Type*) (w : Nat) := R → A → BitVec w

/-- The account holds every role of the mask. -/
def Has (t : Table R A w) (r : R) (mask : BitVec w) (a : A) : Prop := t r a &&& mask = mask

instance (t : Table R A w) (r : R) (mask : BitVec w) (a : A) : Decidable (Has t r mask a) :=
  inferInstanceAs (Decidable (t r a &&& mask = mask))

/-- The check, role by role. -/
theorem has_iff {t : Table R A w} {r : R} {mask : BitVec w} {a : A} :
    Has t r mask a ↔ ∀ i : Nat, mask.getLsbD i = true → (t r a).getLsbD i = true := by
  unfold Has
  constructor
  · intro all i asked
    rw [← all, BitVec.getLsbD_and, Bool.and_eq_true] at asked
    exact asked.1
  · intro each
    refine BitVec.eq_of_getLsbD_eq fun i _ => ?_
    rw [BitVec.getLsbD_and]
    cases asked : mask.getLsbD i with
    | false => exact Bool.and_false _
    | true => rw [each i asked, Bool.and_true]

/-- An account without roles passes no check. -/
theorem not_has_of_zero {t : Table R A w} {r : R} {mask : BitVec w} {a : A} (noRole : t r a = 0)
    (asked : mask ≠ 0) : ¬ Has t r mask a := by
  intro has
  unfold Has at has
  rw [noRole] at has
  exact asked (by simpa using has.symm)

variable [DecidableEq R] [DecidableEq A]

/-- Overwrite one cell. -/
def put (t : Table R A w) (r : R) (a : A) (roles : BitVec w) : Table R A w :=
  fun r' a' => if r' = r ∧ a' = a then roles else t r' a'

/-- `roles[r][a] |= mask` for a grant, `roles[r][a] &= ~mask` for a revocation. -/
def assign (t : Table R A w) (r : R) (mask : BitVec w) (a : A) (grant : Bool) : Table R A w :=
  if grant then put t r a (t r a ||| mask) else put t r a (t r a &&& ~~~mask)

variable {t : Table R A w} {r r' : R} {mask mask' : BitVec w} {a a' : A}

@[simp] theorem put_self (roles : BitVec w) : put t r a roles r a = roles := by
  simp [put]

theorem put_of_ne {roles : BitVec w} (other : r' ≠ r ∨ a' ≠ a) :
    put t r a roles r' a' = t r' a' := by
  unfold put
  rw [if_neg]
  rintro ⟨rfl, rfl⟩
  rcases other with other | other <;> exact other rfl

/-- Only the named cell changes. -/
theorem assign_of_ne {grant : Bool} (other : r' ≠ r ∨ a' ≠ a) :
    assign t r mask a grant r' a' = t r' a' := by
  unfold assign
  split <;> exact put_of_ne other

theorem has_assign_of_ne {grant : Bool} (other : r' ≠ r ∨ a' ≠ a) :
    Has (assign t r mask a grant) r' mask' a' ↔ Has t r' mask' a' := by
  unfold Has
  rw [assign_of_ne other]

/-- Other roles of the cell stay. -/
theorem has_assign_of_disjoint {grant : Bool} (disjoint : mask &&& mask' = 0) :
    Has (assign t r mask a grant) r' mask' a' ↔ Has t r' mask' a' := by
  by_cases same : r' = r ∧ a' = a
  · obtain ⟨rfl, rfl⟩ := same
    have outside : ∀ i, mask'.getLsbD i = true → mask.getLsbD i = false := by
      intro i asked
      have both := congrArg (BitVec.getLsbD · i) disjoint
      simpa [asked] using both
    rw [has_iff, has_iff]
    refine forall_congr' fun i => imp_congr_right fun asked => ?_
    cases grant with
    | true => rw [assign, if_pos rfl, put_self, BitVec.getLsbD_or, outside i asked, Bool.or_false]
    | false =>
        have small : i < w := BitVec.lt_of_getLsbD asked
        rw [assign, if_neg (by simp), put_self, BitVec.getLsbD_and, BitVec.getLsbD_not,
          outside i asked]
        simp [small]
  · exact has_assign_of_ne (not_and_or.mp same)

/-- A grant takes nothing away. -/
theorem Has.granted (has : Has t r' mask' a') : Has (assign t r mask a true) r' mask' a' := by
  by_cases same : r' = r ∧ a' = a
  · obtain ⟨rfl, rfl⟩ := same
    refine has_iff.mpr fun i asked => ?_
    rw [assign, if_pos rfl, put_self, BitVec.getLsbD_or, has_iff.mp has i asked, Bool.true_or]
  · exact (has_assign_of_ne (not_and_or.mp same)).mpr has

/-- A revocation gives nothing. -/
theorem Has.of_revoked (has : Has (assign t r mask a false) r' mask' a') : Has t r' mask' a' := by
  by_cases same : r' = r ∧ a' = a
  · obtain ⟨rfl, rfl⟩ := same
    refine has_iff.mpr fun i asked => ?_
    have kept := has_iff.mp has i asked
    rw [assign, if_neg (by simp), put_self, BitVec.getLsbD_and, Bool.and_eq_true] at kept
    exact kept.1
  · exact (has_assign_of_ne (not_and_or.mp same)).mp has

end Roles
