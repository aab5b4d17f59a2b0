import Mathlib.Data.List.Basic
import Mathlib.Data.List.GetD

/-!
# Loops that assign to the cells of an array

`for (const i of is) array[index(i)] = step(i, array[index(i)])`.  A loop that
comes to no cell twice leaves in each cell one step from what was in it.
-/

namespace AgentProof

namespace CellLoop

variable {ι α : Type*}

def assign (index : ι → Nat) (step : ι → α → α) (is : List ι) (array : List α) : List α :=
  is.foldl (fun array i => array.modify (index i) (step i)) array

variable {index : ι → Nat} {step : ι → α → α} {is : List ι} {array : List α} {i : ι} {n : Nat}

@[simp] theorem length_assign : (assign index step is array).length = array.length := by
  unfold assign
  induction is generalizing array with
  | nil => rfl
  | cons j is ih => rw [List.foldl_cons, ih, List.length_modify]

/-- A cell the loop does not come to. -/
theorem getElem?_assign_of_ne (apart : ∀ j ∈ is, index j ≠ n) :
    (assign index step is array)[n]? = array[n]? := by
  unfold assign
  induction is generalizing array with
  | nil => rfl
  | cons j is ih =>
      rw [List.foldl_cons, ih fun k later => apart k (List.mem_cons_of_mem j later),
        List.getElem?_modify_ne (step j) _ (apart j List.mem_cons_self)]

/-- A cell the loop comes to once. -/
theorem getElem?_assign (once : (is.map index).Nodup) (mem : i ∈ is) :
    (assign index step is array)[index i]? = array[index i]?.map (step i) := by
  unfold assign
  induction is generalizing array with
  | nil => exact absurd mem List.not_mem_nil
  | cons j is ih =>
      rw [List.map_cons, List.nodup_cons] at once
      rw [List.foldl_cons]
      rcases List.mem_cons.mp mem with rfl | later
      · have apart : ∀ k ∈ is, index k ≠ index i := fun k inside same =>
          once.1 (same ▸ List.mem_map_of_mem inside)
        have rest := @getElem?_assign_of_ne _ _ _ step is (array.modify (index i) (step i)) _ apart
        rw [assign] at rest
        rw [rest, List.getElem?_modify_eq]
        rfl
      · have apart : index j ≠ index i := fun same =>
          once.1 (same ▸ List.mem_map_of_mem later)
        rw [ih once.2 later, List.getElem?_modify_ne (step j) _ apart]

theorem getD_assign {zero : α} (once : (is.map index).Nodup) (mem : i ∈ is)
    (inside : index i < array.length) :
    (assign index step is array).getD (index i) zero = step i (array.getD (index i) zero) := by
  rw [List.getD_eq_getElem?_getD, getElem?_assign once mem, List.getD_eq_getElem?_getD,
    List.getElem?_eq_getElem inside, Option.map_some, Option.getD_some, Option.getD_some]

/-- What holds of a cell before and after a step holds after the loop. -/
theorem forall_mem_assign {P : α → Prop} (before : ∀ a ∈ array, P a)
    (kept : ∀ i ∈ is, ∀ a, P a → P (step i a)) : ∀ a ∈ assign index step is array, P a := by
  unfold assign
  induction is generalizing array with
  | nil => exact before
  | cons j is ih =>
      refine ih (fun a mem => ?_) fun i later => kept i (List.mem_cons_of_mem j later)
      obtain ⟨k, found⟩ := List.mem_iff_getElem?.mp mem
      rw [List.getElem?_modify, Option.map_eq_map, Option.map_eq_some_iff] at found
      obtain ⟨b, old, rfl⟩ := found
      have good := before b (List.mem_of_getElem? old)
      split_ifs with here
      · exact kept j List.mem_cons_self b good
      · exact good

end CellLoop

end AgentProof
