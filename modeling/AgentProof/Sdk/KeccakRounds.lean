import AgentProof.Sdk.Keccak

/-!
# The rounds of `permute`

The lanes of the code stand for the bits of a state: each part of a round does to
the bits what the step mapping of that name does, and the tables hold what the
specification generates.
-/

namespace AgentProof

namespace Sdk

namespace Crypto

open CellLoop Keccak

/-! ## Lanes -/

/-- An array of lanes with nothing above the 64th bit. -/
structure Lanes (state : List Nat) : Prop where
  length : state.length = 25
  small : ∀ value ∈ state, value < 2 ^ 64

/-- The bits the lanes stand for. -/
def bits (state : List Nat) : State 6 := fun x y z => (lane state (y * 5 + x)).testBit z

theorem lane_lt {state : List Nat} {n i : Nat} (small : ∀ value ∈ state, value < 2 ^ n) :
    lane state i < 2 ^ n := by
  rw [lane, List.getD_eq_getElem?_getD]
  cases found : state[i]? with
  | none => exact Nat.two_pow_pos n
  | some value => exact small value (List.mem_of_getElem? found)

theorem Lanes.assign {ι : Type} {index : ι → Nat} {step : ι → Nat → Nat} {is : List ι}
    {state : List Nat} (lanes : Lanes state)
    (kept : ∀ i ∈ is, ∀ value < 2 ^ 64, step i value < 2 ^ 64) :
    Lanes (CellLoop.assign index step is state) :=
  ⟨by rw [length_assign, lanes.length], forall_mem_assign lanes.small kept⟩

theorem lanes_zero : Lanes (List.replicate 25 0) :=
  ⟨List.length_replicate, fun value mem => by
    rw [List.eq_of_mem_replicate mem]
    exact Nat.two_pow_pos 64⟩

theorem testBit_MASK (z : Nat) : MASK.testBit z = decide (z < 64) :=
  Nat.testBit_two_pow_sub_one 64 z

theorem and_MASK_lt (x : Nat) : x &&& MASK < 2 ^ 64 :=
  Nat.and_lt_two_pow x (by decide)

theorem rotl_lt (x n : Nat) : rotl x n < 2 ^ 64 := and_MASK_lt _

/-- A lane turned to the left. -/
theorem testBit_rotl {x n : Nat} (small : x < 2 ^ 64) (within : n < 64) (z : Fin (2 ^ 6)) :
    (rotl x n).testBit z = x.testBit (z - Fin.ofNat (2 ^ 6) n : Fin (2 ^ 6)) := by
  have bound : (z : Nat) < 64 := z.isLt
  have turned : ((z - Fin.ofNat (2 ^ 6) n : Fin (2 ^ 6)) : Nat) = (64 - n + z) % 64 := by
    rw [Fin.sub_def, Fin.val_ofNat, Nat.mod_eq_of_lt (show n < 2 ^ 6 from within)]
    rfl
  have above : ∀ i, 64 ≤ i → x.testBit i = false := fun i high =>
    Nat.testBit_lt_two_pow (small.trans_le (Nat.pow_le_pow_right (by norm_num) high))
  rw [rotl, turned, Nat.testBit_and, Nat.testBit_or, Nat.testBit_shiftLeft, Nat.testBit_shiftRight,
    testBit_MASK, decide_eq_true bound, Bool.and_true]
  by_cases low : (z : Nat) < n
  · have index : (64 - n + z) % 64 = 64 - n + z := Nat.mod_eq_of_lt (by omega)
    rw [index, decide_eq_false (by omega), Bool.false_and, Bool.false_or]
  · have index : (64 - n + z) % 64 = z - n := by omega
    rw [index, decide_eq_true (by omega), Bool.true_and, above (64 - n + z) (by omega),
      Bool.or_false]

theorem maskedNot_eq (x : Nat) : maskedNot x = Nat.ldiff MASK x := rfl

theorem testBit_maskedNot (x : Nat) (z : Fin (2 ^ 6)) :
    (maskedNot x).testBit z = !x.testBit z := by
  rw [maskedNot_eq, Nat.testBit_ldiff, testBit_MASK, decide_eq_true (show (z : Nat) < 64 from z.isLt),
    Bool.true_and]

/-! ## The parts of a round -/

theorem lane_assign_range {step : Nat → Nat → Nat} {n : Nat} {array : List Nat} {i : Nat}
    (inside : i < array.length) (reached : i < n) :
    lane (assign id step (List.range n) array) i = step i (lane array i) :=
  @getD_assign _ _ id step (List.range n) array i 0 (by rw [List.map_id]; exact List.nodup_range)
    (List.mem_range.mpr reached) inside

theorem lt_of_mem_plane : ∀ c ∈ plane, c.1 < 5 ∧ c.2 < 5 := by decide

theorem mem_plane (x y : Fin 5) : ((x : Nat), (y : Nat)) ∈ plane := by
  decide +revert

/-- A loop over the plane that writes the lanes in their order. -/
theorem lane_assign_plane {step : Nat × Nat → Nat → Nat} {state : List Nat}
    (length : state.length = 25) (x y : Fin 5) :
    lane (assign (fun (x, y) => y * 5 + x) step plane state) (y * 5 + x) =
      step (x, y) (lane state (y * 5 + x)) := by
  have once : (plane.map fun (x, y) => y * 5 + x).Nodup := by decide +kernel
  have inside : (y : Nat) * 5 + x < state.length := by
    rw [length]
    omega
  have cell := @getD_assign _ _ _ step plane state _ 0 once (mem_plane x y) inside
  exact cell

variable {state : List Nat}

theorem lane_parities {x : Nat} (inside : x < 5) :
    lane (parities state) x = lane state x ^^^ lane state (x + 5) ^^^ lane state (x + 10) ^^^
      lane state (x + 15) ^^^ lane state (x + 20) :=
  lane_assign_range inside inside

theorem lane_effects {c : List Nat} {x : Nat} (inside : x < 5) :
    lane (effects c) x = lane c ((x + 4) % 5) ^^^ rotl (lane c ((x + 1) % 5)) 1 :=
  lane_assign_range inside inside

theorem parities_lt (lanes : Lanes state) {x : Nat} (inside : x < 5) :
    lane (parities state) x < 2 ^ 64 := by
  rw [lane_parities inside]
  exact Nat.xor_lt_two_pow (Nat.xor_lt_two_pow (Nat.xor_lt_two_pow (Nat.xor_lt_two_pow
    (lane_lt lanes.small) (lane_lt lanes.small)) (lane_lt lanes.small)) (lane_lt lanes.small))
    (lane_lt lanes.small)

theorem testBit_parities (x : Fin 5) (z : Fin (2 ^ 6)) :
    (lane (parities state) x).testBit z = parity (bits state) x z := by
  have row (y : Nat) : y * 5 + x = x + y * 5 := Nat.add_comm _ _
  rw [lane_parities x.isLt]
  simp only [Nat.testBit_xor, parity, bits, row]
  rfl

theorem lanes_theta (lanes : Lanes state) : Lanes (theta state) := by
  refine lanes.assign fun (x, y) mem value small => Nat.xor_lt_two_pow small ?_
  have column : x < 5 := (lt_of_mem_plane _ mem).1
  rw [lane_effects column]
  exact Nat.xor_lt_two_pow (parities_lt lanes (Nat.mod_lt _ (by omega))) (rotl_lt _ _)

theorem bits_theta (lanes : Lanes state) : bits (theta state) = Keccak.theta (bits state) := by
  funext x y z
  have before : ((x - 1 : Fin 5) : Nat) = (x + 4) % 5 := by decide +revert
  have after : ((x + 1 : Fin 5) : Nat) = (x + 1) % 5 := by decide +revert
  have turned := testBit_rotl (parities_lt lanes (Nat.mod_lt (x + 1) (by omega)))
    (show 1 < 64 by omega) z
  rw [bits, theta, lane_assign_plane lanes.length, Nat.testBit_xor, lane_effects x.isLt,
    Nat.testBit_xor, turned, ← before, ← after, testBit_parities, testBit_parities]
  rfl

/-- The lane that ends up at `(x, y)`. -/
theorem lane_rhoPi (x y : Fin 5) :
    lane (rhoPi state) (y * 5 + x) =
      rotl (lane state (x * 5 + (x + 3 * y : Fin 5))) (lane ROTATION (x * 5 + (x + 3 * y : Fin 5))) := by
  have once : (plane.map fun (x, y) => (2 * x + 3 * y) % 5 * 5 + y).Nodup := by decide +kernel
  have target : (2 * ((x + 3 * y : Fin 5) : Nat) + 3 * x) % 5 * 5 + x = y * 5 + x := by
    decide +revert
  have inside : (2 * ((x + 3 * y : Fin 5) : Nat) + 3 * x) % 5 * 5 + x <
      (List.replicate 25 0).length := by
    rw [target, List.length_replicate]
    omega
  have cell := @getD_assign _ _ _
    (fun (x, y) _ => rotl (lane state (y * 5 + x)) (lane ROTATION (y * 5 + x)))
    plane _ _ 0 once (mem_plane (x + 3 * y) x) inside
  dsimp only at cell
  rw [target] at cell
  exact cell

theorem lanes_rhoPi : Lanes (rhoPi state) :=
  lanes_zero.assign fun _ _ _ _ => rotl_lt _ _

/-- The table holds the offsets of the walk, within a lane. -/
theorem lane_ROTATION : ∀ x y : Fin 5, lane ROTATION (y * 5 + x) = rhoOffset x y % 2 ^ 6 := by
  decide +kernel

theorem bits_rhoPi (lanes : Lanes state) : bits (rhoPi state) = Keccak.pi (rho (bits state)) := by
  funext x y z
  have offset := lane_ROTATION (x + 3 * y) x
  have within : lane ROTATION (x * 5 + (x + 3 * y : Fin 5)) < 64 := by
    rw [offset]
    exact Nat.mod_lt _ (by norm_num)
  have turn : Fin.ofNat (2 ^ 6) (lane ROTATION (x * 5 + (x + 3 * y : Fin 5))) =
      Fin.ofNat (2 ^ 6) (rhoOffset (x + 3 * y) x) := by
    rw [offset]
    exact Fin.ext (Nat.mod_mod _ _)
  rw [bits, lane_rhoPi, testBit_rotl (lane_lt lanes.small) within, turn]
  rfl

theorem lanes_chi {b : List Nat} (lanes : Lanes state) (from_b : Lanes b) : Lanes (chi b state) :=
  lanes.assign fun _ _ _ _ =>
    Nat.xor_lt_two_pow (lane_lt from_b.small) (Nat.and_lt_two_pow _ (lane_lt from_b.small))

theorem bits_chi {b : List Nat} (lanes : Lanes state) : bits (chi b state) = Keccak.chi (bits b) := by
  funext x y z
  have next : ((x + 1 : Fin 5) : Nat) = (x + 1) % 5 := by decide +revert
  have second : ((x + 2 : Fin 5) : Nat) = (x + 2) % 5 := by decide +revert
  rw [bits, chi, lane_assign_plane lanes.length, Nat.testBit_xor, Nat.testBit_and,
    testBit_maskedNot, ← next, ← second]
  rfl

/-- The table holds what the shift register generates. -/
theorem testBit_ROUND_CONSTANTS : ∀ round < 24, ∀ z < 64,
    (lane ROUND_CONSTANTS round).testBit z = (RC 6 round).getD z false := by
  decide +kernel

theorem lanes_iota (lanes : Lanes state) (round : Nat) : Lanes (iota round state) := by
  have constant : lane ROUND_CONSTANTS round < 2 ^ 64 := lane_lt (by decide)
  exact @Lanes.assign Unit (fun _ => 0) _ [()] state lanes fun _ _ _ small =>
    Nat.xor_lt_two_pow small constant

theorem bits_iota (lanes : Lanes state) {round : Nat} (early : round < 24) :
    bits (iota round state) = Keccak.iota (bits state) round := by
  funext x y z
  by_cases origin : x = 0 ∧ y = 0
  · obtain ⟨rfl, rfl⟩ := origin
    have inside : 0 < state.length := by
      rw [lanes.length]
      omega
    have cell : lane (iota round state) 0 = lane state 0 ^^^ lane ROUND_CONSTANTS round :=
      @getD_assign Unit Nat (fun _ => 0) (fun _ value => value ^^^ lane ROUND_CONSTANTS round) [()]
        state () 0 (List.nodup_singleton 0) List.mem_cons_self inside
    have constant := testBit_ROUND_CONSTANTS round early z z.isLt
    rw [Keccak.iota, if_pos ⟨rfl, rfl⟩, ← constant]
    exact (congrArg (Nat.testBit · z) cell).trans (Nat.testBit_xor _ _ _)
  · have apart : 0 ≠ (y : Nat) * 5 + x := fun zero =>
      origin ⟨Fin.val_eq_zero_iff.mp (by omega), Fin.val_eq_zero_iff.mp (by omega)⟩
    rw [bits, Keccak.iota, if_neg origin, bits, iota, lane, lane, List.getD_eq_getElem?_getD,
      List.getElem?_modify_ne _ _ apart, ← List.getD_eq_getElem?_getD, ← lane]

/-! ## The permutation -/

theorem lanes_permuteRound (lanes : Lanes state) (round : Nat) :
    Lanes (permuteRound state round) :=
  lanes_iota (lanes_chi (lanes_theta lanes) lanes_rhoPi) round

theorem bits_permuteRound (lanes : Lanes state) {round : Nat} (early : round < 24) :
    bits (permuteRound state round) = Keccak.round (bits state) round := by
  have mixed := lanes_theta lanes
  rw [permuteRound, bits_iota (lanes_chi mixed lanes_rhoPi) early, bits_chi mixed,
    bits_rhoPi mixed, bits_theta lanes]
  rfl

/-- The rounds of a list of indices. -/
theorem permuteRounds {rounds : List Nat} (lanes : Lanes state) (early : ∀ i ∈ rounds, i < 24) :
    Lanes (rounds.foldl permuteRound state) ∧
      bits (rounds.foldl permuteRound state) = rounds.foldl Keccak.round (bits state) := by
  induction rounds generalizing state with
  | nil => exact ⟨lanes, rfl⟩
  | cons i rounds ih =>
      have first := bits_permuteRound lanes (early i List.mem_cons_self)
      rw [List.foldl_cons, List.foldl_cons, ← first]
      exact ih (lanes_permuteRound lanes i) fun j later => early j (List.mem_cons_of_mem i later)

theorem lanes_permute (lanes : Lanes state) : Lanes (permute state) :=
  (permuteRounds lanes fun _ mem => List.mem_range.mp mem).1

/-- The lanes as one string. -/
def string (state : List Nat) : List Bool := Keccak.toString (bits state)

/-- `permute` is the permutation of the specification. -/
theorem string_permute (lanes : Lanes state) :
    string (permute state) = keccakP 6 24 (string state) := by
  have rounds := (permuteRounds lanes fun _ mem => List.mem_range.mp mem).2
  rw [keccakP, string, string, ofString_toString, permute, rounds]
  rfl

end Crypto

end Sdk

end AgentProof
