import AgentProof.Sdk.KeccakRounds

/-!
# `keccak256Bytes` is Keccak-256

The loops over bytes pad, absorb and squeeze as the sponge does over bits.
-/

namespace AgentProof

namespace Sdk

namespace Crypto

open CellLoop Keccak

variable {state : List Nat} {input message : Bytes}

/-! ## The state as a string -/

@[simp] theorem length_string (state : List Nat) : (string state).length = 1600 :=
  length_toString _

/-- Bit `k` is bit `k % 64` of lane `k / 64`. -/
theorem getD_string {k : Nat} (inside : k < 1600) :
    (string state).getD k false = (lane state (k / 64)).testBit (k % 64) := by
  have index : k / 64 / 5 % 5 * 5 + k / 64 % 5 = k / 64 := by omega
  rw [string, List.getD_eq_getElem _ _ (by rw [length_toString]; exact inside)]
  simp only [Keccak.toString, bits, List.getElem_ofFn]
  exact congrArg (fun i => (lane state i).testBit (k % 64)) index

theorem string_zero : string (List.replicate 25 0) = List.replicate 1600 false := by
  refine ext_getD (by rw [length_string, List.length_replicate]) fun k inside => ?_
  rw [length_string] at inside
  have zero : lane (List.replicate 25 0) (k / 64) = 0 := by
    rw [lane, List.getD_eq_getElem _ _ (by rw [List.length_replicate]; omega),
      List.getElem_replicate]
  rw [getD_string inside, zero, Nat.zero_testBit,
    List.getD_eq_getElem _ _ (by rw [List.length_replicate]; exact inside), List.getElem_replicate]

/-! ## Absorbing -/

/-- The loop that shifts one byte after another into a bigint. -/
theorem testBit_shifts (byte : Nat → Byte) (n value z : Nat) :
    ((List.range n).reverse.foldl (fun value i => value <<< 8 ||| (byte i).toNat) value).testBit z =
      if z < 8 * n then (byte (z / 8)).getLsbD (z % 8) else value.testBit (z - 8 * n) := by
  induction n generalizing value with
  | zero => simp
  | succ n ih =>
      rw [List.range_succ, List.reverse_append, List.reverse_singleton, List.singleton_append,
        List.foldl_cons, ih, Nat.testBit_or, Nat.testBit_shiftLeft, BitVec.testBit_toNat]
      rcases Nat.lt_or_ge z (8 * n) with low | high
      · rw [if_pos low, if_pos (by omega)]
      · rw [if_neg (by omega)]
        rcases Nat.lt_or_ge z (8 * (n + 1)) with last | above
        · rw [if_pos last, decide_eq_false (by omega), Bool.false_and, Bool.false_or]
          congr 1
          · congr 1
            omega
          · omega
        · rw [if_neg (by omega), decide_eq_true (by omega), Bool.true_and,
            BitVec.getLsbD_of_ge _ _ (by omega), Bool.or_false]
          rfl

theorem testBit_readLane {start z : Nat} (inside : z < 64) :
    (readLane message start).testBit z = (message.getD (start + z / 8) 0).getLsbD (z % 8) := by
  rw [readLane, testBit_shifts fun byte => message.getD (start + byte) 0, if_pos inside]

theorem readLane_lt (start : Nat) : readLane message start < 2 ^ 64 := by
  refine Nat.lt_pow_two_of_testBit _ fun z high => ?_
  rw [readLane, testBit_shifts fun byte => message.getD (start + byte) 0,
    if_neg (by omega : ¬ z < 8 * 8), Nat.zero_testBit]

theorem lanes_absorbLanes (lanes : Lanes state) (offset : Nat) :
    Lanes (absorbLanes message offset state) :=
  lanes.assign fun _ _ _ small => Nat.xor_lt_two_pow small (readLane_lt _)

theorem lane_absorbLanes (lanes : Lanes state) (offset : Nat) {i : Nat} (inside : i < 25) :
    lane (absorbLanes message offset state) i =
      if i < 17 then lane state i ^^^ readLane message (offset + i * 8) else lane state i := by
  split_ifs with rate
  · exact lane_assign_range (by rw [lanes.length]; exact inside) rate
  · have apart : ∀ j ∈ List.range (RATE_BYTES / 8), id j ≠ i := fun j mem same => by
      have early := List.mem_range.mp mem
      rw [id_eq] at same
      exact rate (same ▸ early)
    rw [lane, List.getD_eq_getElem?_getD, absorbLanes, getElem?_assign_of_ne apart, lane,
      List.getD_eq_getElem?_getD]

/-- The bits of a block go into the front of the state. -/
theorem string_absorbLanes (lanes : Lanes state) {i : Nat} (inside : 136 * (i + 1) ≤ message.length) :
    string (absorbLanes message (i * RATE_BYTES) state) =
      List.zipWith xor (string state)
        (((bitsOfBytes message).drop (1088 * i)).take 1088 ++ List.replicate 512 false) := by
  have block : (((bitsOfBytes message).drop (1088 * i)).take 1088).length = 1088 := by
    rw [List.length_take, List.length_drop, length_bitsOfBytes]
    omega
  have whole : (((bitsOfBytes message).drop (1088 * i)).take 1088 ++
      List.replicate 512 false).length = 1600 := by
    rw [List.length_append, block, List.length_replicate]
  refine ext_getD ?_ fun k small => ?_
  · rw [List.length_zipWith, whole, length_string, length_string, Nat.min_self]
  · rw [length_string] at small
    rw [getD_string small, lane_absorbLanes lanes _ (by omega),
      getD_zipWith_xor (by rw [length_string]; exact small) (by rw [whole]; exact small),
      getD_string small]
    rcases Nat.lt_or_ge k 1088 with rate | capacity
    · rw [if_pos (by omega), Nat.testBit_xor, testBit_readLane (by omega),
        List.getD_append _ _ _ _ (by rw [block]; exact rate), getD_take_drop rate, getD_bitsOfBytes]
      congr 2
      · congr 1
        rw [RATE_BYTES]
        omega
      · omega
    · rw [if_neg (by omega), List.getD_append_right _ _ _ _ (by rw [block]; exact capacity), block,
        List.getD_eq_getElem _ _ (by rw [List.length_replicate]; omega), List.getElem_replicate,
        Bool.xor_false]

theorem absorbAll_spec (lanes : Lanes state) {n : Nat} (blocks : message.length = 136 * n) :
    Lanes (absorbAll message state) ∧
      string (absorbAll message state) =
        absorb 1600 (keccakP 6 24) 1088 (bitsOfBytes message) n (string state) := by
  have count : message.length / RATE_BYTES = n := by
    rw [RATE_BYTES, blocks]
    omega
  rw [absorbAll, count]
  refine absorb_of_step lanes fun state i early lanes => ?_
  have absorbed : Lanes (absorbLanes message (i * RATE_BYTES) state) := lanes_absorbLanes lanes _
  refine ⟨lanes_permute absorbed, ?_⟩
  rw [string_permute absorbed, string_absorbLanes lanes (by rw [blocks]; omega)]
  rfl

/-! ## Padding -/

/-- What follows the input, `n` bytes. -/
def padding (n : Nat) : Bytes :=
  (1 :: List.replicate (n - 1) 0).modify (n - 1) fun byte => byte ||| 0x80

theorem modify_append_right {α : Type} (l t : List α) (i : Nat) (f : α → α) :
    (l ++ t).modify (l.length + i) f = l ++ t.modify i f :=
  List.modifyTailIdx_add _ i l t

theorem padded_eq (input : Bytes) :
    padded input = input ++ padding (136 - input.length % 136) := by
  have size : (input.length + 1 + (RATE_BYTES - 1)) / RATE_BYTES * RATE_BYTES =
      input.length + (136 - input.length % 136) := by
    rw [RATE_BYTES]
    omega
  obtain ⟨n, count⟩ : ∃ n, 136 - input.length % 136 = n + 1 :=
    Nat.exists_eq_succ_of_ne_zero (by omega)
  rw [padded, size, count, Nat.add_sub_cancel_left, List.set_append_right _ _ le_rfl, Nat.sub_self,
    List.replicate_succ, List.set_cons_zero, ← Nat.add_assoc, Nat.add_sub_cancel,
    modify_append_right]
  rfl

/-- One byte that ends the padding as well as it starts it, or two with zeros between. -/
theorem bitsOfBytes_padding {n : Nat} (pos : 0 < n) :
    bitsOfBytes (padding n) = true :: List.replicate (8 * n - 2) false ++ [true] := by
  obtain ⟨m, rfl⟩ : ∃ m, n = m + 1 := ⟨n - 1, by omega⟩
  cases m with
  | zero => decide
  | succ m =>
      have last : (List.replicate (m + 1) (0 : Byte)).modify m (fun byte => byte ||| 0x80) =
          List.replicate m 0 ++ [0x80] := by
        have ends := modify_append_right (List.replicate m (0 : Byte)) [0] 0 (fun byte => byte ||| 0x80)
        rw [List.length_replicate] at ends
        rw [List.replicate_succ']
        exact ends
      have first : bitsOfByte 1 = true :: List.replicate 7 false := by decide
      have final : bitsOfByte 0x80 = List.replicate 7 false ++ [true] := by decide
      have zeros : 8 * (m + 1 + 1) - 2 = 7 + (8 * m + 7) := by omega
      rw [padding, Nat.add_sub_cancel, List.modify_succ_cons, last, bitsOfBytes_cons,
        bitsOfBytes_append, bitsOfBytes_zeros, bitsOfBytes_cons, bitsOfBytes_nil, List.append_nil,
        first, final, zeros, List.replicate_add, List.replicate_add]
      simp only [List.cons_append, List.append_assoc]

/-- The padding of the code is that of the specification. -/
theorem bitsOfBytes_padded (input : Bytes) :
    bitsOfBytes (padded input) =
      bitsOfBytes input ++ pad10star1 1088 (bitsOfBytes input).length := by
  have zeros : ((-((8 * input.length : Nat) : Int) - 2) % (1088 : Nat)).toNat =
      8 * (136 - input.length % 136) - 2 := by
    omega
  rw [padded_eq, bitsOfBytes_append, bitsOfBytes_padding (by omega), pad10star1,
    length_bitsOfBytes, zeros]

theorem length_padded (input : Bytes) :
    (padded input).length = 136 * (input.length / 136 + 1) := by
  have bits := congrArg List.length (bitsOfBytes_padding (n := 136 - input.length % 136) (by omega))
  rw [length_bitsOfBytes] at bits
  simp only [List.length_append, List.length_cons, List.length_replicate, List.length_nil] at bits
  rw [padded_eq, List.length_append]
  omega

/-! ## Squeezing -/

/-- Rows of one length, one after another. -/
theorem getD_flatMap_range {α : Type} {row : Nat → List α} {m : Nat} {zero : α}
    (width : ∀ i, (row i).length = m) {n k : Nat} (inside : k < n * m) :
    ((List.range n).flatMap row).getD k zero = (row (k / m)).getD (k % m) zero := by
  have length (n : Nat) : ((List.range n).flatMap row).length = n * m := by
    simp [List.length_flatMap, width]
  have pos : 0 < m := Nat.pos_of_lt_mul_left inside
  induction n with
  | zero => omega
  | succ n ih =>
      rw [List.range_succ, List.flatMap_append, List.flatMap_singleton]
      rcases Nat.lt_or_ge k (n * m) with early | last
      · rw [List.getD_append _ _ _ _ (by rw [length]; exact early), ih early]
      · obtain ⟨j, rfl⟩ := Nat.exists_eq_add_of_le last
        have small : j < m := by
          rw [Nat.succ_mul] at inside
          omega
        rw [List.getD_append_right _ _ _ _ (by rw [length]; exact last), length,
          Nat.add_sub_cancel_left, Nat.mul_comm, Nat.mul_add_div pos, Nat.div_eq_of_lt small,
          Nat.mul_add_mod, Nat.mod_eq_of_lt small, Nat.add_zero]

theorem getD_laneBytes {value n i : Nat} (inside : i < n) :
    (laneBytes value n).getD i 0 = BitVec.ofNat 8 (value >>> (8 * i) &&& 0xff) := by
  induction n generalizing value i with
  | zero => omega
  | succ n ih =>
      rw [laneBytes]
      cases i with
      | zero => rfl
      | succ i =>
          rw [List.getD_cons_succ, ih (by omega), ← Nat.shiftRight_add, Nat.mul_succ, Nat.add_comm]

/-- The bits of the digest are the first of the state. -/
theorem bitsOfBytes_digest (state : List Nat) :
    bitsOfBytes ((List.range 4).flatMap fun i => laneBytes (lane state i) 8) =
      (string state).take 256 := by
  have length : ((List.range 4).flatMap fun i => laneBytes (lane state i) 8).length = 32 := by
    simp [List.length_flatMap]
  have taken : ((string state).take 256).length = 256 := by
    rw [List.length_take, length_string]
    rfl
  refine ext_getD (by rw [length_bitsOfBytes, length, taken]) fun k inside => ?_
  rw [length_bitsOfBytes, length] at inside
  have mask : (0xff : Nat).testBit (k % 8) = true := by
    have bit := Nat.testBit_two_pow_sub_one 8 (k % 8)
    rwa [decide_eq_true (Nat.mod_lt k (by omega))] at bit
  have index : 8 * (k / 8 % 8) + k % 8 = k % 64 := by omega
  have front := @getD_take_drop (string state) 0 256 k inside
  rw [List.drop_zero, Nat.zero_add] at front
  rw [front, getD_string (by omega), getD_bitsOfBytes,
    getD_flatMap_range (fun i => length_laneBytes _ _) (by omega), getD_laneBytes (by omega),
    BitVec.getLsbD_ofNat, decide_eq_true (Nat.mod_lt k (by omega)), Bool.true_and,
    Nat.testBit_and, mask, Bool.and_true, Nat.testBit_shiftRight, index, Nat.div_div_eq_div_mul]

/-- The digest is what the sponge gives out. -/
theorem keccak256Bytes_eq_keccak (input : Bytes) :
    bitsOfBytes (keccak256Bytes input) = keccak 512 (bitsOfBytes input) 256 := by
  have blocks := length_padded input
  obtain ⟨-, absorbed⟩ := absorbAll_spec lanes_zero blocks
  have count : (bitsOfBytes (padded input)).length / 1088 = input.length / 136 + 1 := by
    rw [length_bitsOfBytes, blocks]
    omega
  have state := absorbed ▸ length_string (absorbAll (padded input) (List.replicate 25 0))
  rw [keccak256Bytes, bitsOfBytes_digest, keccak, sponge, ← bitsOfBytes_padded, count, absorbed,
    string_zero, take_squeeze (by norm_num)]
  rw [string_zero] at state
  rw [state]
  norm_num

example : keccak256 [] =
    "0xc5d2460186f7233c927e7db2dcc703c0e500b653ca82273b7bfad8045d85a470".toList := by
  decide +kernel

end Crypto

end Sdk

end AgentProof
