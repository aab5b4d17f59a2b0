import AgentProof.Evm.Calldata

/-!
# Decoding `(bytes, bytes[])` arguments

Solidity's decoder for the arguments of a router call, on 256-bit words: the
offsets of the two dynamic arguments are checked by the ABI decoder, the offset
of an element of the `bytes[]` when the element is read.  That one is a signed
distance from the start of the array's elements, so an element may lie before
the array, or nowhere: an address that wraps reads as zeros.

What a successful decoding says about the calldata is `Frame`: a length word
with its content behind it, inside the bytes.
-/

namespace AgentProof

namespace Abi

/-- The largest offset and length the decoder accepts. -/
def MAX_OFFSET : Nat := 2 ^ 64 - 1

/-- A dynamic argument at `offset`: where its elements begin, and how many there
are, of `stride` bytes each. -/
def decodeDynamic (data : Bytes) (stride offset stop : Uint256) : Option (Uint256 × Uint256) :=
  if ¬ (offset + 0x1f).slt stop then none
  else
    let length := calldataload data offset
    if MAX_OFFSET < length.toNat then none
    else
      let position := offset + 0x20
      if stop < position + length * stride then none else some (position, length)

/-- Element of a `bytes[]` whose offset word is at `pointer`. -/
def accessCalldataTail (data : Bytes) (base pointer size : Uint256) : Option (Uint256 × Uint256) :=
  let offset := calldataload data pointer
  if ¬ offset.slt (size - base - (0x20 - 1)) then none
  else
    let address := base + offset
    let length := calldataload data address
    if MAX_OFFSET < length.toNat then none
    else
      let position := address + 0x20
      if (size - length).slt position then none else some (position, length)

/-- The bytes a position and a length stand for, as `calldatacopy` copies them. -/
def copied (data : Bytes) (at_ : Uint256 × Uint256) : Bytes :=
  readPadded data at_.1.toNat at_.2.toNat

/-- One of the two dynamic arguments, from the head word at `index`. -/
def decodeArgument (data : Bytes) (stride : Uint256) (index : Nat) : Option (Uint256 × Uint256) :=
  let offset := calldataload data (4 + 32 * BitVec.ofNat 256 index)
  if MAX_OFFSET < offset.toNat then none
  else decodeDynamic data stride (4 + offset) (BitVec.ofNat 256 data.length)

/-- Elements `i`, `i + 1`, ... of a `bytes[]`. -/
def decodeElements (data : Bytes) (base size : Uint256) (i : Nat) : Nat → Option (List Bytes)
  | 0 => some []
  | count + 1 => do
      let element ← accessCalldataTail data base (base + 32 * BitVec.ofNat 256 i) size
      let rest ← decodeElements data base size (i + 1) count
      some (copied data element :: rest)

/-- `(bytes commands, bytes[] inputs[, uint256 deadline])` behind a selector.
The size of calldata is a word. -/
def decodeExecute (data : Bytes) (hasDeadline : Bool) : Option (Bytes × List Bytes) :=
  let size := BitVec.ofNat 256 data.length
  let head : Uint256 := if hasDeadline then 96 else 64
  if 2 ^ 256 ≤ data.length ∨ (size - 4).slt head then none
  else do
    let commands ← decodeArgument data 1 0
    let (base, count) ← decodeArgument data 0x20 1
    let inputs ← decodeElements data base size 0 count.toNat
    some (copied data commands, inputs)

/-! ## Words as positions -/

/-- What a small word is below, as signed words, is no negative one. -/
theorem lt_of_slt {a b : Uint256} (small : a.toNat < 2 ^ 255) (below : a.slt b = true) :
    b.toNat < 2 ^ 255 := by
  rw [BitVec.slt, decide_eq_true_eq, BitVec.toInt_eq_toNat_cond, BitVec.toInt_eq_toNat_cond] at below
  split at below <;> split at below <;> omega

/-- A signed bound of `size - taken` where both are below `2^255`. -/
theorem slt_sub_iff {a size taken : Uint256} (smallA : a.toNat < 2 ^ 255)
    (smallSize : size.toNat < 2 ^ 255) (smallTaken : taken.toNat < 2 ^ 255) :
    a.slt (size - taken) = decide (a.toNat + taken.toNat < size.toNat) := by
  rw [BitVec.slt, decide_eq_decide, BitVec.toInt_eq_toNat_cond, BitVec.toInt_eq_toNat_cond,
    BitVec.toNat_sub]
  split <;> split <;> omega

theorem sub_slt_iff {a size taken : Uint256} (smallA : a.toNat < 2 ^ 255)
    (smallSize : size.toNat < 2 ^ 255) (smallTaken : taken.toNat < 2 ^ 255) :
    (size - taken).slt a = decide (size.toNat < a.toNat + taken.toNat) := by
  rw [BitVec.slt, decide_eq_decide, BitVec.toInt_eq_toNat_cond, BitVec.toInt_eq_toNat_cond,
    BitVec.toNat_sub]
  split <;> split <;> omega

theorem toNat_add_of_lt {a b : Uint256} {m n : Nat} (left : a.toNat = m) (right : b.toNat = n)
    (fits : m + n < 2 ^ 256) : (a + b).toNat = m + n := by
  rw [BitVec.toNat_add, left, right, Nat.mod_eq_of_lt fits]

/-- The position of word `index`. -/
theorem toNat_scaled {index : Nat} (low : index < 2 ^ 64) :
    (32 * BitVec.ofNat 256 index : Uint256).toNat = 32 * index := by
  rw [BitVec.toNat_mul, BitVec.toNat_ofNat]
  change 32 * (index % 2 ^ 256) % 2 ^ 256 = 32 * index
  omega

/-- A length word at `p`, and the content behind it, inside the bytes. -/
structure Frame (data : Bytes) (p : Nat) (content : Bytes) : Prop where
  inside : p + 32 + content.length ≤ data.length
  length_eq : (wordAt data p).toNat = content.length
  content_eq : (data.drop (p + 32)).take content.length = content

/-- Behind a prefix of `n` bytes. -/
theorem readPadded_drop (data : Bytes) (n offset length : Nat) :
    readPadded (data.drop n) offset length = readPadded data (n + offset) length := by
  rw [readPadded, readPadded, List.drop_drop]

theorem wordAt_drop (data : Bytes) (n offset : Nat) :
    wordAt (data.drop n) offset = wordAt data (n + offset) := by
  rw [wordAt, wordAt, readPadded_drop]

theorem Frame.drop {data content : Bytes} {n p : Nat} (frame : Frame data (n + p) content) :
    Frame (data.drop n) p content where
  inside := by
    have inside := frame.inside
    rw [List.length_drop]
    omega
  length_eq := by rw [wordAt_drop, frame.length_eq]
  content_eq := by rw [List.drop_drop, ← Nat.add_assoc, frame.content_eq]

/-- The frame of a position inside the bytes whose length word fits. -/
theorem frame_copied {data : Bytes} {p : Nat} {position length : Uint256}
    (address : position.toNat = p + 32) (word : length = wordAt data p)
    (inside : p + 32 + length.toNat ≤ data.length) : Frame data p (copied data (position, length)) := by
  have size : (copied data (position, length)).length = length.toNat := length_readPadded _ _ _
  refine ⟨by rw [size]; exact inside, by rw [size, word], ?_⟩
  rw [size, copied, address, readPadded_eq_take inside]

/-! ## What a decoding guarantees -/

variable {data : Bytes} {stride offset position length base pointer : Uint256}

theorem decodeDynamic_eq_some (fits : data.length < 2 ^ 256) (low : offset.toNat < 2 ^ 65)
    (narrow : stride.toNat ≤ 32)
    (decoded : decodeDynamic data stride offset (BitVec.ofNat 256 data.length) =
      some (position, length)) :
    data.length < 2 ^ 255 ∧ position.toNat = offset.toNat + 32 ∧
      length = wordAt data offset.toNat ∧ length.toNat < 2 ^ 64 ∧
      offset.toNat + 32 + stride.toNat * length.toNat ≤ data.length := by
  have size : (BitVec.ofNat 256 data.length).toNat = data.length := by
    rw [BitVec.toNat_ofNat]
    omega
  simp only [decodeDynamic, Option.ite_none_left_eq_some, not_not, not_lt, Option.some.injEq,
    Prod.mk.injEq] at decoded
  obtain ⟨headInside, short, inside, rfl, rfl⟩ := decoded
  have headEnd : (offset + 0x1f).toNat = offset.toNat + 31 := toNat_add_of_lt rfl rfl (by omega)
  have small := lt_of_slt (by omega) headInside
  rw [size] at small
  have address : (offset + 0x20).toNat = offset.toNat + 32 := toNat_add_of_lt rfl rfl (by omega)
  have length_lt : (calldataload data offset).toNat < 2 ^ 64 := by
    unfold MAX_OFFSET at short
    omega
  have extent : (calldataload data offset * stride).toNat =
      stride.toNat * (calldataload data offset).toNat := by
    rw [BitVec.toNat_mul, Nat.mul_comm]
    refine Nat.mod_eq_of_lt ?_
    have := Nat.mul_le_mul narrow (Nat.le_of_lt length_lt)
    omega
  refine ⟨small, address, rfl, length_lt, ?_⟩
  have room := Nat.mul_le_mul narrow (Nat.le_of_lt length_lt)
  rw [BitVec.lt_def, toNat_add_of_lt address extent (by omega), size] at inside
  omega

/-- An element whose offset is no negative distance lies in the calldata. -/
theorem accessCalldataTail_eq_some (small : data.length < 2 ^ 255) (low : base.toNat < 2 ^ 66)
    (forward : (calldataload data pointer).toNat < 2 ^ 255)
    (accessed : accessCalldataTail data base pointer (BitVec.ofNat 256 data.length) =
      some (position, length)) :
    Frame data (base.toNat + (calldataload data pointer).toNat)
      (copied data (position, length)) := by
  have size : (BitVec.ofNat 256 data.length).toNat = data.length := by
    rw [BitVec.toNat_ofNat]
    omega
  simp only [accessCalldataTail, Option.ite_none_left_eq_some, not_not, not_lt,
    Option.some.injEq, Prod.mk.injEq] at accessed
  generalize tail : calldataload data pointer = offset at forward accessed ⊢
  obtain ⟨headInside, short, inside, rfl, rfl⟩ := accessed
  have reserve : (base + 31).toNat = base.toNat + 31 := toNat_add_of_lt rfl rfl (by omega)
  have bound : BitVec.ofNat 256 data.length - base - (0x20 - 1) =
      BitVec.ofNat 256 data.length - (base + 31) := by
    rw [BitVec.sub_sub]
    rfl
  rw [bound, slt_sub_iff forward (by omega) (by omega), decide_eq_true_eq, reserve, size]
    at headInside
  have address : (base + offset).toNat = base.toNat + offset.toNat :=
    toNat_add_of_lt rfl rfl (by omega)
  have next : (base + offset + 0x20).toNat = base.toNat + offset.toNat + 32 :=
    toNat_add_of_lt address rfl (by omega)
  have word : calldataload data (base + offset) = wordAt data (base.toNat + offset.toNat) := by
    rw [calldataload, address]
  have length_lt : (calldataload data (base + offset)).toNat < 2 ^ 64 := by
    unfold MAX_OFFSET at short
    omega
  rw [sub_slt_iff (by omega) (by omega) (by omega), decide_eq_true_eq, next, size] at inside
  exact frame_copied next word (by omega)

theorem decodeElements_eq_some {size : Uint256} {i count : Nat} {inputs : List Bytes}
    (decoded : decodeElements data base size i count = some inputs) :
    inputs.length = count ∧ ∀ k content, inputs[k]? = some content →
      ∃ element, accessCalldataTail data base (base + 32 * BitVec.ofNat 256 (i + k)) size =
        some element ∧ content = copied data element := by
  induction count generalizing i inputs with
  | zero =>
      obtain rfl : [] = inputs := Option.some.inj decoded
      exact ⟨rfl, fun k content at_k => by simp at at_k⟩
  | succ count ih =>
      simp only [decodeElements, Option.bind_eq_bind, Option.bind_eq_some_iff,
        Option.some.injEq] at decoded
      obtain ⟨element, accessed, rest, decodedRest, rfl⟩ := decoded
      obtain ⟨length, elements⟩ := ih decodedRest
      refine ⟨by rw [List.length_cons, length], fun k content at_k => ?_⟩
      cases k with
      | zero => exact ⟨element, accessed, (Option.some.inj at_k).symm⟩
      | succ k =>
          rw [← Nat.add_assoc, Nat.add_right_comm]
          exact elements k content at_k

/-- An argument's offset is a position of the body behind the selector. -/
theorem decodeArgument_eq_some {index : Nat} (fits : data.length < 2 ^ 256) (low : index < 2 ^ 64)
    (narrow : stride.toNat ≤ 32)
    (decoded : decodeArgument data stride index = some (position, length)) :
    let offset := (wordAt (data.drop 4) (32 * index)).toNat
    data.length < 2 ^ 255 ∧ position.toNat = 4 + offset + 32 ∧
      length = wordAt data (4 + offset) ∧ offset < 2 ^ 64 ∧ length.toNat < 2 ^ 64 ∧
      4 + offset + 32 + stride.toNat * length.toNat ≤ data.length := by
  have head : calldataload data (4 + 32 * BitVec.ofNat 256 index) =
      wordAt (data.drop 4) (32 * index) := by
    rw [calldataload, toNat_add_of_lt rfl (toNat_scaled low)
      (by change 4 + _ < _; omega), wordAt_drop]
    rfl
  simp only [decodeArgument, head, Option.ite_none_left_eq_some, not_lt] at decoded
  obtain ⟨short, dynamic⟩ := decoded
  unfold MAX_OFFSET at short
  generalize wordAt (data.drop 4) (32 * index) = offset at short dynamic ⊢
  have sum : (4 + offset).toNat = 4 + offset.toNat := toNat_add_of_lt rfl rfl (by omega)
  obtain ⟨small, at_position, word, length_lt, inside⟩ :=
    decodeDynamic_eq_some fits (by omega) narrow dynamic
  rw [sum] at at_position word inside
  exact ⟨small, at_position, word, by omega, length_lt, inside⟩

/-! ## The layout of a command stream -/

/-- The distance of element `i` from the start of the elements, as an unsigned word. -/
def elementOffset (body : Bytes) (base i : Nat) : Nat := (wordAt body (base + 32 + 32 * i)).toNat

/-- Where the arguments stand behind the selector.  An element with a negative
distance shows one past the end of everything. -/
structure Layout (body commands : Bytes) (inputs : List Bytes) : Prop where
  head : 64 ≤ body.length
  commands : Frame body (wordAt body 0).toNat commands
  count : (wordAt body (wordAt body 32).toNat).toNat = inputs.length
  offsets : (wordAt body 32).toNat + 32 + 32 * inputs.length ≤ body.length
  elements : ∀ i content, inputs[i]? = some content →
    let base := (wordAt body 32).toNat
    body.length ≤ elementOffset body base i ∨
      Frame body (base + 32 + elementOffset body base i) content

/-- What the decoder returns stands in the calldata. -/
theorem decodeExecute_layout {hasDeadline : Bool} {commands : Bytes} {inputs : List Bytes}
    (decoded : decodeExecute data hasDeadline = some (commands, inputs)) :
    Layout (data.drop 4) commands inputs ∧ (hasDeadline = true → 96 ≤ (data.drop 4).length) := by
  simp only [decodeExecute, Option.ite_none_left_eq_some, not_or, not_le, Bool.not_eq_true,
    Option.bind_eq_bind, Option.bind_eq_some_iff, Option.some.injEq, Prod.mk.injEq,
    Prod.exists] at decoded
  obtain ⟨⟨fits, head⟩, at_commands, size_commands, decodedCommands, base, count, decodedInputs,
    inputs, decodedElements, rfl, rfl⟩ := decoded
  obtain ⟨small, position, word, -, -, inside⟩ :=
    decodeArgument_eq_some fits (by norm_num) (by decide) decodedCommands
  obtain ⟨-, start, number, low, number_lt, extent⟩ :=
    decodeArgument_eq_some fits (by norm_num) (by decide) decodedInputs
  obtain ⟨counted, elements⟩ := decodeElements_eq_some decodedElements
  rw [Nat.mul_zero] at position word inside
  rw [Nat.mul_one] at start number low extent
  change 4 + _ + 32 + 1 * _ ≤ _ at inside
  change 4 + _ + 32 + 32 * _ ≤ _ at extent
  rw [← counted] at extent number_lt
  have size : (BitVec.ofNat 256 data.length).toNat = data.length := by
    rw [BitVec.toNat_ofNat, Nat.mod_eq_of_lt fits]
  have body : (data.drop 4).length = data.length - 4 := List.length_drop
  have headInside : (if hasDeadline then 96 else 64) + 4 ≤ data.length := by
    rw [sub_slt_iff (by split <;> decide) (by omega) (by decide), decide_eq_false_iff_not, size]
      at head
    cases hasDeadline <;> simpa using head
  refine ⟨⟨?_, ?_, ?_, ?_, ?_⟩, ?_⟩
  · split at headInside <;> omega
  · exact (frame_copied position word (by omega)).drop
  · rw [counted, number, wordAt_drop]
  · omega
  · intro i content at_i base'
    have base_eq : base' = (wordAt (data.drop 4) 32).toNat := rfl
    have here : i < inputs.length := (List.getElem?_eq_some_iff.mp at_i).1
    obtain ⟨element, accessed, rfl⟩ := elements i content at_i
    rw [Nat.zero_add] at accessed
    have pointer : calldataload data (base + 32 * BitVec.ofNat 256 i) =
        wordAt (data.drop 4) (base' + 32 + 32 * i) := by
      have place : 4 + (wordAt (data.drop 4) 32).toNat + 32 + 32 * i = 4 + (base' + 32 + 32 * i) := by
        omega
      rw [calldataload, toNat_add_of_lt start (toNat_scaled (by omega)) (by omega), place, wordAt_drop]
    by_cases far : (data.drop 4).length ≤ elementOffset (data.drop 4) base' i
    · exact .inl far
    · have forward : (calldataload data (base + 32 * BitVec.ofNat 256 i)).toNat < 2 ^ 255 := by
        rw [pointer]
        unfold elementOffset at far
        omega
      have frame := accessCalldataTail_eq_some small (by omega) forward accessed
      rw [pointer, start, Nat.add_assoc, Nat.add_assoc, ← Nat.add_assoc base'] at frame
      exact .inr frame.drop
  · intro deadline
    rw [if_pos deadline] at headInside
    omega

end Abi

end AgentProof
