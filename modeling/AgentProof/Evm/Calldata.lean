import AgentProof.Lib.Positional
import Mathlib.Data.List.TakeDrop

/-!
# Calldata

Byte strings as the contracts read them.  A read past the end of calldata
returns zeros, offsets are 256-bit words that wrap, and an assembly-made
`bytes calldata` value is only an offset and a length into the calldata of the
call, with no bounds check of its own (`CalldataBytes`).  A `bytes calldata`
argument that came through the ABI decoder lies inside the calldata
(`CalldataBytes.Decoded`).
-/

namespace AgentProof

abbrev Byte := BitVec 8
abbrev Bytes := List Byte
abbrev Bytes4 := BitVec 32
abbrev Uint64 := BitVec 64
abbrev Uint256 := BitVec 256
abbrev Bytes32 := BitVec 256
abbrev Address := BitVec 160

/-! ## Fallible code -/

section Fallible

variable {ε α β : Type} {p : Prop} [Decidable p] {e : ε} {b : β}

/-- A result of a sequence is a result of both parts. -/
theorem bind_eq_ok_iff {x : Except ε α} {f : α → Except ε β} :
    (x >>= f) = .ok b ↔ ∃ a, x = .ok a ∧ f a = .ok b := by
  cases x with
  | error e => simp [bind, Except.bind]
  | ok a => simp [bind, Except.bind]

/-- A guard that fails. -/
theorem guard_eq_ok_iff {x : Except ε β} :
    (if p then .error e else x) = .ok b ↔ ¬ p ∧ x = .ok b := by
  by_cases fails : p
  · simp [fails]
  · simp [fails]

end Fallible

/-! ## Big-endian bytes -/

/-- The number a big-endian byte string denotes. -/
def Bytes.toNat (bs : Bytes) : Nat :=
  Positional.value 256 (bs.map BitVec.toNat)

/-- The `n`-byte big-endian rendering of `v`. -/
def Bytes.ofNat (n v : Nat) : Bytes :=
  (Positional.digits 256 n v).map (BitVec.ofNat 8)

/-- One ABI word. -/
def wordBytes (w : Uint256) : Bytes :=
  Bytes.ofNat 32 w.toNat

@[simp] theorem Bytes.length_ofNat (n v : Nat) : (Bytes.ofNat n v).length = n := by
  simp [Bytes.ofNat]

@[simp] theorem length_wordBytes (w : Uint256) : (wordBytes w).length = 32 := by
  simp [wordBytes]

theorem Bytes.toNat_ofNat (n v : Nat) : (Bytes.ofNat n v).toNat = v % 256 ^ n := by
  have digits : ((Positional.digits 256 n v).map (BitVec.ofNat 8)).map BitVec.toNat =
      Positional.digits 256 n v := by
    rw [List.map_map]
    refine (List.map_congr_left fun d mem => ?_).trans (List.map_id _)
    have small : d < 256 := Positional.lt_of_mem_digits (by norm_num) mem
    simp only [Function.comp_apply, BitVec.toNat_ofNat, id_eq]
    omega
  rw [Bytes.toNat, Bytes.ofNat, digits, Positional.value_digits]

/-- A byte string is the rendering of the number it denotes. -/
theorem Bytes.ofNat_toNat (bs : Bytes) : Bytes.ofNat bs.length bs.toNat = bs := by
  have inRange : ∀ d ∈ bs.map BitVec.toNat, d < 256 := by
    intro d mem
    obtain ⟨b, -, rfl⟩ := List.mem_map.mp mem
    exact b.isLt
  have digits := Positional.digits_value inRange
  rw [List.length_map] at digits
  rw [Bytes.ofNat, Bytes.toNat, digits, List.map_map]
  refine (List.map_congr_left fun b _ => ?_).trans (List.map_id bs)
  exact BitVec.ofNat_toNat 8 b

theorem Bytes.toNat_cons (b : Byte) (bs : Bytes) :
    Bytes.toNat (b :: bs) = b.toNat * 256 ^ bs.length + Bytes.toNat bs := by
  simp [Bytes.toNat, Positional.value_cons]

theorem Bytes.toNat_append (as bs : Bytes) :
    Bytes.toNat (as ++ bs) = Bytes.toNat as * 256 ^ bs.length + Bytes.toNat bs := by
  rw [Bytes.toNat, List.map_append, Positional.value_append, List.length_map]
  rfl

theorem Bytes.toNat_lt (bs : Bytes) : bs.toNat < 256 ^ bs.length := by
  have bound : Positional.value 256 (bs.map BitVec.toNat) <
      256 ^ (bs.map BitVec.toNat).length := Positional.value_lt fun d mem => by
    obtain ⟨byte, -, rfl⟩ := List.mem_map.mp mem
    exact byte.isLt
  simpa [Bytes.toNat] using bound

/-! ## Zero-padded reads -/

/-- `length` bytes from `offset`, zeros past the end. -/
def readPadded (data : Bytes) (offset length : Nat) : Bytes :=
  (data.drop offset).takeD length 0

/-- The 32-byte word at a byte offset. -/
def wordAt (data : Bytes) (offset : Nat) : Uint256 :=
  BitVec.ofNat 256 (readPadded data offset 32).toNat

/-- The EVM instruction: the offset is a word. -/
def calldataload (data : Bytes) (offset : Uint256) : Uint256 :=
  wordAt data offset.toNat

@[simp] theorem length_readPadded (data : Bytes) (offset length : Nat) :
    (readPadded data offset length).length = length :=
  List.takeD_length _ _ _

theorem getD_takeD {α : Type*} (zero : α) (n i : Nat) (l : List α) :
    (List.takeD n l zero).getD i zero = if i < n then l.getD i zero else zero := by
  induction n generalizing l i with
  | zero => simp
  | succ n ih =>
      cases l with
      | nil =>
          rw [List.takeD_nil, List.getD_nil, ite_self, List.getD_eq_getElem?_getD,
            List.getElem?_replicate]
          split_ifs <;> rfl
      | cons x l =>
          cases i with
          | zero => simp
          | succ i => simpa using ih i l

theorem getD_readPadded (data : Bytes) (offset length i : Nat) :
    (readPadded data offset length).getD i 0 =
      if i < length then data.getD (offset + i) 0 else 0 := by
  rw [readPadded, getD_takeD]
  simp [List.getD_eq_getElem?_getD, List.getElem?_drop]

/-- A byte string of known length is determined by its padded bytes. -/
theorem eq_readPadded_of_getD {bs data : Bytes} {offset length : Nat} (len : bs.length = length)
    (same : ∀ i < length, bs.getD i 0 = data.getD (offset + i) 0) :
    bs = readPadded data offset length := by
  refine List.ext_getElem (by simp [len]) fun i here here' => ?_
  have left : bs.getD i 0 = bs[i] := by simp [List.getD_eq_getElem?_getD, here]
  have right : (readPadded data offset length).getD i 0 =
      (readPadded data offset length)[i] := by
    simp only [List.getD_eq_getElem?_getD, List.getElem?_eq_getElem here', Option.getD_some]
  rw [← left, ← right, getD_readPadded, if_pos (by omega), same i (by omega)]

/-- A read inside a padded read is a read of the underlying data. -/
theorem readPadded_readPadded {data : Bytes} {offset length inner n : Nat}
    (inside : inner + n ≤ length) :
    readPadded (readPadded data offset length) inner n = readPadded data (offset + inner) n :=
  eq_readPadded_of_getD (length_readPadded _ _ _) fun i small => by
    rw [getD_readPadded, if_pos small, getD_readPadded, if_pos (by omega), Nat.add_assoc]

theorem wordAt_readPadded {data : Bytes} {offset length inner : Nat}
    (inside : inner + 32 ≤ length) :
    wordAt (readPadded data offset length) inner = wordAt data (offset + inner) := by
  rw [wordAt, wordAt, readPadded_readPadded inside]

/-- A read that stays inside is a slice. -/
theorem readPadded_eq_take {data : Bytes} {offset length : Nat}
    (inside : offset + length ≤ data.length) :
    readPadded data offset length = (data.drop offset).take length := by
  rw [readPadded, List.takeD_eq_take 0 (by rw [List.length_drop]; omega)]

/-- Reading a prefix of exactly the asked length. -/
theorem readPadded_append_left (front rest : Bytes) :
    readPadded (front ++ rest) 0 front.length = front := by
  rw [readPadded, List.drop_zero, List.takeD_left]

/-- Skipping a prefix. -/
theorem readPadded_append_right (front rest : Bytes) (offset length : Nat) :
    readPadded (front ++ rest) (front.length + offset) length = readPadded rest offset length := by
  rw [readPadded, readPadded, List.drop_length_add_append]

theorem readPadded_append {front rest : Bytes} {n : Nat} (length : front.length = n)
    (offset count : Nat) :
    readPadded (front ++ rest) (n + offset) count = readPadded rest offset count := by
  rw [← length, readPadded_append_right]

theorem wordAt_append {front rest : Bytes} {n : Nat} (length : front.length = n) (offset : Nat) :
    wordAt (front ++ rest) (n + offset) = wordAt rest offset := by
  rw [wordAt, wordAt, readPadded_append length]

/-- An encoded word reads back. -/
@[simp] theorem wordAt_wordBytes_append (w : Uint256) (rest : Bytes) :
    wordAt (wordBytes w ++ rest) 0 = w := by
  have front : readPadded (wordBytes w ++ rest) 0 32 = wordBytes w := by
    have := readPadded_append_left (wordBytes w) rest
    rwa [length_wordBytes] at this
  have fits : w.toNat < 256 ^ 32 := w.isLt
  rw [wordAt, front, wordBytes, Bytes.toNat_ofNat, Nat.mod_eq_of_lt fits]
  exact BitVec.ofNat_toNat 256 w

@[simp] theorem wordAt_wordBytes (w : Uint256) : wordAt (wordBytes w) 0 = w := by
  simpa using wordAt_wordBytes_append w []

/-- A word past the end is zero. -/
theorem wordAt_eq_zero {data : Bytes} {offset : Nat} (past : data.length ≤ offset) :
    wordAt data offset = 0 := by
  have zeros : readPadded data offset 32 = List.replicate 32 0 := by
    rw [readPadded, List.drop_eq_nil_of_le past, List.takeD_nil]
  rw [wordAt, zeros]
  rfl

/-! ## Word sequences -/

/-- The static part of an ABI encoding: one word after another. -/
def encodeWords (ws : List Uint256) : Bytes := ws.flatMap wordBytes

@[simp] theorem length_encodeWords (ws : List Uint256) :
    (encodeWords ws).length = 32 * ws.length := by
  simp [encodeWords, List.length_flatMap, Nat.mul_comm]

theorem wordAt_encodeWords {ws : List Uint256} {i : Nat} {w : Uint256} (word : ws[i]? = some w)
    (rest : Bytes) : wordAt (encodeWords ws ++ rest) (32 * i) = w := by
  induction ws generalizing i with
  | nil => simp at word
  | cons head tail ih =>
      have unfolded : encodeWords (head :: tail) ++ rest =
          wordBytes head ++ (encodeWords tail ++ rest) := by
        rw [encodeWords, List.flatMap_cons, List.append_assoc, encodeWords]
      cases i with
      | zero =>
          obtain rfl : head = w := by simpa using word
          rw [unfolded, Nat.mul_zero, wordAt_wordBytes_append]
      | succ i =>
          rw [unfolded, Nat.mul_succ, Nat.add_comm, wordAt_append (length_wordBytes head)]
          exact ih (by simpa using word)

theorem wordAt_encodeWords' {ws : List Uint256} {i : Nat} {w : Uint256} (word : ws[i]? = some w) :
    wordAt (encodeWords ws) (32 * i) = w := by
  simpa using wordAt_encodeWords word []

/-! ## `bytes calldata` values -/

/-- A `bytes calldata` value: an offset and a length into the calldata of the call. -/
structure CalldataBytes where
  data : Bytes
  offset : Uint256
  length : Uint256
  deriving DecidableEq, Repr

namespace CalldataBytes

/-- The byte string the value stands for, as `calldatacopy` would copy it. -/
def bytes (c : CalldataBytes) : Bytes :=
  readPadded c.data c.offset.toNat c.length.toNat

@[simp] theorem length_bytes (c : CalldataBytes) : c.bytes.length = c.length.toNat :=
  length_readPadded _ _ _

/-- The whole byte string as a `bytes calldata` value. -/
def ofBytes (bs : Bytes) : CalldataBytes :=
  ⟨bs, 0, BitVec.ofNat 256 bs.length⟩

/-- `bytes4(c[0:4])`. -/
def selector (c : CalldataBytes) : Bytes4 :=
  BitVec.ofNat 32 (readPadded c.data c.offset.toNat 4).toNat

/-- `bytes32(c[i:i+32])`. -/
def word (c : CalldataBytes) (i : Uint256) : Uint256 :=
  calldataload c.data (c.offset + i)

/-- What the ABI decoder guarantees of a `bytes calldata` argument.  The size
bound is that of any calldata the decoder accepts: it refuses offsets and
lengths of 2^64 and above. -/
structure Decoded (c : CalldataBytes) : Prop where
  inBounds : c.offset.toNat + c.length.toNat ≤ c.data.length
  size_lt : c.data.length < 2 ^ 64

end CalldataBytes

/-- The first four bytes of a call's data, zero-padded. -/
def selectorOf (calldata : Bytes) : Bytes4 :=
  BitVec.ofNat 32 (readPadded calldata 0 4).toNat

/-- A selector is read off the bytes the slice stands for. -/
theorem CalldataBytes.selector_eq {c : CalldataBytes} (four : 4 ≤ c.length.toNat) :
    c.selector = selectorOf c.bytes := by
  rw [selector, selectorOf, bytes, readPadded_readPadded (by omega), Nat.add_zero]

/-- A word inside the slice is read off the bytes the slice stands for. -/
theorem CalldataBytes.word_eq {c : CalldataBytes} {i : Uint256}
    (inside : i.toNat + 32 ≤ c.length.toNat) (room : c.offset.toNat + i.toNat < 2 ^ 256) :
    c.word i = wordAt c.bytes i.toNat := by
  have offset : (c.offset + i).toNat = c.offset.toNat + i.toNat := by
    rw [BitVec.toNat_add, Nat.mod_eq_of_lt room]
  rw [word, calldataload, offset, bytes, wordAt_readPadded inside]

end AgentProof
