import AgentProof.Contracts.ExecutionLib
import AgentProof.Evm.AbiDecode
import AgentProof.Sdk.Encode
import AgentProof.Sdk.SameBytes

/-!
# The call the hook checks and the call the account makes

The account decodes `execute(bytes32,bytes)` with the compiler's checked
decoder; the hook reads the same calldata with its own assembly.  On whatever
the checked decoder accepts, the two see one target and one inner call
(`decodeSingleExecution_faithful`).  The two encoders of the SDK write one text,
and the hook reads off it what went in.
-/

namespace AgentProof

open ExecutionLib

/-! ## The arguments the account decodes -/

namespace Abi

/-- `(bytes32 mode, bytes executionCalldata)` behind a selector. -/
def decodeModeAndExecution (data : Bytes) : Option (Bytes32 × Bytes) :=
  if 2 ^ 256 ≤ data.length ∨ (BitVec.ofNat 256 data.length - 4 : Uint256).slt 64 then none
  else do
    let execution ← decodeArgument data 1 1
    some (calldataload data 4, copied data execution)

/-- Where the decoded arguments stand. -/
theorem decodeModeAndExecution_eq_some {data execution : Bytes} {mode : Bytes32}
    (decoded : decodeModeAndExecution data = some (mode, execution)) :
    let offset := (wordAt data 36).toNat
    68 ≤ data.length ∧ mode = wordAt data 4 ∧ offset < 2 ^ 64 ∧
      execution.length = (wordAt data (4 + offset)).toNat ∧
      4 + offset + 32 + execution.length ≤ data.length ∧
      execution = readPadded data (4 + offset + 32) execution.length := by
  simp only [decodeModeAndExecution, Option.ite_none_left_eq_some, not_or, not_le,
    Bool.not_eq_true, Option.bind_eq_bind, Option.bind_eq_some_iff, Option.some.injEq,
    Prod.mk.injEq, Prod.exists] at decoded
  obtain ⟨⟨fits, head⟩, position, length, argument, rfl, rfl⟩ := decoded
  obtain ⟨small, at_position, word, low, -, inside⟩ :=
    decodeArgument_eq_some fits (by norm_num) (by decide) argument
  simp only [Nat.mul_one, wordAt_drop, Nat.reduceAdd] at at_position word low inside
  change 4 + _ + 32 + 1 * _ ≤ _ at inside
  have size : (BitVec.ofNat 256 data.length).toNat = data.length := by
    rw [BitVec.toNat_ofNat, Nat.mod_eq_of_lt fits]
  rw [sub_slt_iff (by decide) (by omega) (by decide), decide_eq_false_iff_not, size] at head
  change ¬ data.length < 64 + 4 at head
  have count : (copied data (position, length)).length = length.toNat := length_readPadded _ _ _
  refine ⟨by omega, rfl, low, by rw [count, word], ?_, ?_⟩
  · rw [count]
    omega
  · rw [count, copied, at_position]

end Abi

/-! ## What the hook decodes -/

namespace ExecutionLib

theorem drop_readPadded {data : Bytes} {offset length n : Nat} (inside : n ≤ length) :
    (readPadded data offset length).drop n = readPadded data (offset + n) (length - n) := by
  refine eq_readPadded_of_getD (by simp) fun i small => ?_
  have read := getD_readPadded data offset length (n + i)
  rw [if_pos (by omega), ← Nat.add_assoc] at read
  rw [← read]
  simp [List.getD_eq_getElem?_getD, List.getElem?_drop]

/-- The top twenty bytes of a word inside the data are the address they stand for. -/
theorem setWidth_wordAt {data : Bytes} {p : Nat} (inside : p + 20 ≤ data.length) :
    (wordAt data p >>> 96).setWidth 160 =
      BitVec.ofNat 160 (Bytes.toNat ((data.drop p).take 20)) := by
  set front : Bytes := (data.drop p).take 20 with front_def
  have length : front.length = 20 := by
    rw [front_def, List.length_take, List.length_drop]
    omega
  have fits : front.toNat < 2 ^ 160 := by
    have bound := Bytes.toNat_lt front
    rw [length] at bound
    exact bound
  have packed := target_of_packed (BitVec.ofNat 160 front.toNat) ((data.drop p).drop 20)
  have digits := Bytes.ofNat_toNat front
  rw [length] at digits
  rw [BitVec.toNat_ofNat, Nat.mod_eq_of_lt fits, digits, front_def, List.take_append_drop,
    Abi.wordAt_drop, Nat.add_zero] at packed
  exact packed

/-- The first byte of a word. -/
theorem head_wordBytes (w : Uint256) : (wordBytes w).head? = some ((w >>> 248).setWidth 8) := by
  cases bytes : wordBytes w with
  | nil =>
      have length := length_wordBytes w
      rw [bytes] at length
      cases length
  | cons first rest =>
      have high := @wordAt_append_high [first] (by simp) rest
      rw [List.singleton_append, ← bytes, wordAt_wordBytes] at high
      rw [List.head?_cons, Option.some.injEq]
      apply BitVec.eq_of_toNat_eq
      rw [BitVec.toNat_setWidth, BitVec.toNat_ushiftRight, Nat.shiftRight_eq_div_pow]
      change _ = w.toNat / 256 ^ 31 % 2 ^ 8
      rw [show w.toNat / 256 ^ 31 = Bytes.toNat [first] from high, Bytes.toNat_cons]
      simp only [Bytes.toNat, List.map_nil, Positional.value_nil, List.length_nil, pow_zero,
        Nat.mul_one, Nat.add_zero]
      exact (Nat.mod_eq_of_lt first.isLt).symm

/-- The assembly in terms of words of the slice. -/
theorem decodeSingleExecution_eq_ok_iff {msgData inner : CalldataBytes} {target : Address}
    (four : 4 ≤ msgData.length.toNat)
    (selector : selectorOf msgData.bytes = executeSelector ∨
      selectorOf msgData.bytes = executeFromExecutorSelector) :
    decodeSingleExecution msgData = .ok (target, inner) ↔
      (msgData.word 4 >>> 248).setWidth 8 = callTypeSingle ∧
        52 ≤ (msgData.word (4 + msgData.word 36)).toNat ∧
        target = (msgData.word (36 + msgData.word 36) >>> 96).setWidth 160 ∧
        inner = ⟨msgData.data, msgData.offset + (36 + msgData.word 36) + 52,
          msgData.word (4 + msgData.word 36) - 52⟩ := by
  have long : ¬ msgData.length < 4 := by
    rw [BitVec.lt_def]
    exact not_lt.mpr four
  have known : ¬ (msgData.selector ≠ executeSelector ∧
      msgData.selector ≠ executeFromExecutorSelector) := by
    rw [CalldataBytes.selector_eq four]
    exact fun other => selector.elim other.1 other.2
  have start (rel : Uint256) : msgData.offset + 4 + (rel + 32) = msgData.offset + (36 + rel) := by
    bv_omega
  have before (rel : Uint256) : msgData.offset + (36 + rel) - 32 = msgData.offset + (4 + rel) := by
    bv_omega
  rw [decodeSingleExecution, if_neg long, if_neg known]
  simp only [start, before, guard_eq_ok_iff, not_not, BitVec.lt_def, not_lt, Except.ok.injEq,
    Prod.mk.injEq, eq_comm (b := target), eq_comm (b := inner)]
  rfl

/-- On arguments the account's decoder accepts, the hook returns the first twenty bytes of the
execution as the target and exactly its bytes from 52 on, for a single execution that has as many;
anything else it refuses. -/
theorem decodeSingleExecution_of_decoded {msgData : CalldataBytes} {mode : Bytes32}
    {execution : Bytes}
    (inBounds : msgData.offset.toNat + msgData.length.toNat ≤ msgData.data.length)
    (size : msgData.data.length < 2 ^ 256)
    (selector : selectorOf msgData.bytes = executeSelector ∨
      selectorOf msgData.bytes = executeFromExecutorSelector)
    (decoded : Abi.decodeModeAndExecution msgData.bytes = some (mode, execution)) :
    ((wordBytes mode).head? = some 0x00 → 52 ≤ execution.length →
      ∃ inner, decodeSingleExecution msgData =
          .ok (BitVec.ofNat 160 (Bytes.toNat (execution.take 20)), inner) ∧
        inner.bytes = execution.drop 52) ∧
      ((wordBytes mode).head? ≠ some 0x00 ∨ execution.length < 52 →
        ∃ e, decodeSingleExecution msgData = .error e) := by
  obtain ⟨head, modeAt, low, count, inside, content⟩ := Abi.decodeModeAndExecution_eq_some decoded
  rw [CalldataBytes.length_bytes] at head inside
  have len4 : (4 : Uint256).toNat = 4 := rfl
  have len36 : (36 : Uint256).toNat = 36 := rfl
  have len52 : (52 : Uint256).toNat = 52 := rfl
  have modeWord : msgData.word 4 = mode := by
    rw [modeAt, CalldataBytes.word_eq (by rw [len4]; omega) (by rw [len4]; omega), len4]
  have relWord : msgData.word 36 = wordAt msgData.bytes 36 := by
    rw [CalldataBytes.word_eq (by rw [len36]; omega) (by rw [len36]; omega), len36]
  have accepts (inner : CalldataBytes) (target : Address) :=
    @decodeSingleExecution_eq_ok_iff msgData inner target (by omega) selector
  simp only [modeWord, relWord] at accepts
  generalize wordAt msgData.bytes 36 = rel at low count inside content accepts
  have lengthAt : (4 + rel).toNat = 4 + rel.toNat := Abi.toNat_add_of_lt rfl rfl (by omega)
  have startAt : (36 + rel).toNat = 4 + rel.toNat + 32 := by
    rw [Abi.toNat_add_of_lt len36 rfl (by omega)]
    omega
  have lengthWord : (msgData.word (4 + rel)).toNat = execution.length := by
    rw [CalldataBytes.word_eq (by omega) (by omega), lengthAt, count]
  have callType := head_wordBytes mode
  constructor
  · intro single long
    have target : BitVec.ofNat 160 (Bytes.toNat (execution.take 20)) =
        (msgData.word (36 + rel) >>> 96).setWidth 160 := by
      rw [CalldataBytes.word_eq (by omega) (by omega), startAt,
        setWidth_wordAt (by rw [CalldataBytes.length_bytes]; omega), content,
        readPadded_eq_take (by rw [CalldataBytes.length_bytes]; omega), List.take_take,
        min_eq_left (by omega)]
    refine ⟨_, (accepts _ _).mpr ⟨?_, by rw [lengthWord]; exact long, target, rfl⟩, ?_⟩
    · rw [callType, Option.some.injEq] at single
      exact single
    · have innerAt : (msgData.offset + (36 + rel) + 52).toNat =
          msgData.offset.toNat + (4 + rel.toNat + 32 + 52) := by
        rw [Abi.toNat_add_of_lt (Abi.toNat_add_of_lt rfl startAt (by omega)) len52 (by omega)]
        omega
      have innerLength : (msgData.word (4 + rel) - 52).toNat = execution.length - 52 := by
        rw [BitVec.toNat_sub_of_le (by rw [BitVec.le_def, lengthWord]; exact long), lengthWord,
          len52]
      conv_rhs => rw [content]
      rw [CalldataBytes.bytes, innerAt, innerLength, drop_readPadded long, CalldataBytes.bytes,
        readPadded_readPadded (by omega)]
  · intro other
    cases result : decodeSingleExecution msgData with
    | error e => exact ⟨e, rfl⟩
    | ok answer =>
        obtain ⟨single, long, -⟩ := (accepts answer.2 answer.1).mp result
        rw [lengthWord] at long
        rcases other with differs | short
        · exact absurd (callType.trans (congrArg some single)) differs
        · omega

end ExecutionLib

namespace Sdk

open Js Calldata

/-! ## `hexToBytes` -/

/-- A byte for every two digits; a typed array stores `NaN` as 0. -/
def pairBytes : Text → Bytes
  | [] | [_] => []
  | high :: low :: rest => BitVec.ofNat 8 (maskBits (parseIntHex [high, low]) 8) :: pairBytes rest

def hexToBytes (hex : Text) : Except JsError Bytes :=
  let body := hex.drop 2
  if body.length % 2 ≠ 0 then thrown "Hex string has an odd length".toList
  else .ok (pairBytes body)

theorem length_pairBytes (s : Text) : (pairBytes s).length = s.length / 2 := by
  fun_induction pairBytes s with
  | case1 => rfl
  | case2 => simp
  | case3 high low rest ih =>
      simp only [List.length_cons, ih]
      omega

theorem pairBytes_append {s : Text} (even : s.length % 2 = 0) (t : Text) :
    pairBytes (s ++ t) = pairBytes s ++ pairBytes t := by
  fun_induction pairBytes s with
  | case1 => rfl
  | case2 => simp at even
  | case3 high low rest ih =>
      rw [List.length_cons, List.length_cons] at even
      simp only [List.cons_append, pairBytes, ih (by omega)]

/-- The byte of two digits. -/
theorem pairByte_toNat {high low : Char} (hex : AllHex [high, low]) :
    (BitVec.ofNat 8 (maskBits (parseIntHex [high, low]) 8)).toNat =
      digitValue high * 16 + digitValue low := by
  have small := numeral_lt hex
  have number : numeral 16 [high, low] = digitValue high * 16 + digitValue low := by
    simp [numeral, Positional.value]
  rw [parseIntHex_of_allHex hex, if_neg (List.cons_ne_nil _ _), BitVec.toNat_ofNat, maskBits,
    Option.getD_some, ← number]
  change numeral 16 [high, low] < 256 at small
  omega

theorem toNat_pairBytes {s : Text} (hex : AllHex s) (even : s.length % 2 = 0) :
    (pairBytes s).toNat = numeral 16 s := by
  fun_induction pairBytes s with
  | case1 => rfl
  | case2 => simp at even
  | case3 high low rest ih =>
      rw [List.length_cons, List.length_cons] at even
      have pair : AllHex [high, low] := hex.slice 0 2
      have later : AllHex rest := by
        simp only [AllHex, List.all_cons, Bool.and_eq_true] at hex ⊢
        exact hex.2.2
      have digits : 256 ^ (rest.length / 2) = 16 ^ rest.length := by
        rw [show (256 : Nat) = 16 ^ 2 from rfl, ← pow_mul]
        congr 1
        omega
      rw [Bytes.toNat_cons, pairByte_toNat pair, length_pairBytes, ih later (by omega), digits]
      simp only [numeral, List.map_cons, Positional.value_cons, List.length_cons, List.length_map]
      ring

/-- The bytes of a text of digits, whatever their case. -/
theorem pairBytes_of_allHex {s : Text} (hex : AllHex s) (even : s.length % 2 = 0) :
    pairBytes s = Bytes.ofNat (s.length / 2) (numeral 16 s) := by
  rw [← toNat_pairBytes hex even, ← length_pairBytes, Bytes.ofNat_toNat]

/-! ## The two encoders -/

namespace Executors

def word (value : Nat) : Text := padStart 64 '0' (toHex value)

/-- `encodeErc7579Execute` of `adapters/executors.ts`.  The length is a number, which is padded to
whole words before it is written; `BigInt` takes no half. -/
def encodeErc7579Execute (target : Text) (value : Nat) (callData : Text) : Except JsError Text :=
  let packed := target.drop 2 ++ word value ++ callData.drop 2
  let padded := padEnd ((packed.length + 63) / 64 * 64) '0' packed
  if packed.length % 2 ≠ 0 then
    .error ⟨"RangeError".toList, "The number ".toList ++ toDecimal (packed.length / 2 : Nat) ++
      ".5 cannot be converted to a BigInt because it is not an integer".toList⟩
  else
    let call := "0xe9ae5c53".toList ++ word 0 ++ word 64 ++ word (packed.length / 2) ++ padded
    if MAX_LENGTH < call.length then
      .error ⟨"RangeError".toList, "Invalid string length".toList⟩
    else .ok call

end Executors

namespace Calldata

/-- `encodeErc7579Execute` of `testing/calldata.ts`. -/
def encodeErc7579Execute (target : Text) (value : Nat) (callData : Text) : Except JsError Text := do
  let packed := target.drop 2 ++ word value ++ callData.drop 2
  let execution ← encodeBytes packed
  let call := "0xe9ae5c53".toList ++ word 0 ++ word 64 ++ execution
  if MAX_LENGTH < call.length then
    .error ⟨"RangeError".toList, "Invalid string length".toList⟩
  else .ok call

end Calldata

/-- What both write around the packed execution. -/
def executeText (packed : Text) : Text :=
  "0xe9ae5c53".toList ++ (Calldata.word 0 ++ (Calldata.word 64 ++ frameText packed))

theorem frameLength_le_executeText (packed : Text) :
    frameLength packed ≤ (executeText packed).length := by
  have framed := length_frameText_ge packed
  unfold executeText
  simp only [List.length_append]
  omega

theorem executors_encodeErc7579Execute (target : Text) (value : Nat) (callData : Text) :
    Executors.encodeErc7579Execute target value callData =
      Calldata.encodeErc7579Execute target value callData := by
  have words : Executors.word = Calldata.word := rfl
  rw [Executors.encodeErc7579Execute, Calldata.encodeErc7579Execute]
  simp only [words]
  generalize target.drop 2 ++ Calldata.word value ++ callData.drop 2 = packed
  by_cases odd : packed.length % 2 ≠ 0
  · rw [encodeBytes, if_pos odd, if_pos odd]
    rfl
  · rw [encodeBytes, if_neg odd, if_neg odd]
    simp only [bind, Except.bind, padBytes, List.append_assoc]

theorem encodeErc7579Execute_eq_ok_iff {target callData data : Text} {value : Nat} :
    Calldata.encodeErc7579Execute target value callData = .ok data ↔
      let packed := target.drop 2 ++ Calldata.word value ++ callData.drop 2
      packed.length % 2 = 0 ∧ (executeText packed).length ≤ MAX_LENGTH ∧
        executeText packed = data := by
  unfold Calldata.encodeErc7579Execute executeText
  generalize "0xe9ae5c53".toList = selector
  simp only [bind_eq_ok_iff, encodeBytes_eq_ok_iff, guard_eq_ok_iff, Except.ok.injEq, not_lt,
    List.append_assoc]
  constructor
  · rintro ⟨_, ⟨even, rfl⟩, short, rfl⟩
    exact ⟨even, short, rfl⟩
  · rintro ⟨even, short, rfl⟩
    exact ⟨_, ⟨even, rfl⟩, short, rfl⟩

/-! ## The bytes of an encoding -/

theorem pairBytes_word {v : Nat} (fits : v < 2 ^ 256) :
    pairBytes (Calldata.word v) = wordBytes (BitVec.ofNat 256 v) := by
  have digits : v < 16 ^ 64 := fits
  rw [word_eq fits, pairBytes_of_allHex (allHex_fixedHex 64 v) (by rw [length_fixedHex]),
    length_fixedHex, numeral_fixedHex, Nat.mod_eq_of_lt digits, wordBytes, BitVec.toNat_ofNat,
    Nat.mod_eq_of_lt fits]

theorem pairBytes_zeros (n : Nat) : pairBytes (List.replicate (2 * n) '0') = List.replicate n 0 := by
  induction n with
  | zero => rfl
  | succ n ih =>
      have zero : BitVec.ofNat 8 (maskBits (parseIntHex ['0', '0']) 8) = 0 := by decide
      rw [Nat.mul_succ, List.replicate_succ, List.replicate_succ, pairBytes, ih, zero,
        List.replicate_succ]

theorem hexToBytes_eq_ok_iff {hex : Text} {bytes : Bytes} :
    hexToBytes hex = .ok bytes ↔ (hex.drop 2).length % 2 = 0 ∧ pairBytes (hex.drop 2) = bytes := by
  rw [hexToBytes, thrown, guard_eq_ok_iff, not_not, Except.ok.injEq]

/-- The bytes of the encoding of a target, a value and the calldata of a call. -/
theorem hexToBytes_executeText {target callData : Text} {value : Nat} {inner : Bytes}
    (address : isAddress target = true) (fits : value < 2 ^ 256)
    (bytes : hexToBytes callData = .ok inner) (small : inner.length < 2 ^ 255) :
    hexToBytes (executeText (target.drop 2 ++ Calldata.word value ++ callData.drop 2)) =
      .ok (encodeExecute (addressOf target) (BitVec.ofNat 256 value) inner) := by
  obtain ⟨body, rfl, forty, hex, number⟩ := isAddress_eq_true address
  obtain ⟨even, rfl⟩ := hexToBytes_eq_ok_iff.mp bytes
  rw [length_pairBytes] at small
  have targetBytes : pairBytes body = Bytes.ofNat 20 (addressOf ('0' :: 'x' :: body)).toNat := by
    rw [pairBytes_of_allHex hex (by omega), forty, number]
  have dropped : ('0' :: 'x' :: body).drop 2 = body := rfl
  rw [dropped]
  generalize addressOf ('0' :: 'x' :: body) = target at targetBytes
  generalize callData.drop 2 = call at even small
  have selector : pairBytes "e9ae5c53".toList = Bytes.ofNat 4 executeSelector.toNat := by decide
  have words {v : Nat} (low : v < 2 ^ 256) : (Calldata.word v).length % 2 = 0 := by
    rw [length_word low]
  have size : (body ++ Calldata.word value ++ call).length = 2 * (52 + call.length / 2) := by
    simp only [List.length_append, forty, length_word fits]
    omega
  have padding : ((body ++ Calldata.word value ++ call).length + 63) / 64 * 64 -
      (body ++ Calldata.word value ++ call).length =
        2 * ((32 - (52 + (pairBytes call).length) % 32) % 32) := by
    rw [length_pairBytes, size]
    omega
  have half : (body ++ Calldata.word value ++ call).length / 2 = 52 + (pairBytes call).length := by
    rw [length_pairBytes, size]
    omega
  have text : (executeText (body ++ Calldata.word value ++ call)).drop 2 =
      "e9ae5c53".toList ++ (Calldata.word 0 ++ (Calldata.word 64 ++
        (Calldata.word (52 + (pairBytes call).length) ++ (body ++ (Calldata.word value ++ (call ++
          List.replicate (2 * ((32 - (52 + (pairBytes call).length) % 32) % 32)) '0')))))) := by
    have front : "0xe9ae5c53".toList = '0' :: 'x' :: "e9ae5c53".toList := rfl
    unfold executeText
    rw [front, frameText, padBytes, padEnd, half, padding]
    simp only [List.append_assoc, List.cons_append, List.drop_succ_cons, List.drop_zero]
  rw [hexToBytes_eq_ok_iff, text]
  have selectorEven : "e9ae5c53".toList.length % 2 = 0 := rfl
  generalize "e9ae5c53".toList = selectorText at selector selectorEven
  constructor
  · simp only [List.length_append, List.length_replicate, forty, length_word fits,
      length_word (show 0 < 2 ^ 256 by norm_num), length_word (show 64 < 2 ^ 256 by norm_num)]
    rw [length_word (by rw [length_pairBytes]; omega)]
    omega
  · rw [pairBytes_append selectorEven, pairBytes_append (words (by norm_num)),
      pairBytes_append (words (by norm_num)),
      pairBytes_append (words (by rw [length_pairBytes]; omega)), pairBytes_append (by omega),
      pairBytes_append (words fits), pairBytes_append even, selector, pairBytes_word (by norm_num),
      pairBytes_word (by norm_num), pairBytes_word (by rw [length_pairBytes]; omega), targetBytes,
      pairBytes_word fits, pairBytes_zeros]
    rfl

/-! ## One call on both sides -/

/-- Whatever layout of `(mode, executionCalldata)` the account's decoder accepts, the hook sees the
same target and inner calldata, or refuses a call that is not single or too short.  The two encoders
write one text, whose bytes the hook takes apart into what went in. -/
theorem decodeSingleExecution_faithful :
    (∀ (msgData : CalldataBytes) (mode : Bytes32) (execution : Bytes),
      msgData.offset.toNat + msgData.length.toNat ≤ msgData.data.length →
      msgData.data.length < 2 ^ 256 →
      (AgentProof.selectorOf msgData.bytes = executeSelector ∨
        AgentProof.selectorOf msgData.bytes = executeFromExecutorSelector) →
      Abi.decodeModeAndExecution msgData.bytes = some (mode, execution) →
        ((wordBytes mode).head? = some 0x00 → 52 ≤ execution.length →
          ∃ inner, decodeSingleExecution msgData =
              .ok (BitVec.ofNat 160 (Bytes.toNat (execution.take 20)), inner) ∧
            inner.bytes = execution.drop 52) ∧
          ((wordBytes mode).head? ≠ some 0x00 ∨ execution.length < 52 →
            ∃ e, decodeSingleExecution msgData = .error e)) ∧
      (∀ (target : Text) (value : Nat) (callData : Text),
        Executors.encodeErc7579Execute target value callData =
          Calldata.encodeErc7579Execute target value callData) ∧
      ∀ (target : Text) (value : Nat) (callData : Text) (bytes : Bytes),
        isAddress target = true → value < 2 ^ 256 → hexToBytes callData = .ok bytes →
        (executeText (target.drop 2 ++ Calldata.word value ++ callData.drop 2)).length ≤ MAX_LENGTH →
          ∃ data msgData inner, Executors.encodeErc7579Execute target value callData = .ok data ∧
            hexToBytes data = .ok msgData ∧
            decodeSingleExecution (.ofBytes msgData) = .ok (addressOf target, inner) ∧
            inner.bytes = bytes := by
  refine ⟨fun msgData mode execution inBounds size selector decoded =>
    decodeSingleExecution_of_decoded inBounds size selector decoded,
    executors_encodeErc7579Execute, ?_⟩
  intro target value callData bytes address fits read short
  obtain ⟨body, rfl, forty, -, -⟩ := isAddress_eq_true address
  obtain ⟨even, rfl⟩ := hexToBytes_eq_ok_iff.mp read
  have dropped : ('0' :: 'x' :: body).drop 2 = body := rfl
  have small : (pairBytes (callData.drop 2)).length < 2 ^ 255 := by
    have room := (frameLength_le_executeText _).trans short
    rw [length_pairBytes]
    simp only [frameLength, List.length_append, MAX_LENGTH] at room
    omega
  obtain ⟨inner, decodes, same⟩ := decodeSingleExecution_encodeExecute
    (addressOf ('0' :: 'x' :: body)) (BitVec.ofNat 256 value) small
  refine ⟨_, _, inner, ?_, hexToBytes_executeText address fits read small, decodes, same⟩
  rw [executors_encodeErc7579Execute, encodeErc7579Execute_eq_ok_iff]
  refine ⟨?_, short, rfl⟩
  simp only [dropped, List.length_append, forty, length_word fits]
  omega

/-- A call with a word between the head and the execution, and bytes behind its padding. -/
def spacedCall : Bytes :=
  Bytes.ofNat 4 executeFromExecutorSelector.toNat ++ (wordBytes 0 ++ (wordBytes 96 ++ (wordBytes 7 ++
    (wordBytes 53 ++ (Bytes.ofNat 20 0xAB ++ (wordBytes 5 ++ [0x01, 0x02, 0x03] ++
      List.replicate 40 0xFF))))))

/-- The spaced call, and an encoding for a target in mixed case. -/
theorem decodeSingleExecution_faithful_spacedCall :
    (∃ mode execution inner, Abi.decodeModeAndExecution spacedCall = some (mode, execution) ∧
      decodeSingleExecution (.ofBytes spacedCall) =
        .ok (BitVec.ofNat 160 (Bytes.toNat (execution.take 20)), inner) ∧
      inner.bytes = execution.drop 52) ∧
      ∃ data msgData inner, Executors.encodeErc7579Execute
          "0xAb00000000000000000000000000000000000000".toList 7 "0xDEad01".toList = .ok data ∧
        hexToBytes data = .ok msgData ∧
        decodeSingleExecution (.ofBytes msgData) =
          .ok (addressOf "0xAb00000000000000000000000000000000000000".toList, inner) ∧
        inner.bytes = [0xDE, 0xAD, 0x01] := by
  obtain ⟨layouts, -, encodings⟩ := decodeSingleExecution_faithful
  constructor
  · have decoded : Abi.decodeModeAndExecution (CalldataBytes.ofBytes spacedCall).bytes =
        some (0, Bytes.ofNat 20 0xAB ++ (wordBytes 5 ++ [0x01])) := by decide +kernel
    have whole : (CalldataBytes.ofBytes spacedCall).bytes = spacedCall := by
      decide +kernel
    obtain ⟨inner, decodes, same⟩ := (layouts (.ofBytes spacedCall) _ _ (by decide +kernel)
      (by decide +kernel) (by decide +kernel) decoded).1 (by decide +kernel) (by decide +kernel)
    rw [whole] at decoded
    exact ⟨_, _, inner, decoded, decodes, same⟩
  · exact encodings _ _ _ _ (by decide +kernel) (by norm_num) (by decide +kernel)
      (by decide +kernel)

end Sdk

end AgentProof
