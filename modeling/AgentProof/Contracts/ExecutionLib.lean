import AgentProof.Contracts.PolicyLib

/-!
# ExecutionLib

`ExecutionLib.sol`: the target and inner calldata of a single ERC-7579
execution, and the counterparty of a known ERC-20 call.  The assembly of
`decodeSingleExecution` follows an attacker-chosen offset with wrapping
arithmetic and no bounds check; `decodeSingleExecution_eq_ok` says what an
accepted execution nevertheless guarantees, and `decodeErc20Counterparty_eq`
reads the counterparty off the inner bytes the account would execute.
-/

namespace AgentProof

namespace ExecutionLib

def callTypeSingle : Byte := 0x00

/-- `execute(bytes32,bytes)`. -/
def executeSelector : Bytes4 := 0xe9ae5c53

/-- `executeFromExecutor(bytes32,bytes)`. -/
def executeFromExecutorSelector : Bytes4 := 0xd691c964

def transferSelector : Bytes4 := 0xa9059cbb
def approveSelector : Bytes4 := 0x095ea7b3
def transferFromSelector : Bytes4 := 0x23b872dd

/-- The target and the inner calldata of a single ERC-7579 execution. -/
def decodeSingleExecution (msgData : CalldataBytes) : Except Revert (Address × CalldataBytes) :=
  if msgData.length < 4 then .error .malformedExecution
  else if msgData.selector ≠ executeSelector ∧ msgData.selector ≠ executeFromExecutorSelector then
    .error (.unsupportedSelector msgData.selector)
  else
    let mode := calldataload msgData.data (msgData.offset + 4)
    let rel := calldataload msgData.data (msgData.offset + 36)
    let dataOffset := msgData.offset + 4 + (rel + 32)
    let dataLength := calldataload msgData.data (dataOffset - 32)
    let callType : Byte := (mode >>> 248).setWidth 8
    if callType ≠ callTypeSingle then .error (.unsupportedCallType callType)
    else if dataLength < 52 then .error .malformedExecution
    else
      let target : Address := (calldataload msgData.data dataOffset >>> 96).setWidth 160
      .ok (target, ⟨msgData.data, dataOffset + 52, dataLength - 52⟩)

/-- The recipient or spender of a known ERC-20 call; the zero address for
shapes the library does not recognise. -/
def decodeErc20Counterparty (callData : CalldataBytes) : Except Revert Address :=
  if callData.length < 4 then .ok 0
  else if callData.selector = transferSelector ∨ callData.selector = approveSelector then
    if callData.length < 68 then .error .malformedExecution
    else .ok ((callData.word 4).setWidth 160)
  else if callData.selector = transferFromSelector then
    if callData.length < 100 then .error .malformedExecution
    else .ok ((callData.word 36).setWidth 160)
  else .ok 0

/-! ## What an accepted execution guarantees -/

/-- The inner calldata starts inside the calldata, or just past it: its length
word was read from inside, since a word past the end is zero. -/
theorem decodeSingleExecution_eq_ok {msgData inner : CalldataBytes} {target : Address}
    (decoded : msgData.Decoded) (accepted : decodeSingleExecution msgData = .ok (target, inner)) :
    inner.data = msgData.data ∧ inner.offset.toNat < msgData.data.length + 84 := by
  have size := decoded.size_lt
  unfold decodeSingleExecution at accepted
  dsimp only at accepted
  split_ifs at accepted with short selector callType malformed
  simp only [Except.ok.injEq, Prod.mk.injEq] at accepted
  obtain ⟨-, rfl⟩ := accepted
  refine ⟨rfl, ?_⟩
  dsimp only
  generalize msgData.offset + 4 +
    (calldataload msgData.data (msgData.offset + 36) + 32) = dataOffset at malformed ⊢
  have inside : (dataOffset - 32).toNat < msgData.data.length := by
    by_contra past
    rw [calldataload, wordAt_eq_zero (by omega)] at malformed
    exact malformed (by decide)
  bv_omega

/-- The counterparty as a function of the inner bytes. -/
def counterpartyOf (calldata : Bytes) : Except Revert Address :=
  if calldata.length < 4 then .ok 0
  else if selectorOf calldata = transferSelector ∨ selectorOf calldata = approveSelector then
    if calldata.length < 68 then .error .malformedExecution
    else .ok ((wordAt calldata 4).setWidth 160)
  else if selectorOf calldata = transferFromSelector then
    if calldata.length < 100 then .error .malformedExecution
    else .ok ((wordAt calldata 36).setWidth 160)
  else .ok 0

/-- A slice that does not run into the end of the address space is decoded by
the bytes it stands for. -/
theorem decodeErc20Counterparty_eq {callData : CalldataBytes}
    (room : callData.offset.toNat < 2 ^ 255) :
    decodeErc20Counterparty callData = counterpartyOf callData.bytes := by
  simp only [decodeErc20Counterparty, counterpartyOf, CalldataBytes.length_bytes, BitVec.lt_def]
  have len4 : (4 : Uint256).toNat = 4 := rfl
  have len68 : (68 : Uint256).toNat = 68 := rfl
  have len100 : (100 : Uint256).toNat = 100 := rfl
  simp only [len4, len68, len100]
  by_cases short : callData.length.toNat < 4
  · simp [short]
  simp only [short, if_false, ← CalldataBytes.selector_eq (c := callData) (by omega)]
  by_cases two : callData.selector = transferSelector ∨ callData.selector = approveSelector
  · by_cases args : callData.length.toNat < 68
    · simp [two, args]
    · have first := CalldataBytes.word_eq (c := callData) (i := 4)
        (by rw [len4]; omega) (by rw [len4]; omega)
      simp only [two, args, if_true, if_false, first, len4]
  by_cases three : callData.selector = transferFromSelector
  · simp only [if_neg two, if_pos three]
    by_cases args : callData.length.toNat < 100
    · simp only [if_pos args]
    · have len36 : (36 : Uint256).toNat = 36 := rfl
      have second := CalldataBytes.word_eq (c := callData) (i := 36)
        (by rw [len36]; omega) (by rw [len36]; omega)
      simp only [if_neg args, second, len36]
  · simp only [if_neg two, if_neg three]

/-- The counterparty the hook sees in an accepted execution is that of the
bytes the account executes. -/
theorem counterparty_of_accepted {msgData inner : CalldataBytes} {target : Address}
    (decoded : msgData.Decoded) (accepted : decodeSingleExecution msgData = .ok (target, inner)) :
    decodeErc20Counterparty inner = counterpartyOf inner.bytes := by
  have size := decoded.size_lt
  have start := (decodeSingleExecution_eq_ok decoded accepted).2
  exact decodeErc20Counterparty_eq (by omega)

/-! ## The canonical encoding -/

/-- `execute(bytes32 mode, bytes executionCalldata)` in single mode, with
`abi.encodePacked(target, value, callData)` as its execution. -/
def encodeExecute (target : Address) (value : Uint256) (callData : Bytes) : Bytes :=
  Bytes.ofNat 4 executeSelector.toNat ++ (wordBytes 0 ++ (wordBytes 64 ++
    (wordBytes (BitVec.ofNat 256 (52 + callData.length)) ++
      (Bytes.ofNat 20 target.toNat ++ (wordBytes value ++ (callData ++
        List.replicate ((32 - (52 + callData.length) % 32) % 32) 0))))))

/-- The first bytes of a word are its high digits. -/
theorem wordAt_append_high {front : Bytes} (short : front.length ≤ 32) (rest : Bytes) :
    (wordAt (front ++ rest) 0).toNat / 256 ^ (32 - front.length) = front.toNat := by
  have split : readPadded (front ++ rest) 0 32 =
      front ++ readPadded rest 0 (32 - front.length) := by
    symm
    refine eq_readPadded_of_getD (by simp; omega) fun i small => ?_
    simp only [Nat.zero_add, List.getD_eq_getElem?_getD, List.getElem?_append]
    split_ifs with inFront
    · rfl
    · have tail := getD_readPadded rest 0 (32 - front.length) (i - front.length)
      rw [if_pos (by omega), Nat.zero_add] at tail
      simpa only [List.getD_eq_getElem?_getD] using tail
  have low := Bytes.toNat_lt (readPadded rest 0 (32 - front.length))
  rw [length_readPadded] at low
  have whole : (readPadded (front ++ rest) 0 32).toNat < 2 ^ 256 := by
    have bound := Bytes.toNat_lt (readPadded (front ++ rest) 0 32)
    rw [length_readPadded] at bound
    exact bound
  rw [wordAt, BitVec.toNat_ofNat, Nat.mod_eq_of_lt whole, split, Bytes.toNat_append,
    length_readPadded, Nat.mul_comm, Nat.mul_add_div (by positivity), Nat.div_eq_of_lt low,
    Nat.add_zero]

/-- The packed target is the top of the first execution word. -/
theorem target_of_packed (target : Address) (rest : Bytes) :
    (wordAt (Bytes.ofNat 20 target.toNat ++ rest) 0 >>> 96).setWidth 160 = target := by
  have high := @wordAt_append_high (Bytes.ofNat 20 target.toNat) (by simp) rest
  have fits : target.toNat < 256 ^ 20 := target.isLt
  rw [Bytes.length_ofNat, Bytes.toNat_ofNat, Nat.mod_eq_of_lt fits] at high
  apply BitVec.eq_of_toNat_eq
  rw [BitVec.toNat_setWidth, BitVec.toNat_ushiftRight, Nat.shiftRight_eq_div_pow]
  change (wordAt _ 0).toNat / 256 ^ 12 % 2 ^ 160 = target.toNat
  rw [high, Nat.mod_eq_of_lt target.isLt]

/-- The inner calldata of a canonical encoding stands behind the packed target and value. -/
def innerCall (target : Address) (value : Uint256) (callData : Bytes) : CalldataBytes :=
  ⟨encodeExecute target value callData, 152, BitVec.ofNat 256 callData.length⟩

theorem bytes_innerCall (target : Address) (value : Uint256) {callData : Bytes}
    (fits : callData.length < 2 ^ 255) : (innerCall target value callData).bytes = callData := by
  have length : (BitVec.ofNat 256 callData.length).toNat = callData.length := by
    rw [BitVec.toNat_ofNat]
    omega
  change readPadded (encodeExecute target value callData) 152
    (BitVec.ofNat 256 callData.length).toNat = callData
  rw [length, encodeExecute, readPadded_append (Bytes.length_ofNat 4 _) 148,
    readPadded_append (length_wordBytes _) 116, readPadded_append (length_wordBytes _) 84,
    readPadded_append (length_wordBytes _) 52, readPadded_append (Bytes.length_ofNat 20 _) 32,
    readPadded_append (length_wordBytes _) 0, readPadded_append_left]

/-- Every canonical encoding is accepted and yields the target and the inner
calldata it was built from. -/
theorem decodeSingleExecution_innerCall (target : Address) (value : Uint256)
    {callData : Bytes} (fits : callData.length < 2 ^ 255) :
    decodeSingleExecution (.ofBytes (encodeExecute target value callData)) =
      .ok (target, innerCall target value callData) := by
  set packed := Bytes.ofNat 20 target.toNat ++ (wordBytes value ++ (callData ++
    List.replicate ((32 - (52 + callData.length) % 32) % 32) 0)) with packed_def
  set head := Bytes.ofNat 4 executeSelector.toNat with head_def
  have headLength : head.length = 4 := Bytes.length_ofNat 4 _
  have encoded : encodeExecute target value callData = head ++ (wordBytes 0 ++ (wordBytes 64 ++
    (wordBytes (BitVec.ofNat 256 (52 + callData.length)) ++ packed))) := rfl
  rw [innerCall]
  set data := encodeExecute target value callData with data_def
  have dataLength : data.length = 152 + callData.length +
      (32 - (52 + callData.length) % 32) % 32 := by
    rw [encoded, packed_def]
    simp [headLength]
    omega
  have selector : readPadded data 0 4 = head := by
    rw [encoded, ← headLength, readPadded_append_left]
  have mode : wordAt data 4 = 0 := by
    rw [encoded, wordAt_append headLength 0, wordAt_wordBytes_append]
  have rel : wordAt data 36 = 64 := by
    rw [encoded, wordAt_append headLength 32, wordAt_append (length_wordBytes _) 0,
      wordAt_wordBytes_append]
  have length : wordAt data 68 = BitVec.ofNat 256 (52 + callData.length) := by
    rw [encoded, wordAt_append headLength 64, wordAt_append (length_wordBytes _) 32,
      wordAt_append (length_wordBytes _) 0, wordAt_wordBytes_append]
  have packedAt : wordAt data 100 = wordAt packed 0 := by
    rw [encoded, wordAt_append headLength 96, wordAt_append (length_wordBytes _) 64,
      wordAt_append (length_wordBytes _) 32, wordAt_append (length_wordBytes _) 0]
  have len4 : (4 : Uint256).toNat = 4 := rfl
  have len52 : (52 : Uint256).toNat = 52 := rfl
  have sel : (CalldataBytes.ofBytes data).selector = executeSelector := by
    change BitVec.ofNat 32 (readPadded data 0 4).toNat = executeSelector
    rw [selector, head_def, Bytes.toNat_ofNat]
    rfl
  have long : ¬ (CalldataBytes.ofBytes data).length < 4 := by
    rw [CalldataBytes.ofBytes, BitVec.lt_def, BitVec.toNat_ofNat, len4]
    omega
  have lengthWord : ¬ BitVec.ofNat 256 (52 + callData.length) < (52 : Uint256) := by
    rw [BitVec.lt_def, BitVec.toNat_ofNat, len52]
    omega
  have innerLength : BitVec.ofNat 256 (52 + callData.length) - (52 : Uint256) =
      BitVec.ofNat 256 callData.length := by
    apply BitVec.eq_of_toNat_eq
    rw [BitVec.toNat_sub, BitVec.toNat_ofNat, BitVec.toNat_ofNat, len52]
    omega
  have modeWord : calldataload data (0 + 4) = 0 := mode
  have relWord : calldataload data (0 + 36) = 64 := rel
  have lengthAt : calldataload data (0 + 4 + (64 + 32) - 32) =
      BitVec.ofNat 256 (52 + callData.length) := length
  have targetAt : calldataload data (0 + 4 + (64 + 32)) = wordAt packed 0 := packedAt
  unfold decodeSingleExecution
  rw [if_neg long, if_neg fun bad => bad.1 sel]
  dsimp only [CalldataBytes.ofBytes]
  rw [modeWord, relWord, lengthAt, targetAt, if_neg (by decide), if_neg lengthWord, packed_def,
    target_of_packed, innerLength]
  rfl

theorem decodeSingleExecution_encodeExecute (target : Address) (value : Uint256)
    {callData : Bytes} (fits : callData.length < 2 ^ 255) :
    ∃ inner, decodeSingleExecution (.ofBytes (encodeExecute target value callData)) =
      .ok (target, inner) ∧ inner.bytes = callData :=
  ⟨_, decodeSingleExecution_innerCall target value fits, bytes_innerCall target value fits⟩

end ExecutionLib

end AgentProof
