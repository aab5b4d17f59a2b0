import AgentProof.Contracts.ExecutionLib

/-!
# AgentPolicyHook

The ERC-7579 hook of `AgentPolicyHook.sol`: module installation, the check
before an execution and the measurement after it.  Every entry point acts on
the storage of its caller; `msg.sender` is the argument `sender`.  The balances
the hook reads from the tracked token are the argument `balanceOf`.

Each entry point gets one lemma that says everything a successful call does,
and the later modules use only those.
-/

namespace AgentProof

namespace AgentPolicyHook

open PolicyLib ExecutionLib

structure Config where
  asset : Address
  maxTransaction : Uint256
  dailyLimit : Uint256
  minBalance : Uint256
  policyHash : Bytes32
  installed : Bool
  deriving DecidableEq, Repr

/-- A cleared storage slot. -/
def Config.zero : Config := ⟨0, 0, 0, 0, 0, false⟩

def Config.limits (c : Config) : Limits := ⟨c.maxTransaction, c.dailyLimit⟩

/-- The three mappings, by account. -/
@[ext]
structure Storage where
  config : Address → Config
  window : Address → Window
  allowedTarget : Address → Address → Bool

/-- The storage of a hook that has just been deployed. -/
def Storage.initial : Storage := ⟨fun _ => .zero, fun _ => .zero, fun _ _ => false⟩

inductive Event
  | policyInstalled (account : Address) (policyHash : Bytes32) (asset : Address)
  | policyUninstalled (account : Address)
  | spendRecorded (account target : Address) (amount dayTotal : Uint256) (day : Uint64)
  | targetAllowed (account target : Address) (allowed : Bool)
  deriving DecidableEq, Repr

/-- `uint64(block.timestamp / 1 days)`. -/
def dayOf (timestamp : Nat) : Uint64 := BitVec.ofNat 64 (timestamp / 86400)

/-! ## ABI decoding -/

/-- A word read as a shorter unsigned integer or an address; the decoder
reverts on dirty upper bits. -/
def decodeUint (n : Nat) (w : Uint256) : Except Revert (BitVec n) :=
  if w.toNat < 2 ^ n then .ok (w.setWidth n) else .error .abiDecoding

def decodeAddress (w : Uint256) : Except Revert Address := decodeUint 160 w

def decodeBool (w : Uint256) : Except Revert Bool :=
  if w = 0 then .ok false else if w = 1 then .ok true else .error .abiDecoding

/-- `count` consecutive address words. -/
def decodeAddresses (data : Bytes) (offset : Nat) : Nat → Except Revert (List Address)
  | 0 => .ok []
  | count + 1 => do
      let first ← decodeAddress (wordAt data offset)
      let rest ← decodeAddresses data (offset + 32) count
      .ok (first :: rest)

/-- `abi.decode(data, (Config, address[]))`: six static words, the offset of
the array, and the array. -/
def decodeInstallData (data : Bytes) : Except Revert (Config × List Address) :=
  if data.length < 224 then .error .abiDecoding
  else do
    let asset ← decodeAddress (wordAt data 0)
    let installed ← decodeBool (wordAt data 160)
    let offset := (wordAt data 192).toNat
    if 2 ^ 64 ≤ offset then .error .abiDecoding
    else if data.length ≤ offset + 31 then .error .abiDecoding
    else
      let count := (wordAt data offset).toNat
      if 2 ^ 64 ≤ count then .error .abiDecoding
      else if data.length < offset + 32 + 32 * count then .error .abiDecoding
      else
        let targets ← decodeAddresses data (offset + 32) count
        .ok (⟨asset, wordAt data 32, wordAt data 64, wordAt data 96, wordAt data 128, installed⟩,
          targets)

/-- `abi.decode(hookData, (uint256, uint64, address))`. -/
def decodeHookData (hookData : Bytes) : Except Revert (Uint256 × Uint64 × Address) :=
  if hookData.length < 96 then .error .abiDecoding
  else do
    let today ← decodeUint 64 (wordAt hookData 32)
    let target ← decodeAddress (wordAt hookData 64)
    .ok (wordAt hookData 0, today, target)

/-- `abi.encode(balanceBefore, today, target)`. -/
def encodeHookData (balanceBefore : Uint256) (today : Uint64) (target : Address) : Bytes :=
  encodeWords [balanceBefore, today.setWidth 256, target.setWidth 256]

/-- `abi.encode(c, targets)`. -/
def encodeInstallData (c : Config) (targets : List Address) : Bytes :=
  encodeWords ([c.asset.setWidth 256, c.maxTransaction, c.dailyLimit, c.minBalance, c.policyHash,
    if c.installed then 1 else 0, 224, BitVec.ofNat 256 targets.length] ++
      targets.map (BitVec.setWidth 256))

/-! ## Entry points -/

/-- The mapping after `allowedTarget[account][t] = true` for each of `targets`. -/
def allowTargets (allowed : Address → Bool) (targets : List Address) : Address → Bool :=
  targets.foldl (fun allowed t => Function.update allowed t true) allowed

def onInstall (s : Storage) (sender : Address) (data : Bytes) :
    Except Revert (Storage × List Event) :=
  if (s.config sender).installed then .error .alreadyInstalled
  else do
    let (c, targets) ← decodeInstallData data
    let stored := { c with installed := true }
    .ok ({ s with
        config := Function.update s.config sender stored
        allowedTarget := Function.update s.allowedTarget sender
          (allowTargets (s.allowedTarget sender) targets) },
      targets.map (fun t => .targetAllowed sender t true) ++
        [.policyInstalled sender stored.policyHash stored.asset])

def onUninstall (s : Storage) (sender : Address) : Storage × List Event :=
  ({ s with
      config := Function.update s.config sender .zero
      window := Function.update s.window sender .zero },
    [.policyUninstalled sender])

def preCheck (s : Storage) (balanceOf : Address → Address → Uint256) (timestamp : Nat)
    (sender : Address) (msgData : CalldataBytes) : Except Revert Bytes :=
  let c := s.config sender
  if ¬ c.installed then .error .notInstalled
  else do
    let (target, innerCalldata) ← decodeSingleExecution msgData
    if ¬ s.allowedTarget sender target then .error (.targetNotAllowed target)
    else
      if target = c.asset then
        let counterparty ← decodeErc20Counterparty innerCalldata
        if counterparty ≠ 0 ∧ ¬ s.allowedTarget sender counterparty then
          .error (.targetNotAllowed counterparty)
      .ok (encodeHookData (balanceOf c.asset sender) (dayOf timestamp) target)

def postCheck (s : Storage) (balanceOf : Address → Address → Uint256) (sender : Address)
    (hookData : Bytes) : Except Revert (Storage × List Event) :=
  let c := s.config sender
  if ¬ c.installed then .error .notInstalled
  else do
    let (balanceBefore, today, target) ← decodeHookData hookData
    let balanceAfter := balanceOf c.asset sender
    let outflow := if balanceBefore > balanceAfter then balanceBefore - balanceAfter else 0
    let (s', events) ←
      if outflow > 0 then do
        let next ← applySpend (s.window sender) c.limits outflow today
        .ok ({ s with window := Function.update s.window sender next },
          [Event.spendRecorded sender target outflow next.spent today])
      else .ok (s, [])
    if balanceAfter < c.minBalance then .error (.belowMinBalance balanceAfter c.minBalance)
    else .ok (s', events)

def remainingToday (s : Storage) (account : Address) (timestamp : Nat) : Uint256 :=
  PolicyLib.remainingToday (s.window account) (s.config account).limits (dayOf timestamp)

/-! ## Hook data -/

theorem decodeUint_setWidth {n : Nat} (small : n ≤ 256) (v : BitVec n) :
    decodeUint n (v.setWidth 256) = .ok v := by
  have bound := v.isLt
  have wide : 2 ^ n ≤ 2 ^ 256 := Nat.pow_le_pow_right (by norm_num) small
  have number : (v.setWidth 256 : Uint256).toNat = v.toNat := by
    rw [BitVec.toNat_setWidth, Nat.mod_eq_of_lt (by omega)]
  have back : (v.setWidth 256).setWidth n = v := by
    apply BitVec.eq_of_toNat_eq
    rw [BitVec.toNat_setWidth, number, Nat.mod_eq_of_lt bound]
  rw [decodeUint, number, if_pos bound, back]

/-- The hook reads back what it handed to the account. -/
@[simp] theorem decodeHookData_encodeHookData (balanceBefore : Uint256) (today : Uint64)
    (target : Address) :
    decodeHookData (encodeHookData balanceBefore today target) =
      .ok (balanceBefore, today, target) := by
  have first : wordAt (encodeHookData balanceBefore today target) 0 = balanceBefore :=
    wordAt_encodeWords' (i := 0) rfl
  have second : wordAt (encodeHookData balanceBefore today target) 32 = today.setWidth 256 :=
    wordAt_encodeWords' (i := 1) rfl
  have third : wordAt (encodeHookData balanceBefore today target) 64 = target.setWidth 256 :=
    wordAt_encodeWords' (i := 2) rfl
  have long : ¬ (encodeHookData balanceBefore today target).length < 96 := by
    simp [encodeHookData]
  rw [decodeHookData, if_neg long, first, second, third, decodeAddress,
    decodeUint_setWidth (by norm_num), decodeUint_setWidth (by norm_num)]
  rfl

/-! ## Install data -/

/-- Consecutive address words are read in order. -/
theorem decodeAddresses_eq_ok {data : Bytes} {offset : Nat} {targets : List Address}
    (words : ∀ i t, targets[i]? = some t → wordAt data (offset + 32 * i) = t.setWidth 256) :
    decodeAddresses data offset targets.length = .ok targets := by
  induction targets generalizing offset with
  | nil => rfl
  | cons t rest ih =>
      have head : wordAt data offset = t.setWidth 256 := words 0 t rfl
      have tail : decodeAddresses data (offset + 32) rest.length = .ok rest := ih fun i t' mem => by
        rw [show offset + 32 + 32 * i = offset + 32 * (i + 1) by ring]
        exact words (i + 1) t' mem
      rw [List.length_cons, decodeAddresses, head, decodeAddress, decodeUint_setWidth (by norm_num),
        tail]
      rfl

theorem decodeBool_ite (b : Bool) : decodeBool (if b then 1 else 0) = .ok b := by
  cases b <;> rfl

/-- Install data read back as it was written. -/
theorem decodeInstallData_encodeInstallData (c : Config) {targets : List Address}
    (fits : targets.length < 2 ^ 64) :
    decodeInstallData (encodeInstallData c targets) = .ok (c, targets) := by
  set data := encodeInstallData c targets with encoded
  have dataLength : data.length = 256 + 32 * targets.length := by
    rw [encoded, encodeInstallData, length_encodeWords, List.length_append, List.length_map]
    simp only [List.length_cons, List.length_nil]
    omega
  have asset : wordAt data 0 = c.asset.setWidth 256 := wordAt_encodeWords' (i := 0) rfl
  have maxTransaction : wordAt data 32 = c.maxTransaction := wordAt_encodeWords' (i := 1) rfl
  have dailyLimit : wordAt data 64 = c.dailyLimit := wordAt_encodeWords' (i := 2) rfl
  have minBalance : wordAt data 96 = c.minBalance := wordAt_encodeWords' (i := 3) rfl
  have policyHash : wordAt data 128 = c.policyHash := wordAt_encodeWords' (i := 4) rfl
  have installed : wordAt data 160 = if c.installed then 1 else 0 :=
    wordAt_encodeWords' (i := 5) rfl
  have offset : (wordAt data 192).toNat = 224 := by
    have word : wordAt data 192 = 224 := wordAt_encodeWords' (i := 6) rfl
    rw [word]
    rfl
  have count : (wordAt data 224).toNat = targets.length := by
    have word : wordAt data 224 = BitVec.ofNat 256 targets.length :=
      wordAt_encodeWords' (i := 7) rfl
    rw [word, BitVec.toNat_ofNat]
    omega
  have addresses : decodeAddresses data (224 + 32) targets.length = .ok targets :=
    decodeAddresses_eq_ok fun i t mem => by
      rw [show 224 + 32 + 32 * i = 32 * (i + 8) by ring]
      refine wordAt_encodeWords' ?_
      rw [List.getElem?_append_right (by simp)]
      simp [mem]
  unfold decodeInstallData
  rw [if_neg (by omega), asset, decodeAddress, decodeUint_setWidth (by norm_num), installed,
    decodeBool_ite, offset]
  simp only [bind, Except.bind, count, addresses, maxTransaction, dailyLimit, minBalance,
    policyHash]
  rw [if_neg (by omega), if_neg (by omega), if_neg (by omega), if_neg (by omega)]

/-! ## What a successful call does -/

theorem preCheck_eq_ok_iff {s : Storage} {balanceOf : Address → Address → Uint256}
    {timestamp : Nat} {sender : Address} {msgData : CalldataBytes} {hookData : Bytes} :
    preCheck s balanceOf timestamp sender msgData = .ok hookData ↔
      (s.config sender).installed = true ∧
        ∃ target inner, decodeSingleExecution msgData = .ok (target, inner) ∧
          s.allowedTarget sender target = true ∧
          (target = (s.config sender).asset → ∃ counterparty,
            decodeErc20Counterparty inner = .ok counterparty ∧
              (counterparty = 0 ∨ s.allowedTarget sender counterparty = true)) ∧
          hookData = encodeHookData (balanceOf (s.config sender).asset sender) (dayOf timestamp)
            target := by
  unfold preCheck
  simp only [guard_eq_ok_iff, bind_eq_ok_iff, Prod.exists, not_not]
  refine and_congr_right fun _ => exists_congr fun target => exists_congr fun inner =>
    and_congr_right fun _ => and_congr_right fun _ => ?_
  by_cases onAsset : target = (s.config sender).asset
  · simp only [onAsset, if_true, forall_const, bind_eq_ok_iff, ← exists_and_right, and_assoc]
    refine exists_congr fun counterparty => and_congr_right fun _ => ?_
    by_cases listed : counterparty = 0 ∨ s.allowedTarget sender counterparty = true
    · have passes : ¬ (counterparty ≠ 0 ∧ ¬ s.allowedTarget sender counterparty = true) := by
        tauto
      simp only [if_neg passes, listed, true_and, Except.ok.injEq]
      exact eq_comm
    · have refused : counterparty ≠ 0 ∧ ¬ s.allowedTarget sender counterparty = true := by
        tauto
      simp only [if_pos refused, listed, false_and, bind, Except.bind, reduceCtorEq]
  · simp only [onAsset, if_false, false_implies, true_and, Except.ok.injEq]
    exact eq_comm

/-- The measured outflow of `postCheck`: zero when the balance did not fall. -/
theorem outflow_pos_iff {balanceBefore balanceAfter : Uint256} :
    (if balanceBefore > balanceAfter then balanceBefore - balanceAfter else 0) > 0 ↔
      balanceAfter < balanceBefore := by
  split_ifs with fell
  · simp only [gt_iff_lt, BitVec.lt_def] at fell ⊢
    bv_omega
  · simpa using fell

theorem postCheck_eq_ok_iff {s s' : Storage} {balanceOf : Address → Address → Uint256}
    {sender : Address} {hookData : Bytes} {events : List Event} :
    postCheck s balanceOf sender hookData = .ok (s', events) ↔
      (s.config sender).installed = true ∧
        ∃ balanceBefore today target,
          decodeHookData hookData = .ok (balanceBefore, today, target) ∧
          (s.config sender).minBalance ≤ balanceOf (s.config sender).asset sender ∧
          (balanceBefore ≤ balanceOf (s.config sender).asset sender ∧ s' = s ∧ events = [] ∨
            balanceOf (s.config sender).asset sender < balanceBefore ∧ ∃ next,
              applySpend (s.window sender) (s.config sender).limits
                (balanceBefore - balanceOf (s.config sender).asset sender) today = .ok next ∧
              s' = { s with window := Function.update s.window sender next } ∧
              events = [.spendRecorded sender target
                (balanceBefore - balanceOf (s.config sender).asset sender) next.spent today]) := by
  unfold postCheck
  simp only [guard_eq_ok_iff, bind_eq_ok_iff, Prod.exists, not_not, outflow_pos_iff]
  refine and_congr_right fun _ => exists_congr fun balanceBefore => exists_congr fun today =>
    exists_congr fun target => and_congr_right fun _ => ?_
  generalize balanceOf (s.config sender).asset sender = balanceAfter
  by_cases fell : balanceAfter < balanceBefore
  · simp only [fell, if_true, bind_eq_ok_iff, guard_eq_ok_iff, BitVec.not_lt, BitVec.not_le.mpr fell,
      false_and, false_or, true_and, Except.ok.injEq, Prod.mk.injEq]
    constructor
    · rintro ⟨next, applied, _, rfl, floor, rfl, rfl⟩
      exact ⟨floor, next, applied, rfl, rfl⟩
    · rintro ⟨floor, next, applied, rfl, rfl⟩
      exact ⟨next, applied, _, rfl, floor, rfl, rfl⟩
  · simp only [fell, if_false, bind_eq_ok_iff, guard_eq_ok_iff, BitVec.not_lt, BitVec.not_lt.mp fell,
      true_and, false_and, or_false, Except.ok.injEq, Prod.mk.injEq]
    constructor
    · rintro ⟨_, rfl, floor, rfl, rfl⟩
      exact ⟨floor, rfl, rfl⟩
    · rintro ⟨floor, rfl, rfl⟩
      exact ⟨_, rfl, floor, rfl, rfl⟩

theorem onInstall_eq_ok_iff {s s' : Storage} {sender : Address} {data : Bytes}
    {events : List Event} :
    onInstall s sender data = .ok (s', events) ↔
      (s.config sender).installed = false ∧
        ∃ c targets, decodeInstallData data = .ok (c, targets) ∧
          s' = { s with
            config := Function.update s.config sender { c with installed := true }
            allowedTarget := Function.update s.allowedTarget sender
              (allowTargets (s.allowedTarget sender) targets) } ∧
          events = targets.map (fun t => .targetAllowed sender t true) ++
            [.policyInstalled sender c.policyHash c.asset] := by
  unfold onInstall
  simp only [guard_eq_ok_iff, bind_eq_ok_iff, Prod.exists, Except.ok.injEq, Prod.mk.injEq,
    Bool.not_eq_true]
  refine and_congr_right fun _ => exists_congr fun c => exists_congr fun targets =>
    and_congr_right fun _ => ?_
  exact and_congr eq_comm eq_comm

theorem allowTargets_eq_true_iff {allowed : Address → Bool} {targets : List Address}
    {t : Address} : allowTargets allowed targets t = true ↔ t ∈ targets ∨ allowed t = true := by
  unfold allowTargets
  induction targets generalizing allowed with
  | nil => simp
  | cons head rest ih =>
      rw [List.foldl_cons, ih, List.mem_cons]
      rcases eq_or_ne t head with rfl | other
      · simp
      · simp [other]

end AgentPolicyHook

end AgentProof
