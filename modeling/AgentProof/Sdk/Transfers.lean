import AgentProof.Sdk.Policy
import AgentProof.Contracts.Transfers

/-!
# What the engine says about a transfer

The calldata of an ERC-20 transfer as the SDK reads it, and the engine's verdict
on it as one condition on the policy and the state.  The SDK's reading of the
calldata text is that of the bytes the account would execute.
-/

namespace AgentProof

namespace Sdk

open Js

/-! ## Decoding -/

/-- What the default decoders make of a transfer. -/
def transferIntent (action : Action) (ctx : DecoderContext) (asset recipient : Address)
    (amount : Uint256) : NormalizedIntent where
  kind := .transfer
  target := addressText asset
  selector := SELECTOR_TRANSFER
  nativeValue := action.value
  outflow := [⟨addressText asset, amount.toNat, .decoded⟩]
  counterparty := some (addressText recipient)
  notionalUSDC := if addressText asset = ctx.trackedAsset then amount.toNat else 0
  summary := "Send ".toList ++ displayUsdc amount.toNat ++ " to ".toList ++ addressText recipient
  raw := action

/-- Four bytes that denote the selector are its rendering. -/
theorem selectorOf_transfer {calldata : Bytes} (long : 4 ≤ calldata.length)
    (selector : AgentProof.selectorOf calldata = ExecutionLib.transferSelector) :
    selectorOf (bytesToHex calldata) = SELECTOR_TRANSFER :=
  (selectorOf_of_bytes long selector).trans (by rfl)

theorem createDefaultRegistry_transfer :
    createDefaultRegistry.bySelector.get (toLowerCase SELECTOR_TRANSFER) = some erc20Decoder := by
  rfl

section Decode

variable {calldata : Bytes} {recipient : Address} {amount : Uint256} {action : Action}

/-- The default decoders read a transfer. -/
theorem decode_transfer (transfer : IsTransfer calldata recipient amount)
    (onAsset : isAddress action.toAddress = true) (data : action.data = bytesToHex calldata)
    (ctx : DecoderContext) :
    createDefaultRegistry.decode action ctx =
      .ok (transferIntent action ctx (addressOf action.toAddress) recipient amount) := by
  have long := transfer.long
  have selector : selectorOf action.data = SELECTOR_TRANSFER := by
    rw [data]
    exact selectorOf_transfer (by omega) transfer.selector
  have dst : readAddress action.data 0 = .ok (addressText recipient) := by
    have clean : (wordAt calldata 4).toNat < 2 ^ 160 := by
      have bound := recipient.isLt
      rw [transfer.recipient, BitVec.toNat_setWidth]
      omega
    have read := @readAddress_bytesToHex calldata 0 (by omega) clean
    rw [data, read, Nat.mul_zero, Nat.add_zero, transfer.recipient, Token.setWidth_setWidth_address]
  have value : readWord action.data 1 = .ok amount.toNat := by
    have read := @readWord_bytesToHex calldata 1 (by omega)
    rw [data, read, transfer.amount]
  have intent : erc20Decoder.decode action ctx =
      .ok (some (transferIntent action ctx (addressOf action.toAddress) recipient amount)) := by
    simp only [erc20Decoder, normalizeAddress_of_isAddress onAsset, selector, decodeTransfer, dst,
      value, bind, Except.bind, if_true]
    rfl
  have candidates : (createDefaultRegistry.bySelector.get
      (toLowerCase (selectorOf action.data))).toList = [erc20Decoder] := by
    rw [selector, createDefaultRegistry_transfer]
    rfl
  rw [DecoderRegistry.decode, candidates]
  simp only [List.singleton_append, DecoderRegistry.firstIntent, intent, bind, Except.bind]

end Decode

/-! ## The verdict -/

/-- The limits and sets of a policy, as the five checks use them. -/
structure Bounds where
  contracts : List Text
  recipients : List Text
  maxTransaction : Int
  minBalance : Int
  dailySpend : Int

/-- The four checks that block, in the engine's order. -/
def Bounds.policies (b : Bounds) (allowUnknownSelectors : Bool) : List Policy :=
  [AllowlistPolicy b.contracts b.recipients allowUnknownSelectors,
    MaxTransactionPolicy b.maxTransaction, MinBalancePolicy b.minBalance,
    DailySpendPolicy b.dailySpend]

/-- A transfer that none of the four checks blocks. -/
structure Bounds.Admits (b : Bounds) (asset recipient : Address) (amount : Uint256)
    (state : PolicyState) : Prop where
  target : addressText asset ∈ b.contracts
  counterparty : amount ≠ 0 →
    addressText recipient ∈ b.recipients ∨ addressText recipient ∈ b.contracts
  ceiling : (amount.toNat : Int) ≤ b.maxTransaction
  floor : b.minBalance ≤ state.balance - amount.toNat
  daily : state.dailySpend + amount.toNat ≤ b.dailySpend

section Verdict

variable {b : Bounds} {action : Action} {ctx : DecoderContext} {asset recipient : Address}
  {amount : Uint256} {state : PolicyState} {allowUnknownSelectors : Bool}

theorem movesValue_transferIntent :
    movesValue (transferIntent action ctx asset recipient amount) = true ↔ amount ≠ 0 := by
  have zero : amount = 0 ↔ amount.toNat = 0 := by
    rw [← BitVec.toNat_inj]
    rfl
  rw [movesValue, transferIntent, List.any_cons, List.any_nil, Bool.or_false, decide_eq_true_eq,
    Ne, zero]
  change (amount.toNat : Int) > 0 ↔ _
  omega

theorem admits_transferIntent :
    Sdk.Admits b.contracts b.recipients allowUnknownSelectors
        (transferIntent action ctx asset recipient amount) ↔
      addressText asset ∈ b.contracts ∧ (amount ≠ 0 →
        addressText recipient ∈ b.recipients ∨ addressText recipient ∈ b.contracts) := by
  unfold Sdk.Admits
  rw [movesValue_transferIntent]
  constructor
  · rintro ⟨-, target, known⟩
    exact ⟨target, known _ rfl⟩
  · rintro ⟨target, known⟩
    refine ⟨nofun, target, fun counterparty named moves => ?_⟩
    cases named
    exact known moves

/-- Each of the four checks allows or blocks, and all allow what is admitted. -/
theorem forall_policies_iff {P : Decision → Prop} (allow : P .allow) (block : ¬ P .block)
    (tracked : ctx.trackedAsset = addressText asset) :
    (∀ policy ∈ b.policies allowUnknownSelectors, P (policy.evaluate
        (transferIntent action ctx asset recipient amount) state).decision) ↔
      b.Admits asset recipient amount state := by
  have notional : (transferIntent action ctx asset recipient amount).notionalUSDC = amount.toNat :=
    if_pos tracked.symm
  have branch (p : Prop) [Decidable p] : P (if p then .allow else .block) ↔ p := by
    split_ifs with holds
    · exact iff_of_true allow holds
    · exact iff_of_false block holds
  have listed : P ((AllowlistPolicy b.contracts b.recipients allowUnknownSelectors).evaluate
      (transferIntent action ctx asset recipient amount) state).decision ↔
      addressText asset ∈ b.contracts ∧ (amount ≠ 0 →
        addressText recipient ∈ b.recipients ∨ addressText recipient ∈ b.contracts) := by
    rcases allowlist_decision b.contracts b.recipients allowUnknownSelectors
      (transferIntent action ctx asset recipient amount) state with
      ⟨admits, allows⟩ | ⟨bars, blocks⟩
    · rw [allows]
      exact iff_of_true allow (admits_transferIntent.mp admits)
    · rw [blocks]
      exact iff_of_false block fun known => bars (admits_transferIntent.mpr known)
  rw [Bounds.policies, List.forall_mem_cons, List.forall_mem_cons, List.forall_mem_cons,
    List.forall_mem_singleton, listed, maxTransaction_decision, minBalance_decision,
    dailySpend_decision, branch, branch, branch, notional]
  constructor
  · rintro ⟨⟨target, counterparty⟩, ceiling, floor, daily⟩
    exact ⟨target, counterparty, ceiling, floor, daily⟩
  · intro admits
    exact ⟨⟨admits.target, admits.counterparty⟩, admits.ceiling, admits.floor, admits.daily⟩

/-- The four checks do not block a transfer exactly when it is admitted. -/
theorem evaluate_transfer_ne_block_iff (tracked : ctx.trackedAsset = addressText asset) :
    (PolicyEngine.evaluate (b.policies allowUnknownSelectors)
        (transferIntent action ctx asset recipient amount) state).decision ≠ .block ↔
      b.Admits asset recipient amount state := by
  rw [← @forall_policies_iff b action ctx asset recipient amount state allowUnknownSelectors
    (· ≠ .block) (by decide) (by decide) tracked, Ne, PolicyEngine.evaluate_eq_block_iff]
  simp only [not_exists, not_and, ne_eq]

/-- With the approval threshold added, a transfer is allowed exactly when it is
admitted and below the threshold. -/
theorem evaluate_transfer_eq_allow_iff (tracked : ctx.trackedAsset = addressText asset)
    {threshold : Int} :
    (PolicyEngine.evaluate (b.policies allowUnknownSelectors ++ [ApprovalThresholdPolicy threshold])
        (transferIntent action ctx asset recipient amount) state).decision = .allow ↔
      b.Admits asset recipient amount state ∧ (amount.toNat : Int) < threshold := by
  have notional : (transferIntent action ctx asset recipient amount).notionalUSDC = amount.toNat :=
    if_pos tracked.symm
  rw [PolicyEngine.evaluate_eq_allow_iff, List.forall_mem_append, List.forall_mem_singleton,
    approvalThreshold_decision, notional,
    @forall_policies_iff b action ctx asset recipient amount state allowUnknownSelectors
      (· = .allow) rfl (by decide) tracked]
  refine and_congr_right fun _ => ?_
  split_ifs with below
  · exact iff_of_true rfl below
  · exact iff_of_false (by decide) below

end Verdict

/-- The limits and sets of a resolved policy. -/
def ResolvedPolicy.bounds (policy : ResolvedPolicy) : Bounds where
  contracts := policy.allowedContracts
  recipients := policy.allowedRecipients
  maxTransaction := policy.maxTransaction
  minBalance := policy.minBalance
  dailySpend := policy.dailySpend

theorem createEngine_policies (policy : ResolvedPolicy) (allowUnknownSelectors : Bool) :
    (createEngine policy allowUnknownSelectors).policies =
      policy.bounds.policies allowUnknownSelectors ++
        [ApprovalThresholdPolicy policy.approvalThreshold] := rfl

/-- The engine of a resolved policy allows a transfer of its asset exactly when
the transfer is admitted and below the approval threshold. -/
theorem createEngine_decision_eq_allow_iff {policy : ResolvedPolicy} {action : Action}
    {asset recipient : Address} {amount : Uint256} {calldata : Bytes} {state : PolicyState}
    {allowUnknownSelectors : Bool} (transfer : IsTransfer calldata recipient amount)
    (onAsset : isAddress action.toAddress = true ∧ addressOf action.toAddress = asset)
    (data : action.data = bytesToHex calldata) (tracked : policy.asset = addressText asset) :
    (createEngine policy allowUnknownSelectors).decision action state = .ok .allow ↔
      policy.bounds.Admits asset recipient amount state ∧
        (amount.toNat : Int) < policy.approvalThreshold := by
  have decoded := decode_transfer transfer onAsset.1 data ⟨policy.account, policy.asset⟩
  rw [onAsset.2] at decoded
  have decides : (createEngine policy allowUnknownSelectors).decision action state =
      .ok (PolicyEngine.evaluate (createEngine policy allowUnknownSelectors).policies
        (transferIntent action ⟨policy.account, policy.asset⟩ asset recipient amount)
        state).decision :=
    bind_eq_ok_iff.mpr ⟨_, bind_eq_ok_iff.mpr ⟨_, decoded, rfl⟩, rfl⟩
  rw [decides, Except.ok.injEq, createEngine_policies]
  exact evaluate_transfer_eq_allow_iff tracked

/-! ## What the SDK reads of the hook -/

/-- The hook's answer to `window(account)`. -/
def windowCall (w : PolicyLib.Window) : Text :=
  bytesToHex (encodeWords [w.day.setWidth 256, w.spent])

/-- An answer of two words. -/
theorem readOnchainSpend_bytesToHex {bs : Bytes} (length : bs.length = 64) {dayUtc : Nat}
    (small : (wordAt bs 0).toNat < 2 ^ 53) :
    readOnchainSpend (bytesToHex bs) dayUtc =
      some (if (wordAt bs 0).toNat = dayUtc then ((wordAt bs 32).toNat : Int) else 0) := by
  have day := @slice_word_bytesToHex bs 0 (by omega)
  have spent := @slice_word_bytesToHex bs 32 (by omega)
  simp only [Nat.mul_zero, Nat.zero_add, Nat.reduceMul, Nat.reduceAdd] at day spent
  have long : ¬ (bytesToHex bs).length < 2 + 128 := by
    rw [bytesToHex, List.length_cons, List.length_cons, length_hexText, length]
    omega
  simp only [readOnchainSpend, if_neg long, day, spent, bigIntHex_word, toNumber_of_lt small, bind,
    Except.bind, pure, Except.pure]
  rfl

/-- Today's spend as the SDK reads it is what of the window counts today. -/
theorem readOnchainSpend_windowCall (w : PolicyLib.Window) {dayUtc : Nat} {today : Uint64}
    (today_eq : today.toNat = dayUtc) (small : w.day.toNat < 2 ^ 53) :
    readOnchainSpend (windowCall w) dayUtc = some ((w.base today).toNat : Int) := by
  have bound := w.day.isLt
  have day : (wordAt (encodeWords [w.day.setWidth 256, w.spent]) 0).toNat = w.day.toNat := by
    rw [wordAt_encodeWords' (i := 0) rfl, BitVec.toNat_setWidth, Nat.mod_eq_of_lt (by omega)]
  have spent : wordAt (encodeWords [w.day.setWidth 256, w.spent]) 32 = w.spent :=
    wordAt_encodeWords' (i := 1) rfl
  have read := @readOnchainSpend_bytesToHex (encodeWords [w.day.setWidth 256, w.spent])
    (by simp) dayUtc (by rw [day]; exact small)
  rw [day, spent] at read
  have same : w.day.toNat = dayUtc ↔ w.day = today := by
    rw [← today_eq, BitVec.toNat_inj]
  rw [windowCall, read, PolicyLib.Window.base]
  by_cases current : w.day = today
  · rw [if_pos (same.mpr current), if_pos current]
  · rw [if_neg fun equal => current (same.mp equal), if_neg current]
    rfl

/-- The members of a built set are the addresses its texts denote. -/
theorem mem_addressSet {values set : List Text} (built : addressSet values = .ok set)
    (a : Address) : addressText a ∈ set ↔ a ∈ values.map addressOf := by
  simp only [addressSet, bind_eq_ok_iff, Except.ok.injEq] at built
  obtain ⟨normalised, read, rfl⟩ := built
  rw [List.mem_eraseDups]
  induction values generalizing normalised with
  | nil =>
      cases read
      simp
  | cons value rest ih =>
      rw [List.mapM_cons] at read
      simp only [bind_eq_ok_iff] at read
      obtain ⟨first, normal, others, readRest, collected⟩ := read
      cases collected
      obtain ⟨-, rfl⟩ := normalizeAddress_eq_ok_iff.mp normal
      rw [List.mem_cons, List.map_cons, List.mem_cons, ih others readRest,
        addressText_injective.eq_iff]

/-- The encoder writes the calldata the token executes. -/
theorem encodeErc20Transfer_eq (recipient : Address) (amount : Uint256) :
    encodeErc20Transfer (addressText recipient) amount.toNat =
      .ok (bytesToHex (Token.encodeCall ExecutionLib.transferSelector
        [recipient.setWidth 256, amount])) := by
  have small := recipient.isLt
  have fits : recipient.toNat < 16 ^ 40 := small
  have value : bigIntHex ((addressText recipient).drop 2) = .ok recipient.toNat := by
    rw [addressText_eq, List.drop_succ_cons, List.drop_succ_cons, List.drop_zero,
      bigIntHex_of_allHex (allHex_fixedHex 40 _) (by simp [← List.length_pos_iff]),
      numeral_fixedHex, Nat.mod_eq_of_lt fits]
  have first : word recipient.toNat = hexText (wordBytes (recipient.setWidth 256)) := by
    rw [word, wordBytes, hexText_ofNat, BitVec.toNat_setWidth, Nat.mod_eq_of_lt (by omega),
      padStart_toHex (by omega) (by norm_num)]
  have second : word amount.toNat = hexText (wordBytes amount) := by
    have bound := amount.isLt
    rw [word, wordBytes, hexText_ofNat, padStart_toHex (by omega) (by norm_num)]
  have selector : "0xa9059cbb".toList =
      '0' :: 'x' :: hexText (Bytes.ofNat 4 ExecutionLib.transferSelector.toNat) := by decide +kernel
  simp only [encodeErc20Transfer, value, bind, Except.bind, first, second, selector, bytesToHex,
    Token.encodeCall, encodeWords, List.flatMap_cons, List.flatMap_nil, hexText_append,
    List.append_nil, List.cons_append, List.append_assoc]

end Sdk

end AgentProof
