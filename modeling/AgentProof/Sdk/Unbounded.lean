import AgentProof.Sdk.Readings
import AgentProof.Sdk.StreamMeaning
import AgentProof.Sdk.Transfers

/-!
# Outflows without a bound

The sentinel for an outflow that cannot be bounded is an ordinary number, and
the limits of a policy have no upper bound of their own.  A policy blocks all
such outflows when its transaction limit is below the sentinel, or its reserve
is not: a balance is less than twice the sentinel.
-/

namespace AgentProof

namespace Sdk

open Js

/-! ## The five policies -/

/-- What none of the five policies blocks. -/
structure ResolvedPolicy.Passes (policy : ResolvedPolicy) (allowUnknownSelectors : Bool)
    (intent : NormalizedIntent) (state : PolicyState) : Prop where
  listed : Admits policy.allowedContracts policy.allowedRecipients allowUnknownSelectors intent
  ceiling : intent.notionalUSDC ≤ policy.maxTransaction
  floor : policy.minBalance ≤ state.balance - intent.notionalUSDC
  daily : state.dailySpend + intent.notionalUSDC ≤ policy.dailySpend

section Engine

variable {policy : ResolvedPolicy} {allowUnknownSelectors : Bool} {intent : NormalizedIntent}
  {state : PolicyState}

theorem evaluate_createEngine_eq_block_iff :
    (PolicyEngine.evaluate (createEngine policy allowUnknownSelectors).policies intent
        state).decision = .block ↔ ¬ policy.Passes allowUnknownSelectors intent state := by
  have blocks (p : Prop) [Decidable p] :
      (if p then Decision.allow else Decision.block) ≠ .block ↔ p := by
    split_ifs with holds
    · exact iff_of_true (by decide) holds
    · exact iff_of_false (fun differ => differ rfl) holds
  have asks : ((ApprovalThresholdPolicy policy.approvalThreshold).evaluate intent state).decision ≠
      .block := by
    rw [approvalThreshold_decision]
    split_ifs <;> decide
  rw [← not_iff_not, not_not, PolicyEngine.evaluate_eq_block_iff, createEngine]
  simp only [not_exists, not_and, List.forall_mem_cons, List.not_mem_nil, false_implies,
    implies_true, and_true]
  rw [maxTransaction_decision, minBalance_decision, dailySpend_decision, ← Ne, ← Ne, ← Ne, ← Ne,
    blocks, blocks, blocks, Ne, allowlist_eq_block_iff, not_not]
  constructor
  · rintro ⟨listed, ceiling, floor, daily, -⟩
    exact ⟨listed, ceiling, floor, daily⟩
  · intro passes
    exact ⟨passes.listed, passes.ceiling, passes.floor, passes.daily, asks⟩

end Engine

/-! ## An unlimited approval -/

/-- The asset is told to approve itself without limit. -/
def unlimitedApproval (asset : Address) : Action where
  toAddress := addressText asset
  data := bytesToHex (Token.encodeCall ExecutionLib.approveSelector [asset.setWidth 256, -1])
  value := 0

/-- What the default decoders make of it: an approval of the asset without bound, for a spender
that is the target. -/
theorem decode_unlimitedApproval (account : Text) (asset : Address) :
    ∃ intent, createDefaultRegistry.decode (unlimitedApproval asset) ⟨account, addressText asset⟩ =
        .ok intent ∧ intent.kind = .approve ∧ intent.target = addressText asset ∧
      intent.counterparty = some (addressText asset) ∧ intent.notionalUSDC = UNBOUNDED := by
  set calldata := Token.encodeCall ExecutionLib.approveSelector [asset.setWidth 256, -1] with calls
  have length : calldata.length = 68 := Token.length_encodeCall
  have first : wordAt calldata 4 = asset.setWidth 256 := @Token.wordAt_encodeCall _ _ 0 _ rfl
  have second : wordAt calldata 36 = -1 := @Token.wordAt_encodeCall _ _ 1 _ rfl
  have four : 4 ≤ calldata.length := by omega
  have selector : selectorOf (bytesToHex calldata) = SELECTOR_APPROVE :=
    (selectorOf_of_bytes four Token.selectorOf_encodeCall).trans (by rfl)
  have spender : readAddress (bytesToHex calldata) 0 = .ok (addressText asset) := by
    have small := asset.isLt
    have clean : (wordAt calldata 4).toNat < 2 ^ 160 := by
      rw [first, BitVec.toNat_setWidth]
      omega
    have read := @readAddress_bytesToHex calldata 0 (by omega) clean
    rw [read, Nat.mul_zero, Nat.add_zero, first, Token.setWidth_setWidth_address]
  have allowance : readWord (bytesToHex calldata) 1 = .ok (-1 : Uint256).toNat := by
    have read := @readWord_bytesToHex calldata 1 (by omega)
    rw [read, second]
  have unlimited : approvalOutflow ((-1 : Uint256).toNat : Int) = UNBOUNDED := by decide
  have claimed : claimant (toLowerCase (selectorOf (unlimitedApproval asset).data)) =
      some erc20Decoder := by
    rw [unlimitedApproval, ← calls, selector]
    rfl
  rw [decode_of_claimed claimed]
  simp only [erc20Decoder, unlimitedApproval, ← calls, selector, normalizeAddress_addressText,
    decodeApprove, spender, allowance, bind, Except.bind, settle]
  exact ⟨_, rfl, rfl, rfl, rfl, unlimited⟩

/-! ## Which policies block -/

/-- In every state an account can be in, whatever cannot be bounded is blocked. -/
def ResolvedPolicy.BlocksUnbounded (policy : ResolvedPolicy) (allowUnknownSelectors : Bool) : Prop :=
  ∀ (state : PolicyState) (action : Action) (intent : NormalizedIntent),
    0 ≤ state.dailySpend → 0 ≤ state.balance → state.balance < 2 ^ 256 →
    (createEngine policy allowUnknownSelectors).decoders.decode action
      (createEngine policy allowUnknownSelectors).decoderContext = .ok intent →
    UNBOUNDED ≤ intent.notionalUSDC →
      (PolicyEngine.evaluate (createEngine policy allowUnknownSelectors).policies intent
        state).decision = .block

section Limits

variable {policyHash : PolicyDocument → Text} {document : PolicyDocument} {policy : ResolvedPolicy}

/-- The limits of an accepted document, and its asset among the contracts. -/
theorem limits_of_resolvePolicy (accepted : resolvePolicy policyHash document = .ok policy) :
    policy.maxTransaction ≤ policy.dailySpend ∧
      ∃ asset : Address, policy.asset = addressText asset ∧
        addressText asset ∈ policy.allowedContracts := by
  have resolves := resolves_of_resolvePolicy accepted
  have limits := resolves.limits
  simp only [checkLimits, invalidPolicy, guard_eq_ok_iff] at limits
  refine ⟨not_lt.mp limits.2.1, addressOf document.asset.address, ?_, ?_⟩
  · exact (normalizeAddress_eq_ok_iff.mp resolves.asset).2
  · rw [mem_addressSet resolves.contracts]
    exact List.mem_map_of_mem (List.mem_append_right _ List.mem_cons_self)

/-- A day on which nothing was spent, and as much as a word holds. -/
def richest (policy : ResolvedPolicy) : PolicyState where
  account := policy.account
  dayUtc := 0
  dailySpend := 0
  balance := 2 ^ 256 - 1
  asset := policy.asset

theorem richest_balance : (richest policy).balance = 2 ^ 256 - 1 := rfl

/-- Limits that reach the sentinel let an unlimited approval pass. -/
theorem passes_unlimitedApproval (accepted : resolvePolicy policyHash document = .ok policy)
    (ceiling : UNBOUNDED ≤ policy.maxTransaction) (floor : policy.minBalance < UNBOUNDED)
    (allowUnknownSelectors : Bool) :
    ∃ action intent, (createEngine policy allowUnknownSelectors).decoders.decode action
        (createEngine policy allowUnknownSelectors).decoderContext = .ok intent ∧
      intent.notionalUSDC = UNBOUNDED ∧
      policy.Passes allowUnknownSelectors intent (richest policy) := by
  obtain ⟨ordered, asset, tracked, listed⟩ := limits_of_resolvePolicy accepted
  obtain ⟨intent, decoded, kind, target, spender, notional⟩ :=
    decode_unlimitedApproval policy.account asset
  rw [← tracked] at decoded
  refine ⟨_, intent, decoded, notional, ⟨?_, ?_, ?_⟩, ?_, ?_, ?_⟩
  · intro unknown
    rw [kind] at unknown
    cases unknown
  · rw [target]
    exact listed
  · intro counterparty named _
    rw [spender] at named
    cases named
    exact .inr listed
  · rw [notional]
    exact ceiling
  · have reserve : policy.minBalance < 2 ^ 255 := floor
    have spent : intent.notionalUSDC = 2 ^ 255 := notional
    rw [richest_balance]
    omega
  · rw [notional, richest, zero_add]
    exact ceiling.trans ordered

theorem blocksUnbounded_iff (accepted : resolvePolicy policyHash document = .ok policy)
    (allowUnknownSelectors : Bool) : policy.BlocksUnbounded allowUnknownSelectors ↔
      policy.maxTransaction < UNBOUNDED ∨ UNBOUNDED ≤ policy.minBalance := by
  constructor
  · intro blocks
    by_contra neither
    rw [not_or, not_lt, not_le] at neither
    obtain ⟨action, intent, decoded, notional, passes⟩ :=
      passes_unlimitedApproval accepted neither.1 neither.2 allowUnknownSelectors
    have blocked := blocks (richest policy) action intent le_rfl (by rw [richest_balance]; decide)
      (by rw [richest_balance]; decide) decoded notional.ge
    exact evaluate_createEngine_eq_block_iff.mp blocked passes
  · intro limits state action intent _ _ fits _ unbounded
    rw [evaluate_createEngine_eq_block_iff]
    intro passes
    have ceiling := passes.ceiling
    have floor := passes.floor
    unfold UNBOUNDED at limits unbounded
    omega

/-- An accepted policy blocks all that cannot be bounded, in every state of an account, exactly when
its transaction limit is below the sentinel or its reserve is not; one that does not still blocks
each such intent that the allowlist, a limit or the reserve refuses. -/
theorem unbounded_blocked_iff (accepted : resolvePolicy policyHash document = .ok policy)
    (allowUnknownSelectors : Bool) :
    (policy.BlocksUnbounded allowUnknownSelectors ↔
      policy.maxTransaction < UNBOUNDED ∨ UNBOUNDED ≤ policy.minBalance) ∧
    ∀ (state : PolicyState) (intent : NormalizedIntent),
      (PolicyEngine.evaluate (createEngine policy allowUnknownSelectors).policies intent
          state).decision = .block ↔
        ¬ Admits policy.allowedContracts policy.allowedRecipients allowUnknownSelectors intent ∨
          policy.maxTransaction < intent.notionalUSDC ∨
          state.balance - intent.notionalUSDC < policy.minBalance ∨
          policy.dailySpend < state.dailySpend + intent.notionalUSDC := by
  refine ⟨blocksUnbounded_iff accepted allowUnknownSelectors, fun state intent => ?_⟩
  rw [evaluate_createEngine_eq_block_iff]
  constructor
  · intro blocked
    by_contra none_refuses
    rw [not_or, not_or, not_or, not_not, not_lt, not_lt, not_lt] at none_refuses
    obtain ⟨listed, ceiling, floor, daily⟩ := none_refuses
    exact blocked ⟨listed, ceiling, floor, daily⟩
  · rintro (unlisted | above | below | over_) passes
    · exact unlisted passes.listed
    · exact absurd passes.ceiling (not_le.mpr above)
    · exact absurd passes.floor (not_le.mpr below)
    · exact absurd passes.daily (not_le.mpr over_)

end Limits

/-! ### Limits of a whole word -/

/-- A document whose three limits are alike. -/
def limitedTo (limit : Text) : PolicyDocument where
  version := "agentproof/v1".toList
  agent := "payer.agentproof.eth".toList
  chainId := 1
  asset := ⟨addressText 0xa55e7, 6⟩
  policies := ⟨some limit, some limit, some limit, some "0".toList, some [addressText 0x22], none⟩
  enforcement := ⟨addressText 0x400c, addressText 0xacc0⟩

/-- The largest word. -/
def LARGEST : Text :=
  "115792089237316195423570985008687907853269984665640564039457584007913129639935".toList

theorem resolvePolicy_limitedTo :
    (∃ policy, resolvePolicy (fun _ => []) (limitedTo "100000000".toList) = .ok policy ∧
      policy.maxTransaction = 100000000) ∧
    ∃ policy result, resolvePolicy (fun _ => []) (limitedTo LARGEST) = .ok policy ∧
      (createEngine policy false).verify (unlimitedApproval 0xa55e7) (richest policy) =
        .ok result ∧
      result.intent.notionalUSDC = UNBOUNDED ∧ result.decision = .allow := by
  have limited : (resolvePolicy (fun _ => []) (limitedTo "100000000".toList)).toOption.any
      fun policy => policy.maxTransaction = 100000000 := by decide +kernel
  have unlimited : (resolvePolicy (fun _ => []) (limitedTo LARGEST)).toOption.any fun policy =>
      ((createEngine policy false).verify (unlimitedApproval 0xa55e7) (richest policy)).toOption.any
        fun result => result.intent.notionalUSDC = UNBOUNDED ∧ result.decision = .allow := by
    decide +kernel
  obtain ⟨policy, accepted, limit⟩ := (Option.any_eq_true _ _).mp limited
  obtain ⟨policy', accepted', verifies⟩ := (Option.any_eq_true _ _).mp unlimited
  obtain ⟨result, verified, allowed⟩ := (Option.any_eq_true _ _).mp verifies
  obtain ⟨notional, decision⟩ := of_decide_eq_true allowed
  exact ⟨⟨policy, UniswapV4.toOption_eq_some_iff.mp accepted, of_decide_eq_true limit⟩,
    policy', result, UniswapV4.toOption_eq_some_iff.mp accepted',
    UniswapV4.toOption_eq_some_iff.mp verified, notional, decision⟩

theorem unbounded_blocked_limitedTo : ∃ policy,
    resolvePolicy (fun _ => []) (limitedTo "100000000".toList) = .ok policy ∧
      policy.BlocksUnbounded true := by
  obtain ⟨policy, accepted, limit⟩ := resolvePolicy_limitedTo.1
  refine ⟨policy, accepted, (unbounded_blocked_iff accepted true).1.mpr (.inl ?_)⟩
  rw [limit]
  decide

/-- Limits of the largest word: an unlimited approval is allowed without an approval. -/
theorem unbounded_not_blocked_limitedTo : ∃ policy,
    resolvePolicy (fun _ => []) (limitedTo LARGEST) = .ok policy ∧
      (createEngine policy false).decision (unlimitedApproval 0xa55e7) (richest policy) =
        .ok .allow ∧
      ¬ policy.BlocksUnbounded false := by
  obtain ⟨policy, result, accepted, verified, notional, allowed⟩ := resolvePolicy_limitedTo.2
  refine ⟨policy, accepted, bind_eq_ok_iff.mpr ⟨result, verified, by rw [allowed]⟩, ?_⟩
  intro blocks
  obtain ⟨intent, decoded, evaluated⟩ := bind_eq_ok_iff.mp verified
  cases evaluated
  have blocked := blocks (richest policy) _ intent le_rfl (by rw [richest_balance]; decide)
    (by rw [richest_balance]; decide) decoded notional.ge
  rw [blocked] at allowed
  cases allowed

end Sdk

end AgentProof
