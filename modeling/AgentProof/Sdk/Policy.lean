import AgentProof.Sdk.UniswapV4
import AgentProof.Sdk.Policies

/-!
# Policy documents and the engine built from them

`core/policy.ts`: a policy document is validated and its amounts and addresses
are parsed.  `core/AgentProof.ts`: the engine that `createAgentProof` builds
from the result.  `state/GraphStateProvider.ts`: today's spend as read from the
hook's window.  The hash of a document is a parameter; nothing here looks
inside it.
-/

namespace AgentProof

namespace Sdk

open Js

/-! ## `core/policy.ts` -/

/-- `asset`; a missing address is the empty text, which is refused alike. -/
structure AssetEntry where
  address : Text
  decimals : Int
  deriving DecidableEq, Repr

/-- `policies`; an amount that is not a string is `none`. -/
structure PolicyEntries where
  maxTransaction : Option Text
  dailySpend : Option Text
  approvalThreshold : Option Text
  minBalance : Option Text
  allowedContracts : Option (List Text)
  allowedRecipients : Option (List Text)
  deriving DecidableEq, Repr

structure EnforcementEntry where
  hook : Text
  account : Text
  deriving DecidableEq, Repr

structure PolicyDocument where
  version : Text
  agent : Text
  chainId : Int
  asset : AssetEntry
  policies : PolicyEntries
  enforcement : EnforcementEntry
  deriving DecidableEq, Repr

/-- The parsed form the engine uses. -/
structure ResolvedPolicy where
  document : PolicyDocument
  hash : Text
  maxTransaction : Int
  dailySpend : Int
  approvalThreshold : Int
  minBalance : Int
  allowedContracts : List Text
  allowedRecipients : List Text
  asset : Text
  decimals : Int
  account : Text
  hook : Text
  deriving DecidableEq, Repr

/-- `throw new PolicyValidationError(message)`. -/
def invalidPolicy {α : Type} (message : Text) : Except JsError α :=
  .error ⟨"PolicyValidationError".toList, "Invalid policy: ".toList ++ message⟩

/-- `amount(key)`. -/
def policyAmount (key : Text) (raw : Option Text) : Except JsError Int :=
  match raw with
  | none => invalidPolicy ("policies.".toList ++ key ++ " must be a decimal string".toList)
  | some raw => do
      let value ← parseBaseUnitPolicyAmount raw
      if value < 0 then
        invalidPolicy ("policies.".toList ++ key ++ " must not be negative".toList)
      else .ok value

/-- The checks the limits must pass together. -/
def checkLimits (maxTransaction dailySpend approvalThreshold : Int) : Except JsError Unit :=
  if maxTransaction = 0 then
    invalidPolicy "maxTransaction of 0 blocks everything; set a real limit".toList
  else if dailySpend < maxTransaction then
    invalidPolicy ("dailySpend (".toList ++ toDecimal dailySpend ++
      ") is below maxTransaction (".toList ++ toDecimal maxTransaction ++
      ("), which makes the per-transaction limit unreachable and is almost always a units " ++
        "mistake").toList)
  else if approvalThreshold > maxTransaction then
    invalidPolicy ("approvalThreshold (".toList ++ toDecimal approvalThreshold ++
      ") is above maxTransaction (".toList ++ toDecimal maxTransaction ++
      "), so no action could ever reach a human — it would be blocked first".toList)
  else .ok ()

def resolvePolicy (policyHash : PolicyDocument → Text) (document : PolicyDocument) :
    Except JsError ResolvedPolicy :=
  if document.version ≠ "agentproof/v1".toList then
    invalidPolicy ("unsupported version ".toList ++ document.version)
  else if document.asset.address = [] then invalidPolicy "asset.address is required".toList
  else if document.asset.decimals ≠ 6 then
    invalidPolicy ("asset.decimals must be 6 in the MVP (got ".toList ++
      toDecimal document.asset.decimals ++ ("); multi-decimal accounting requires the " ++
        "price-oracle work listed as future work").toList)
  else do
    let maxTransaction ← policyAmount "maxTransaction".toList document.policies.maxTransaction
    let dailySpend ← policyAmount "dailySpend".toList document.policies.dailySpend
    let approvalThreshold ←
      policyAmount "approvalThreshold".toList document.policies.approvalThreshold
    let minBalance ← policyAmount "minBalance".toList document.policies.minBalance
    checkLimits maxTransaction dailySpend approvalThreshold
    let allowedContracts := document.policies.allowedContracts.getD []
    if allowedContracts.length = 0 then
      invalidPolicy "allowedContracts is empty, which blocks every action".toList
    else do
      let contractSet ← addressSet (allowedContracts ++ [document.asset.address])
      let recipientSet ← addressSet (document.policies.allowedRecipients.getD [])
      let asset ← normalizeAddress document.asset.address
      let account ← normalizeAddress document.enforcement.account
      let hook ← normalizeAddress document.enforcement.hook
      .ok {
        document := document
        hash := policyHash document
        maxTransaction := maxTransaction
        dailySpend := dailySpend
        approvalThreshold := approvalThreshold
        minBalance := minBalance
        allowedContracts := contractSet
        allowedRecipients := recipientSet
        asset := asset
        decimals := document.asset.decimals
        account := account
        hook := hook }

/-- What a resolved policy takes from its document. -/
structure Resolves (document : PolicyDocument) (policy : ResolvedPolicy) : Prop where
  maxTransaction : policyAmount "maxTransaction".toList document.policies.maxTransaction =
    .ok policy.maxTransaction
  dailySpend : policyAmount "dailySpend".toList document.policies.dailySpend =
    .ok policy.dailySpend
  approvalThreshold : policyAmount "approvalThreshold".toList
    document.policies.approvalThreshold = .ok policy.approvalThreshold
  minBalance : policyAmount "minBalance".toList document.policies.minBalance =
    .ok policy.minBalance
  limits : checkLimits policy.maxTransaction policy.dailySpend policy.approvalThreshold = .ok ()
  contracts : addressSet (document.policies.allowedContracts.getD [] ++ [document.asset.address]) =
    .ok policy.allowedContracts
  recipients : addressSet (document.policies.allowedRecipients.getD []) =
    .ok policy.allowedRecipients
  asset : normalizeAddress document.asset.address = .ok policy.asset

theorem resolves_of_resolvePolicy {policyHash : PolicyDocument → Text} {document : PolicyDocument}
    {policy : ResolvedPolicy} (accepted : resolvePolicy policyHash document = .ok policy) :
    Resolves document policy := by
  simp only [resolvePolicy, invalidPolicy, guard_eq_ok_iff, bind_eq_ok_iff,
    Except.ok.injEq] at accepted
  obtain ⟨-, -, -, maxTransaction, readMax, dailySpend, readDaily, threshold, readThreshold,
    minBalance, readMin, ⟨⟩, limits, -, contracts, builtContracts, recipients, builtRecipients,
    asset, readAsset, account, -, hook, -, rfl⟩ := accepted
  exact ⟨readMax, readDaily, readThreshold, readMin, limits, builtContracts, builtRecipients,
    readAsset⟩

/-! ## `core/AgentProof.ts` -/

structure PolicyEngineOptions where
  decoders : DecoderRegistry
  policies : List Policy
  decoderContext : DecoderContext

/-- `PolicyEngine.verify`. -/
def PolicyEngineOptions.verify (engine : PolicyEngineOptions) (action : Action)
    (state : PolicyState) : Except JsError PolicyResult := do
  let intent ← engine.decoders.decode action engine.decoderContext
  .ok (PolicyEngine.evaluate engine.policies intent state)

def PolicyEngineOptions.decision (engine : PolicyEngineOptions) (action : Action)
    (state : PolicyState) : Except JsError Decision := do
  let result ← engine.verify action state
  .ok result.decision

/-- The engine of `createAgentProof`, with the default decoders. -/
def createEngine (policy : ResolvedPolicy) (allowUnknownSelectors : Bool) : PolicyEngineOptions where
  decoders := createDefaultRegistry
  policies := [
    AllowlistPolicy policy.allowedContracts policy.allowedRecipients allowUnknownSelectors,
    MaxTransactionPolicy policy.maxTransaction,
    MinBalancePolicy policy.minBalance,
    DailySpendPolicy policy.dailySpend,
    ApprovalThresholdPolicy policy.approvalThreshold]
  decoderContext := ⟨policy.account, policy.asset⟩

/-! ## `state/GraphStateProvider.ts` -/

/-- `Number(n)` of a bigint: 53 significant bits, ties to even. -/
def toNumber (n : Nat) : Nat :=
  let unit := 2 ^ (Nat.log2 n - 52)
  let down := n / unit
  let rest := 2 * (n % unit)
  (if rest > unit ∨ rest = unit ∧ down % 2 = 1 then down + 1 else down) * unit

theorem toNumber_of_lt {n : Nat} (small : n < 2 ^ 53) : toNumber n = n := by
  have exponent : Nat.log2 n - 52 = 0 := by
    rcases Nat.eq_zero_or_pos n with rfl | positive
    · rfl
    · have bound := (Nat.log2_lt (Nat.pos_iff_ne_zero.mp positive)).mpr small
      omega
  simp [toNumber, exponent, Nat.mod_one]

/-- The hook's answer to `window(account)` as today's spend. -/
def readOnchainSpend (raw : Text) (dayUtc : Nat) : Option Int :=
  let read : Except JsError (Option Int) :=
    if raw.length < 2 + 128 then .ok none
    else do
      let day := toNumber (← bigIntHex (slice raw 2 66))
      let spent : Int ← bigIntHex (slice raw 66 130)
      -- a stale window means nothing has been spent today
      .ok (some (if day = dayUtc then spent else 0))
  read.toOption.join

/-! ## `testing/calldata.ts` -/

def word (value : Nat) : Text := padStart 64 '0' (toHex value)

def encodeErc20Transfer (recipient : Text) (amount : Nat) : Except JsError Text := do
  let value ← bigIntHex (recipient.drop 2)
  .ok ("0xa9059cbb".toList ++ word value ++ word amount)

end Sdk

end AgentProof
