import AgentProof.Agreement.Verdicts

/-!
# A policy file on both layers

`scripts/install-hook.ts` installs the hook from the policy file the SDK is
started with.  The limits come out the same on both sides, but the script's
target list is `allowedContracts` alone: the SDK adds the asset to its
contracts and keeps recipients in a set of their own.  A transfer the engine
allows therefore passes the hook exactly when the file also lists the asset and
the recipient as contracts.
-/

namespace AgentProof

open AgentPolicyHook Sdk Js Token ExecutionLib

/-! ## The script -/

/-- The arguments of `encodeAbiParameters`; an array the document lacks is `none`. -/
structure InstallArguments where
  asset : Text
  maxTx : Int
  daily : Int
  floor : Int
  hash : Text
  installed : Bool
  targets : Option (List Text)
  deriving DecidableEq, Repr

/-- `/^0x0{40}$/i`. -/
def isZeroHook (hook : Text) : Bool :=
  match hook with
  | '0' :: 'x' :: body | '0' :: 'X' :: body => body = List.replicate 40 '0'
  | _ => false

/-- `BigInt` of an amount; the documents of interest have strings there. -/
def bigIntAmount (raw : Option Text) : Except JsError Int :=
  match raw with
  | some raw => bigInt raw
  | none => thrown "Cannot convert undefined to a BigInt".toList

def installArguments (policyHash : PolicyDocument → Text) (policy : PolicyDocument) :
    Except JsError InstallArguments :=
  if isZeroHook policy.enforcement.hook then
    thrown "agent.policy.json enforcement.hook is unset".toList
  else do
    let maxTx ← bigIntAmount policy.policies.maxTransaction
    let daily ← bigIntAmount policy.policies.dailySpend
    let floor ← bigIntAmount policy.policies.minBalance
    .ok {
      asset := policy.asset.address
      maxTx := maxTx
      daily := daily
      floor := floor
      hash := policyHash policy
      installed := false
      targets := policy.policies.allowedContracts }

/-- The configuration the arguments denote. -/
def InstallArguments.config (args : InstallArguments) : Config where
  asset := addressOf args.asset
  maxTransaction := BitVec.ofInt 256 args.maxTx
  dailyLimit := BitVec.ofInt 256 args.daily
  minBalance := BitVec.ofInt 256 args.floor
  policyHash := BitVec.ofNat 256 (numeral 16 (args.hash.drop 2))
  installed := args.installed

/-- A `uint256` argument the encoder takes. -/
def IsUint256 (n : Int) : Prop := 0 ≤ n ∧ n < 2 ^ 256

instance : DecidablePred IsUint256 := fun _ => inferInstanceAs (Decidable (_ ∧ _))

/-- The documented behaviour of `encodeAbiParameters`: integers out of range are
refused, and what it returns decodes to its arguments. -/
structure EncodesAbi (encodeAbiParameters : InstallArguments → Option Bytes) : Prop where
  inRange : ∀ args data, encodeAbiParameters args = some data →
    IsUint256 args.maxTx ∧ IsUint256 args.daily ∧ IsUint256 args.floor
  decodes : ∀ args data, encodeAbiParameters args = some data →
    decodeInstallData data = .ok (args.config, (args.targets.getD []).map addressOf)

/-! ## Amounts -/

/-- What the SDK accepts as an amount, the script reads as the same number. -/
theorem bigIntAmount_of_policyAmount {key : Text} {raw : Option Text} {amount : Int}
    (accepted : policyAmount key raw = .ok amount) : bigIntAmount raw = .ok amount := by
  cases raw with
  | none => cases accepted
  | some raw =>
      simp only [policyAmount, invalidPolicy, bind_eq_ok_iff, guard_eq_ok_iff,
        Except.ok.injEq] at accepted
      obtain ⟨_, parsed, -, rfl⟩ := accepted
      simp only [parseBaseUnitPolicyAmount, thrown, guard_eq_ok_iff, not_not,
        Except.ok.injEq] at parsed
      obtain ⟨⟨nonempty, digits⟩, -, rfl⟩ := parsed
      exact bigInt_of_digits nonempty digits

/-! ## Both readings of one document -/

/-- The contracts a document lists, as addresses. -/
def listedContracts (document : PolicyDocument) : List Address :=
  (document.policies.allowedContracts.getD []).map addressOf

/-- The asset of a document. -/
def assetOf (document : PolicyDocument) : Address := addressOf document.asset.address

theorem toNat_ofInt {n : Int} (fits : IsUint256 n) : ((BitVec.ofInt 256 n).toNat : Int) = n := by
  obtain ⟨nonneg, small⟩ := fits
  rw [BitVec.toNat_ofInt]
  omega

section Document

variable {policyHash : PolicyDocument → Text} {document : PolicyDocument} {policy : ResolvedPolicy}
  {encodeAbiParameters : InstallArguments → Option Bytes} {args : InstallArguments}
  {installData : Bytes}

/-- The script and the SDK take the same limits from a document. -/
theorem sameLimits_of_document (abi : EncodesAbi encodeAbiParameters)
    (accepted : resolvePolicy policyHash document = .ok policy)
    (derived : installArguments policyHash document = .ok args)
    (encoded : encodeAbiParameters args = some installData) :
    SameLimits policy.bounds args.config := by
  have resolves := resolves_of_resolvePolicy accepted
  obtain ⟨maxTx, daily, floor⟩ := abi.inRange _ _ encoded
  simp only [installArguments, thrown, guard_eq_ok_iff, bind_eq_ok_iff, Except.ok.injEq,
    bigIntAmount_of_policyAmount resolves.maxTransaction,
    bigIntAmount_of_policyAmount resolves.dailySpend,
    bigIntAmount_of_policyAmount resolves.minBalance] at derived
  obtain ⟨-, _, rfl, _, rfl, _, rfl, rfl⟩ := derived
  exact ⟨(toNat_ofInt maxTx).symm, (toNat_ofInt floor).symm, (toNat_ofInt daily).symm⟩

/-- The script installs the document's asset and its listed contracts. -/
theorem decodes_of_document (abi : EncodesAbi encodeAbiParameters)
    (derived : installArguments policyHash document = .ok args)
    (encoded : encodeAbiParameters args = some installData) :
    decodeInstallData installData = .ok (args.config, listedContracts document) ∧
      args.config.asset = assetOf document := by
  have decodes := abi.decodes _ _ encoded
  simp only [installArguments, thrown, guard_eq_ok_iff, bind_eq_ok_iff, Except.ok.injEq] at derived
  obtain ⟨-, _, -, _, -, _, -, rfl⟩ := derived
  exact ⟨decodes, rfl⟩

/-- A transfer the engine allows passes the hook exactly when the document lists
the asset and the recipient as contracts, and the recipient is not zero. -/
theorem allowedTransfer_succeeds_iff {w : World} {account recipient : Address} {amount : Uint256}
    {calldata : Bytes} {msgData : CalldataBytes} {action : Sdk.Action} {state : PolicyState}
    {allowUnknownSelectors : Bool} (abi : EncodesAbi encodeAbiParameters)
    (accepted : resolvePolicy policyHash document = .ok policy)
    (derived : installArguments policyHash document = .ok args)
    (encoded : encodeAbiParameters args = some installData)
    (reached : ReachedFrom account installData w)
    (live : LiveState w account (assetOf document) state) (clock : w.timestamp / 86400 < 2 ^ 53)
    (deployed : account ≠ 0) (transfer : IsTransfer calldata recipient amount)
    (onAsset : isAddress action.toAddress = true ∧ addressOf action.toAddress = assetOf document)
    (data : action.data = bytesToHex calldata)
    (allowed : (createEngine policy allowUnknownSelectors).decision action state = .ok .allow)
    (shown : Shows msgData (assetOf document) calldata) :
    Succeeds (executeToken ⟨account, msgData⟩ (assetOf document) calldata) w ↔
      assetOf document ∈ listedContracts document ∧ recipient ∈ listedContracts document ∧
        recipient ≠ 0 := by
  have resolves := resolves_of_resolvePolicy accepted
  have limits := sameLimits_of_document abi accepted derived encoded
  obtain ⟨decodes, asset⟩ := decodes_of_document abi derived encoded
  have serving := serving_of_reached reached decodes
  obtain ⟨-, tracked⟩ := normalizeAddress_eq_ok_iff.mp resolves.asset
  have admits := ((createEngine_decision_eq_allow_iff transfer onAsset data tracked).mp allowed).1
  rw [← asset] at admits live shown ⊢
  obtain ⟨covered, floor, ceiling, daily⟩ := admits.within limits live
  rw [executeTransfer_succeeds_iff transfer (by rw [serving.config]) shown,
    serving.accepts_iff live clock]
  constructor
  · rintro ⟨⟨inTargets, listed, -, nonzero⟩, -⟩
    exact ⟨inTargets, listed, nonzero⟩
  · rintro ⟨inTargets, listed, nonzero⟩
    exact ⟨⟨inTargets, listed, deployed, nonzero⟩, covered, floor, .inr (.inr ⟨ceiling, daily⟩)⟩

end Document

/-! ### The shipped policy file -/

/-- `agent.policy.json`, up to its two lists. -/
def policyFile (contracts recipients : List Text) : PolicyDocument where
  version := "agentproof/v1".toList
  agent := "trader.agentproof.eth".toList
  chainId := 11155111
  asset := ⟨"0x1c7d4b196cb0c7b01d743fbc6116a902379c7238".toList, 6⟩
  policies := {
    maxTransaction := some "100000000".toList
    dailySpend := some "500000000".toList
    approvalThreshold := some "100000000".toList
    minBalance := some "10000000".toList
    allowedContracts := some contracts
    allowedRecipients := some recipients }
  enforcement := {
    hook := "0xEbB1c3Ae1b502409E64DAA908bd7EDe9cf267E59".toList
    account := "0x67B9Ee93208914fDD829fdAaF24E87D33f75d441".toList }

def payee : Address := 0xa1

def shippedPolicy : PolicyDocument :=
  policyFile ["0x3a9d48ab9751398bbfa63ad67599bb04e4bdf98b".toList,
    "0xe03a1074c86cfedd5c142c4f04f1a1536e203543".toList] [addressText payee]

/-- The file with the asset and the payee listed as contracts. -/
def extendedPolicy : PolicyDocument :=
  policyFile ["0x1c7d4b196cb0c7b01d743fbc6116a902379c7238".toList, addressText payee] []

/-- The canonical hashes of the two files. -/
def fileHash (document : PolicyDocument) : Text :=
  if document = shippedPolicy then
    "0xf40b489f2b7db3f668c1eac5c3734d10b4c9c2b653a9134cce6bbc2999556900".toList
  else "0x64bfe4677b8626102b5acc6987cc78014c6c35f6e30c32c0e2a29e730f2bb151".toList

/-- ABI encoding of arguments in range. -/
def encodeArguments (args : InstallArguments) : Option Bytes :=
  let targets := (args.targets.getD []).map addressOf
  if (IsUint256 args.maxTx ∧ IsUint256 args.daily ∧ IsUint256 args.floor) ∧
      targets.length < 2 ^ 64 then
    some (encodeInstallData args.config targets)
  else none

theorem encodesAbi_encodeArguments : EncodesAbi encodeArguments where
  inRange args data encoded := by
    unfold encodeArguments at encoded
    dsimp only at encoded
    split_ifs at encoded with fits
    exact fits.1
  decodes args data encoded := by
    unfold encodeArguments at encoded
    dsimp only at encoded
    split_ifs at encoded with fits
    rw [Option.some.injEq] at encoded
    rw [← encoded]
    exact decodeInstallData_encodeInstallData _ fits.2

def shippedAccount : Address := addressOf shippedPolicy.enforcement.account

def shippedTokens : Address → Erc20 := fun _ => .issued shippedAccount (10 ^ 9) (by norm_num)

/-- The world after the install of a document. -/
def afterInstall (document : PolicyDocument) (args : InstallArguments) : World :=
  (run [] ((World.deployed shippedTokens 86400).install shippedAccount args.config
    (listedContracts document))).1

def shippedState : PolicyState where
  account := addressText shippedAccount
  dayUtc := 1
  dailySpend := 0
  balance := 10 ^ 9
  asset := addressText (assetOf shippedPolicy)

/-- A payment of one unit of the asset to the payee. -/
def payment : Bytes := encodeCall transferSelector [payee.setWidth 256, 1000000]

def paymentAction : Sdk.Action := ⟨addressText (assetOf shippedPolicy), bytesToHex payment, 0⟩

section Samples

variable {document : PolicyDocument} {args : InstallArguments} {installData : Bytes}

theorem afterInstall_reached (derived : installArguments fileHash document = .ok args)
    (encoded : encodeArguments args = some installData) :
    ReachedFrom shippedAccount installData (afterInstall document args) :=
  reachedFrom_of_run (decodes_of_document encodesAbi_encodeArguments derived encoded).1 _ _ _ nofun

theorem afterInstall_live (asset : Address) :
    LiveState (afterInstall document args) shippedAccount asset shippedState := by
  refine ⟨?_, ?_, ?_⟩
  · change 1 = 86400 / 86400
    norm_num
  · change readOnchainSpend (windowCall .zero) 1 = some 0
    decide +kernel
  · change ((10 ^ 9 : Int)) = ((if shippedAccount = shippedAccount then 10 ^ 9 else 0 : Nat) : Int)
    rw [if_pos rfl]
    norm_num

/-- What a document yields on both sides. -/
theorem sample_yields (document : PolicyDocument)
    (yields : (installArguments fileHash document).toOption.bind encodeArguments ≠ none)
    (allows : (resolvePolicy fileHash document).map (fun policy =>
      (createEngine policy false).decision paymentAction shippedState) = .ok (.ok .allow)) :
    ∃ policy args installData, resolvePolicy fileHash document = .ok policy ∧
      installArguments fileHash document = .ok args ∧ encodeArguments args = some installData ∧
      (createEngine policy false).decision paymentAction shippedState = .ok .allow := by
  cases resolved : resolvePolicy fileHash document with
  | error e =>
      rw [resolved] at allows
      cases allows
  | ok policy =>
      rw [resolved] at allows
      cases derived : installArguments fileHash document with
      | error e =>
          rw [derived] at yields
          exact absurd rfl yields
      | ok args =>
          rw [derived] at yields
          obtain ⟨installData, encoded⟩ := Option.ne_none_iff_exists'.mp yields
          exact ⟨policy, args, installData, rfl, rfl, encoded, Except.ok.inj allows⟩

end Samples

/-- With the asset and the payee listed the payment passes. -/
theorem payment_succeeds_under_extendedPolicy :
    ∃ args, installArguments fileHash extendedPolicy = .ok args ∧
      Succeeds (executeToken ⟨shippedAccount, tokenMsgData (assetOf extendedPolicy) payment⟩
        (assetOf extendedPolicy) payment) (afterInstall extendedPolicy args) := by
  obtain ⟨policy, args, installData, accepted, derived, encoded, allowed⟩ :=
    sample_yields extendedPolicy (by decide +kernel) (by decide +kernel)
  refine ⟨args, derived, ?_⟩
  refine (allowedTransfer_succeeds_iff encodesAbi_encodeArguments accepted derived encoded
    (afterInstall_reached derived encoded) (afterInstall_live _) ?_ (by decide +kernel)
    (isTransfer_encodeCall payee 1000000) ⟨by decide +kernel, by decide +kernel⟩ rfl allowed
    (shows_tokenMsgData _ (by simp))).mpr
    ⟨by decide +kernel, by decide +kernel, by decide⟩
  change 86400 / 86400 < 2 ^ 53
  norm_num

/-- Under the shipped file the engine allows the payment and the hook reverts it. -/
theorem payment_reverts_under_shippedPolicy :
    ∃ policy args installData, EncodesAbi encodeArguments ∧
      resolvePolicy fileHash shippedPolicy = .ok policy ∧
      installArguments fileHash shippedPolicy = .ok args ∧
      encodeArguments args = some installData ∧
      ReachedFrom shippedAccount installData (afterInstall shippedPolicy args) ∧
      LiveState (afterInstall shippedPolicy args) shippedAccount (assetOf shippedPolicy)
        shippedState ∧
      (createEngine policy false).decision paymentAction shippedState = .ok .allow ∧
      ¬ Succeeds (executeToken ⟨shippedAccount, tokenMsgData (assetOf shippedPolicy) payment⟩
        (assetOf shippedPolicy) payment) (afterInstall shippedPolicy args) := by
  obtain ⟨policy, args, installData, accepted, derived, encoded, allowed⟩ :=
    sample_yields shippedPolicy (by decide +kernel) (by decide +kernel)
  have reached := afterInstall_reached derived encoded
  obtain ⟨decodes, asset⟩ := decodes_of_document encodesAbi_encodeArguments derived encoded
  have serving := serving_of_reached reached decodes
  refine ⟨policy, args, installData, encodesAbi_encodeArguments, accepted, derived, encoded,
    reached, afterInstall_live _, allowed, fun succeeds => ?_⟩
  have accepts := (executeTransfer_succeeds_iff (isTransfer_encodeCall payee 1000000)
    (by rw [serving.config]; exact asset) (shows_tokenMsgData _ (by simp))).mp succeeds
  have listed := (serving.allowed _).mp accepts.asset
  rw [serving.config] at listed
  have absent : assetOf shippedPolicy ∉ listedContracts shippedPolicy := by decide +kernel
  exact absent (asset ▸ listed)

end AgentProof
