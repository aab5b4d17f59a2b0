import AgentProof.Sdk.LetterCase
import AgentProof.Sdk.SimulatedReverts

/-!
# The spelling of a simulated account

Two simulated accounts of the same addresses, limits and balance, written in
different letter case, and the same calls in different letter case.  Targets and
counterparties are normalised before they are looked up, but the asset and the
account's own address are compared as they are written, and so are selectors.
Where the two sides write these alike (`Twins`, `CaseSafe`), they act alike.
-/

namespace AgentProof

namespace Sdk

open Js UniswapV4

/-! ## Two contexts -/

/-- The tracked amount of an intent's outflow. -/
def pulledOf (asset : Text) (intent : NormalizedIntent) : Int :=
  ((intent.outflow.find? fun flow => flow.asset = asset).map AssetAmount.amount).getD 0

/-- Of one kind; and a swap takes the same amount of the tracked asset. -/
structure SamePull (ctx ctx' : DecoderContext) (intent intent' : NormalizedIntent) : Prop where
  kind : intent.kind = intent'.kind
  pulled : intent.kind = .swap → pulledOf ctx.trackedAsset intent = pulledOf ctx'.trackedAsset intent'

section Contexts

variable {ctx ctx' : DecoderContext} {action action' : Action}

/-- Two intents of a kind that is no swap. -/
theorem SamePull.of_kind {intent intent' : NormalizedIntent} (kind : IntentKind)
    (other : kind ≠ .swap) (first : intent.kind = kind) (second : intent'.kind = kind) :
    SamePull ctx ctx' intent intent' :=
  ⟨first.trans second.symm, fun swap => absurd (first.symm.trans swap) other⟩

theorem canonicalAsset_alike {asset asset' : Text} (same : SameBytes asset asset') :
    Alike Eq (canonicalAsset asset) (canonicalAsset asset') := by
  obtain ⟨body, body', rfl, rfl, digits⟩ := same
  exact (normalizeAddress_alike digits).bindEq fun _ => .refl _

theorem erc20Decoder_pulls : Alike (Option.Rel (SamePull ctx ctx'))
    (erc20Decoder.decode action ctx) (erc20Decoder.decode action ctx') := by
  refine (Alike.refl _).bindEq fun asset => ?_
  refine Alike.ite .rfl (fun _ => ?_) fun _ => ?_
  · refine (Alike.refl _).bindEq fun dst => ?_
    refine (Alike.refl _).bindEq fun amount => ?_
    exact .returns (.some (.of_kind .transfer (by decide) rfl rfl))
  refine Alike.ite .rfl (fun _ => ?_) fun _ => ?_
  · refine (Alike.refl _).bindEq fun src => ?_
    refine (Alike.refl _).bindEq fun dst => ?_
    refine (Alike.refl _).bindEq fun amount => ?_
    exact .returns (.some (.of_kind .transfer (by decide) rfl rfl))
  refine Alike.ite .rfl (fun _ => ?_) fun _ => ?_
  · refine (Alike.refl _).bindEq fun spender => ?_
    refine (Alike.refl _).bindEq fun allowance => ?_
    exact .returns (.some (.of_kind .approve (by decide) rfl rfl))
  refine Alike.ite .rfl (fun _ => ?_) fun _ => .returns .none
  refine (Alike.refl _).bindEq fun token => ?_
  refine (Alike.refl _).bindEq fun spender => ?_
  refine (Alike.refl _).bindEq fun allowance => ?_
  exact .returns (.some (.of_kind .approve (by decide) rfl rfl))

theorem x402Decoder_pulls : Alike (Option.Rel (SamePull ctx ctx'))
    (x402Decoder.decode action ctx) (x402Decoder.decode action ctx') := by
  refine Alike.ite .rfl (fun _ => .returns .none) fun _ => ?_
  refine (Alike.refl _).bindEq fun token => ?_
  refine (Alike.refl _).bindEq fun payTo => ?_
  refine (Alike.refl _).bindEq fun amount => ?_
  refine (Alike.refl _).bindEq fun target => ?_
  exact .returns (.some (.of_kind .x402Payment (by decide) rfl rfl))

theorem nativeDecoder_pulls : Alike (Option.Rel (SamePull ctx ctx'))
    (nativeDecoder.decode action ctx) (nativeDecoder.decode action ctx') := by
  refine Alike.ite .rfl (fun _ => .returns .none) fun _ => ?_
  refine (Alike.refl _).bindEq fun dst => ?_
  exact .returns (.some (.of_kind .nativeTransfer (by decide) rfl rfl))

theorem swapIntent_pulls (same : SameBytes ctx.trackedAsset ctx'.trackedAsset)
    (router selector : Text) (g : UniswapV4.Gathered) :
    Alike (SamePull ctx ctx') (swapIntent action ctx router selector g)
      (swapIntent action ctx' router selector g) := by
  have tracked : Alike Eq (g.outflow.get ctx.trackedAsset) (g.outflow.get ctx'.trackedAsset) :=
    (canonicalAsset_alike same).bindEq fun _ => .refl _
  refine tracked.bindEq fun amount => ?_
  refine (Alike.refl _).bindEq fun native => ?_
  refine .returns ⟨rfl, fun _ => ?_⟩
  simp [pulledOf]

theorem uniswapV4Decoder_pulls (same : SameBytes ctx.trackedAsset ctx'.trackedAsset) :
    Alike (Option.Rel (SamePull ctx ctx'))
      (uniswapV4Decoder.decode action ctx) (uniswapV4Decoder.decode action ctx') := by
  refine (Alike.refl _).bindEq fun router => ?_
  dsimp only
  split
  · exact .returns (.some (.of_kind .unknown (by decide) rfl rfl))
  · split
    · exact .returns (.some (.of_kind .unknown (by decide) rfl rfl))
    · exact (swapIntent_pulls same router _ _).bind fun _ _ read => .returns (.some read)

theorem settle_pulls {answer answer' : Option NormalizedIntent}
    (answers : Option.Rel (SamePull ctx ctx') answer answer') :
    Alike (SamePull ctx ctx') (settle action ctx answer) (settle action ctx' answer') := by
  cases answers with
  | some read => exact .returns read
  | none =>
      exact (Alike.refl _).bindEq fun target =>
        .returns (.of_kind .unknown (by decide) rfl rfl)

/-- One action in two contexts that track one asset. -/
theorem decode_pulls (same : SameBytes ctx.trackedAsset ctx'.trackedAsset) :
    Alike (SamePull ctx ctx') (createDefaultRegistry.decode action ctx)
      (createDefaultRegistry.decode action ctx') := by
  cases claimed : claimant (toLowerCase (selectorOf action.data)) with
  | none =>
      rw [decode_of_unclaimed claimed, decode_of_unclaimed claimed]
      exact nativeDecoder_pulls.bind fun _ _ => settle_pulls
  | some decoder =>
      rw [decode_of_claimed claimed, decode_of_claimed claimed]
      have answers : Alike (Option.Rel (SamePull ctx ctx')) (decoder.decode action ctx)
          (decoder.decode action ctx') := by
        unfold claimant at claimed
        split_ifs at claimed <;> cases claimed
        · exact erc20Decoder_pulls
        · exact uniswapV4Decoder_pulls same
        · exact x402Decoder_pulls
      exact answers.bind fun _ _ => settle_pulls

/-- Two actions of the same bytes in two such contexts. -/
theorem decode_alike_pulls (tracks : SameBytes ctx.trackedAsset ctx'.trackedAsset)
    (same : SameAction action action') (safe : CaseSafe action action') :
    Alike (SamePull ctx ctx') (createDefaultRegistry.decode action ctx)
      (createDefaultRegistry.decode action' ctx') := by
  have bytes := @alike_of_caseSafe _ _ ctx same safe
  have contexts := @decode_pulls ctx ctx' action' tracks
  generalize createDefaultRegistry.decode action ctx = y,
    createDefaultRegistry.decode action' ctx = between,
    createDefaultRegistry.decode action' ctx' = z at bytes contexts ⊢
  cases bytes with
  | throws e e' =>
      cases contexts with
      | throws e' e'' => exact .throws e e''
  | @returns intent intent' read =>
      cases contexts with
      | @returns _ intent'' pulls =>
          refine .returns ⟨read.kind.trans pulls.kind, fun swap => ?_⟩
          rw [← pulls.pulled (by rw [← read.kind, swap]), pulledOf, pulledOf, read.outflow]

end Contexts

/-! ## Texts in lower case -/

def LowerCase (t : Text) : Prop := toLowerCase t = t

instance : DecidablePred LowerCase := fun t => inferInstanceAs (Decidable (toLowerCase t = t))

theorem SameBytes.lower_eq {t t' : Text} (same : SameBytes t t') :
    toLowerCase t = toLowerCase t' := by
  obtain ⟨body, body', rfl, rfl, digits⟩ := same
  exact congrArg (fun text => '0' :: 'x' :: text) digits.lower

/-- A text in lower case is one of them when it is the other. -/
theorem SameBytes.eq_iff {t t' x : Text} (same : SameBytes t t')
    (spelled : LowerCase t ↔ LowerCase t') (lower : LowerCase x) : x = t ↔ x = t' := by
  constructor
  · rintro rfl
    rw [← lower, same.lower_eq, spelled.mp lower]
  · rintro rfl
    rw [← lower, ← same.lower_eq, spelled.mpr lower]

theorem lowerCase_of_normalizeAddress {raw normalised : Text}
    (normal : normalizeAddress raw = .ok normalised) : LowerCase normalised := by
  rw [(normalizeAddress_eq_ok_iff.mp normal).2]
  exact toLowerCase_addressText _

theorem sameBytes_addressText (a : Address) : SameBytes (addressText a) (addressText a) :=
  ⟨_, _, rfl, rfl, allHex_hexText _, allHex_hexText _, rfl⟩

/-! ## Two accounts -/

/-- The kind of an error: the code of a policy revert, or any other error. -/
def SimulatedError.kind : SimulatedError → Option RevertCode
  | revert r => some r.code
  | thrown _ => none

def SameKind (e e' : SimulatedError) : Prop := e.kind = e'.kind

/-- The same numbers and list; the asset is written in lower case in both or in neither, and so is
the account's address where the asset is. -/
structure Twins (s s' : SimulatedAccount) : Prop where
  asset : SameBytes s.config.asset s'.config.asset
  address : SameBytes s.address s'.address
  assetCase : LowerCase s.config.asset ↔ LowerCase s'.config.asset
  addressCase : LowerCase s.config.asset → (LowerCase s.address ↔ LowerCase s'.address)
  maxTransaction : s.config.maxTransaction = s'.config.maxTransaction
  dailyLimit : s.config.dailyLimit = s'.config.dailyLimit
  minBalance : s.config.minBalance = s'.config.minBalance
  balance : s.balance = s'.balance
  window : s.window = s'.window
  clockMs : s.clockMs = s'.clockMs
  allowed : s.allowed = s'.allowed

/-- Two requests of the same bytes. -/
structure SameRequest (request request' : UserOperationRequest) : Prop where
  toAddress : SameBytes request.toAddress request'.toAddress
  data : SameBytes request.data request'.data

/-- The action of a request without value. -/
def UserOperationRequest.action (request : UserOperationRequest) : Action :=
  ⟨request.toAddress, request.data, 0⟩

/-- For a target on the list: no decoder compares the selector as it is written, or both write it in
lower case, or neither does. -/
def SelectorSafe (allowed : List Text) (request request' : UserOperationRequest) : Prop :=
  ∀ target, normalizeAddress request.toAddress = .ok target → target ∈ allowed →
    Written request.action → (InLowerCase request.data ↔ InLowerCase request'.data)

theorem SameRequest.action {request request' : UserOperationRequest}
    (same : SameRequest request request') : SameAction request.action request'.action :=
  ⟨same.toAddress, same.data, rfl⟩

namespace Twins

variable {s s' : SimulatedAccount} {request request' : UserOperationRequest} {target : Text}

theorem target_eq_iff (twins : Twins s s') (lower : LowerCase target) :
    target = s.config.asset ↔ target = s'.config.asset :=
  twins.asset.eq_iff twins.assetCase lower

theorem today (twins : Twins s s') : s.today = s'.today := by
  rw [SimulatedAccount.today, SimulatedAccount.today, twins.clockMs]

theorem spentToday (twins : Twins s s') : s.spentToday = s'.spentToday := by
  rw [SimulatedAccount.spentToday, SimulatedAccount.spentToday, twins.window, twins.today]

/-- A listed selector is written so in both or in neither. -/
theorem selector_iff (same : SameRequest request request')
    (safe : Written request.action → (InLowerCase request.data ↔ InLowerCase request'.data))
    {selector : Text} (listed : selector ∈ erc20Decoder.selectors) :
    selectorOf request.data = selector ↔ selectorOf request'.data = selector := by
  have lower := erc20_selectors_lower selector listed
  have bytes : toLowerCase (selectorOf request.data) = toLowerCase (selectorOf request'.data) :=
    same.action.lower_selector
  constructor
  · intro written
    have cases_ := safe (.inl (by rw [UserOperationRequest.action, written, lower]; exact listed))
    have first : InLowerCase request.data := by rw [InLowerCase, written, lower]
    rw [← cases_.mp first, ← bytes, written, lower]
  · intro written
    have cases_ := safe (.inl (by
      rw [UserOperationRequest.action, bytes, written, lower]
      exact listed))
    have second : InLowerCase request'.data := by rw [InLowerCase, written, lower]
    rw [← cases_.mpr second, bytes, written, lower]

theorem decodeCounterparty_alike (same : SameRequest request request')
    (safe : Written request.action → (InLowerCase request.data ↔ InLowerCase request'.data)) :
    Alike Eq (SimulatedAccount.decodeCounterparty request.data)
      (SimulatedAccount.decodeCounterparty request'.data) := by
  have selector {selector : Text} := @selector_iff request request' same safe selector
  unfold SimulatedAccount.decodeCounterparty
  dsimp only
  refine Alike.ite ?_ (fun _ => ?_) fun _ => Alike.ite ?_ (fun _ => ?_) fun _ => .refl _
  · rw [selector (show SELECTOR_TRANSFER ∈ _ by decide),
      selector (show SELECTOR_APPROVE ∈ _ by decide)]
  · exact (same.action.address_alike 0).bindEq fun _ => .refl _
  · rw [selector (show SELECTOR_TRANSFER_FROM ∈ _ by decide)]
  · exact (same.action.address_alike 1).bindEq fun _ => .refl _

theorem preCheck_alike (twins : Twins s s') (same : SameRequest request request')
    (safe : SelectorSafe s.allowed request request') :
    AlikeBy SameKind Eq (s.preCheck request) (s'.preCheck request') := by
  have targets : Alike Eq (normalizeAddress request.toAddress)
      (normalizeAddress request'.toAddress) := same.action.target_alike
  have refused (text : Text) : AlikeBy SameKind (Eq : Text → Text → Prop)
      (SimulatedAccount.targetNotAllowed text) (SimulatedAccount.targetNotAllowed text) :=
    .throws rfl
  unfold SimulatedAccount.preCheck
  refine (AlikeBy.mapError targets.remember fun _ _ => rfl).bind ?_
  rintro target _ ⟨rfl, normal⟩
  rw [← twins.allowed]
  refine AlikeBy.ite .rfl (fun _ => refused target) fun listed => ?_
  have lower := lowerCase_of_normalizeAddress normal
  refine AlikeBy.ite (twins.target_eq_iff lower) (fun _ => ?_) fun _ => .returns rfl
  have counterparty := decodeCounterparty_alike same (safe target normal (not_not.mp listed))
  refine (AlikeBy.mapError counterparty fun _ _ => rfl).bind ?_
  rintro answer _ rfl
  cases answer with
  | none => exact .returns rfl
  | some counterparty =>
      exact AlikeBy.ite .rfl (fun _ => refused counterparty) fun _ => .returns rfl

/-- The same amount moved. -/
abbrev SameMove (moved moved' : SimulatedAccount × Int) : Prop := moved.2 = moved'.2

theorem applyAmount_alike (twins : Twins s s') (same : SameRequest request request')
    (index : Nat) :
    Alike SameMove (s.applyAmount request.data index) (s'.applyAmount request'.data index) := by
  refine (same.action.word_alike index).bindEq fun amount => ?_
  refine Alike.ite (by rw [twins.balance]) (fun _ => .throws _ _) fun _ => .returns rfl

theorem applyRouterPull_alike (twins : Twins s s') (same : SameRequest request request')
    (a : Address)
    (safe : Written request.action → (InLowerCase request.data ↔ InLowerCase request'.data)) :
    Alike SameMove (s.applyRouterPull request.data (addressText a))
      (s'.applyRouterPull request'.data (addressText a)) := by
  have action : SameAction ⟨addressText a, request.data, 0⟩ ⟨addressText a, request'.data, 0⟩ :=
    ⟨sameBytes_addressText a, same.data, rfl⟩
  have decoded := @decode_alike_pulls ⟨s.address, s.config.asset⟩ ⟨s'.address, s'.config.asset⟩
    _ _ twins.asset action fun _ written => safe written
  refine decoded.bind fun intent intent' pulls => ?_
  refine Alike.ite (by rw [pulls.kind]) (fun _ => .returns rfl) fun swap => ?_
  have same_ := pulls.pulled (not_not.mp swap)
  unfold pulledOf at same_
  dsimp only at same_
  refine .returns ?_
  rw [same_, twins.balance]
  rfl

theorem applyTransfer_alike (twins : Twins s s') (same : SameRequest request request')
    (a : Address)
    (safe : Written request.action → (InLowerCase request.data ↔ InLowerCase request'.data)) :
    Alike SameMove (s.applyTransfer request.data (addressText a))
      (s'.applyTransfer request'.data (addressText a)) := by
  have selector {selector : Text} := @selector_iff request request' same safe selector
  have lower : LowerCase (addressText a) := toLowerCase_addressText a
  unfold SimulatedAccount.applyTransfer
  dsimp only
  refine Alike.ite (not_congr (twins.target_eq_iff lower))
    (fun _ => twins.applyRouterPull_alike same a safe) fun onAsset => ?_
  refine Alike.ite (selector (by decide)) (fun _ => twins.applyAmount_alike same 1) fun _ => ?_
  refine Alike.ite (selector (by decide)) (fun _ => ?_) fun _ => .returns rfl
  refine (same.action.address_alike 0).remember.bind ?_
  rintro holder _ ⟨rfl, read⟩
  obtain ⟨value, -, normal⟩ := bind_eq_ok_iff.mp read
  have assetLower : LowerCase s.config.asset := not_not.mp onAsset ▸ lower
  have owner := twins.address.eq_iff (twins.addressCase assetLower)
    (lowerCase_of_normalizeAddress normal)
  exact Alike.ite owner (fun _ => twins.applyAmount_alike same 2) fun _ => .returns rfl

theorem withBalance (twins : Twins s s') (balance : Int) :
    Twins { s with balance := balance } { s' with balance := balance } :=
  { twins with balance := rfl }

theorem withCeiling (twins : Twins s s') {ceiling ceiling' : Int} (same : ceiling = ceiling') :
    Twins (s.withCeiling ceiling) (s'.withCeiling ceiling') :=
  { twins with maxTransaction := same }

theorem charge (twins : Twins s s') (balanceBefore today outflow : Int) :
    Twins (s.charge balanceBefore today outflow).1 (s'.charge balanceBefore today outflow).1 ∧
      (s.charge balanceBefore today outflow).2 = (s'.charge balanceBefore today outflow).2 := by
  have base : s.base today = s'.base today := by
    rw [SimulatedAccount.base, SimulatedAccount.base, twins.window]
  unfold SimulatedAccount.charge
  rw [base, twins.maxTransaction, twins.dailyLimit]
  dsimp only
  split_ifs
  · exact ⟨twins.withBalance balanceBefore, rfl⟩
  · exact ⟨twins.withBalance balanceBefore, rfl⟩
  · exact ⟨{ twins with window := rfl }, rfl⟩
  · exact ⟨twins, rfl⟩

theorem checkFloor (twins : Twins s s') (balanceBefore : Int) :
    Twins (s.checkFloor balanceBefore).1 (s'.checkFloor balanceBefore).1 ∧
      (s.checkFloor balanceBefore).2 = (s'.checkFloor balanceBefore).2 := by
  unfold SimulatedAccount.checkFloor
  rw [twins.balance, twins.minBalance]
  split_ifs
  · exact ⟨twins.withBalance balanceBefore, rfl⟩
  · exact ⟨twins, rfl⟩

theorem postCheck (twins : Twins s s') (balanceBefore today : Int) :
    Twins (s.postCheck balanceBefore today).1 (s'.postCheck balanceBefore today).1 ∧
      (s.postCheck balanceBefore today).2 = (s'.postCheck balanceBefore today).2 := by
  unfold SimulatedAccount.postCheck
  rw [← twins.balance]
  generalize (if balanceBefore > s.balance then balanceBefore - s.balance else 0) = outflow
  obtain ⟨charged, same⟩ := twins.charge balanceBefore today outflow
  dsimp only
  generalize s.charge balanceBefore today outflow = result,
    s'.charge balanceBefore today outflow = result' at charged same ⊢
  obtain ⟨left, answer⟩ := result
  obtain ⟨left', answer'⟩ := result'
  obtain rfl : answer = answer' := same
  cases answer with
  | error e => exact ⟨charged, rfl⟩
  | ok done => exact charged.checkFloor balanceBefore

variable (keccak256 : Text → Text)

/-- What a send answers, up to the kind of what it throws. -/
abbrev SameAnswer : Except SimulatedError Text → Except SimulatedError Text → Prop :=
  AlikeBy SameKind fun _ _ => True

/-- What passes the first check is an address of the list. -/
theorem preCheck_eq_ok (checked : s.preCheck request = .ok target) :
    normalizeAddress request.toAddress = .ok target ∧ target ∈ s.allowed := by
  unfold SimulatedAccount.preCheck orThrow at checked
  cases normal : normalizeAddress request.toAddress with
  | error e =>
      rw [normal] at checked
      cases checked
  | ok found =>
      rw [normal] at checked
      simp only [Except.mapError, bind, Except.bind, SimulatedAccount.targetNotAllowed,
        guard_eq_ok_iff, not_not] at checked
      obtain ⟨listed, checked⟩ := checked
      have same : found = target := by
        split_ifs at checked
        · split at checked
          · cases checked
          · split at checked
            · exact Except.ok.inj (guard_eq_ok_iff.mp checked).2
            · exact Except.ok.inj checked
        · exact Except.ok.inj checked
      exact ⟨by rw [same], by rwa [← same]⟩

theorem sendUnchecked (twins : Twins s s') (same : SameRequest request request')
    (safe : SelectorSafe s.allowed request request') :
    Twins (s.sendUnchecked keccak256 request).1 (s'.sendUnchecked keccak256 request').1 ∧
      SameAnswer (s.sendUnchecked keccak256 request).2 (s'.sendUnchecked keccak256 request').2 := by
  have checks := twins.preCheck_alike same safe
  have moves (target : Text) (checked : s.preCheck request = .ok target) :
      Alike SameMove (s.applyTransfer request.data target)
        (s'.applyTransfer request'.data target) := by
    obtain ⟨normal, listed⟩ := preCheck_eq_ok checked
    obtain rfl := (normalizeAddress_eq_ok_iff.mp normal).2
    exact twins.applyTransfer_alike same _ (safe _ normal listed)
  unfold SimulatedAccount.sendUnchecked
  generalize s.preCheck request = y, s'.preCheck request' = z at checks moves ⊢
  cases checks with
  | throws related => exact ⟨twins, .throws related⟩
  | @returns target _ related =>
      subst related
      have moves := moves target rfl
      have left {executed : SimulatedAccount} {moved : Int} :=
        @SimulatedAccount.applyTransfer_eq_ok s executed request.data target moved
      have right {executed : SimulatedAccount} {moved : Int} :=
        @SimulatedAccount.applyTransfer_eq_ok s' executed request'.data target moved
      dsimp only
      generalize s.applyTransfer request.data target = y,
        s'.applyTransfer request'.data target = z at moves left right ⊢
      cases moves with
      | throws e e' => exact ⟨twins, .throws rfl⟩
      | @returns result result' related =>
          obtain ⟨executed, moved⟩ := result
          obtain ⟨executed', moved'⟩ := result'
          obtain rfl : moved = moved' := related
          obtain rfl := left rfl
          obtain rfl := right rfl
          have after := (twins.withBalance (s.balance - moved)).postCheck s.balance s.today
          dsimp only
          rw [← twins.balance, ← twins.today]
          generalize SimulatedAccount.postCheck { s with balance := s.balance - moved } _ _ = result,
            SimulatedAccount.postCheck { s' with balance := s.balance - moved } _ _ = result'
            at after ⊢
          obtain ⟨left, answer⟩ := result
          obtain ⟨left', answer'⟩ := result'
          obtain ⟨checked, rfl⟩ : Twins left left' ∧ answer = answer' := after
          cases answer with
          | error e => exact ⟨checked, .throws rfl⟩
          | ok done => exact ⟨{ checked with }, .returns trivial⟩

theorem sendAsOwner (twins : Twins s s') (same : SameRequest request request')
    (safe : SelectorSafe s.allowed request request') :
    Twins (s.sendAsOwner keccak256 request).1 (s'.sendAsOwner keccak256 request').1 ∧
      SameAnswer (s.sendAsOwner keccak256 request).2 (s'.sendAsOwner keccak256 request').2 := by
  have raised := twins.withCeiling twins.dailyLimit
  obtain ⟨after, answers⟩ := raised.sendUnchecked keccak256 same safe
  exact ⟨after.withCeiling twins.maxTransaction, answers⟩

/-- A balance is asked for in any spelling. -/
theorem getErc20Balance (twins : Twins s s') {asset asset' account account' : Text}
    (assets : SameBytes asset asset') (accounts : SameBytes account account') :
    Alike Eq (s.getErc20Balance asset account) (s'.getErc20Balance asset' account') := by
  have normal {t t' : Text} (same : SameBytes t t') :
      Alike Eq (normalizeAddress t) (normalizeAddress t') := by
    obtain ⟨body, body', rfl, rfl, digits⟩ := same
    exact normalizeAddress_alike digits
  refine (normal assets).remember.bind ?_
  rintro found _ ⟨rfl, read⟩
  have lower := lowerCase_of_normalizeAddress read
  refine Alike.ite (not_congr (twins.target_eq_iff lower)) (fun _ => .refl _) fun onAsset => ?_
  refine (normal accounts).remember.bind ?_
  rintro owner _ ⟨rfl, read⟩
  have spelled := twins.addressCase (not_not.mp onAsset ▸ lower)
  have own := twins.address.eq_iff spelled (lowerCase_of_normalizeAddress read)
  rw [twins.balance]
  simp only [own]
  exact .refl _

end Twins

/-! ## Two sequences of calls -/

/-- Two calls of the same bytes whose selectors are safe. -/
inductive SameCall (allowed : List Text) : SimulatedCall → SimulatedCall → Prop
  | sendUnchecked {request request' : UserOperationRequest} (same : SameRequest request request')
      (safe : SelectorSafe allowed request request') :
      SameCall allowed (.sendUnchecked request) (.sendUnchecked request')
  | send {request request' : UserOperationRequest} (same : SameRequest request request')
      (safe : SelectorSafe allowed request request') :
      SameCall allowed (.send request) (.send request')
  | sendAsOwner {request request' : UserOperationRequest} (same : SameRequest request request')
      (safe : SelectorSafe allowed request request') :
      SameCall allowed (.sendAsOwner request) (.sendAsOwner request')
  | advance (ms : ℚ≥0) : SameCall allowed (.advance ms) (.advance ms)

/-- Both succeed or both throw an error of one kind, with the same outflow and the same total of
the day. -/
structure SameTurn (t t' : SimulatedTurn) : Prop where
  answer : Option.Rel Twins.SameAnswer t.answer t'.answer
  outflow : t.outflow = t'.outflow
  spentToday : t.after.spentToday = t'.after.spentToday

/-- Both throw or neither. -/
theorem SameTurn.throws {t t' : SimulatedTurn} (same : SameTurn t t') : t.throws = t'.throws := by
  have answers := same.answer
  unfold SimulatedTurn.throws
  generalize t.answer = answer, t'.answer = answer' at answers ⊢
  rcases answers with ⟨⟨related⟩ | ⟨related⟩⟩ | _
  all_goals rfl

theorem throws_alike {turns turns' : List SimulatedTurn} (same : List.Forall₂ SameTurn turns turns') :
    turns.map SimulatedTurn.throws = turns'.map SimulatedTurn.throws := by
  induction same with
  | nil => rfl
  | cons first rest ih => rw [List.map_cons, List.map_cons, first.throws, ih]

section Sequences

variable (keccak256 : Text → Text) {s s' : SimulatedAccount}

theorem Twins.apply (twins : Twins s s') {call call' : SimulatedCall}
    (same : SameCall s.allowed call call') :
    Twins (call.apply keccak256 s).1 (call'.apply keccak256 s').1 ∧
      Option.Rel Twins.SameAnswer (call.apply keccak256 s).2 (call'.apply keccak256 s').2 := by
  cases same with
  | sendUnchecked same safe | send same safe =>
      obtain ⟨after, answers⟩ := twins.sendUnchecked keccak256 same safe
      exact ⟨after, .some answers⟩
  | sendAsOwner same safe =>
      obtain ⟨after, answers⟩ := twins.sendAsOwner keccak256 same safe
      exact ⟨after, .some answers⟩
  | advance ms =>
      exact ⟨{ twins with clockMs := congrArg (· + (ms : ℚ)) twins.clockMs }, .none⟩

theorem Twins.turn (twins : Twins s s') {call call' : SimulatedCall}
    (same : SameCall s.allowed call call') :
    SameTurn (call.turn keccak256 s) (call'.turn keccak256 s') := by
  obtain ⟨after, answers⟩ := twins.apply keccak256 same
  refine ⟨answers, ?_, after.spentToday⟩
  rw [SimulatedTurn.outflow, SimulatedTurn.outflow, SimulatedCall.turn, SimulatedCall.turn,
    twins.balance, after.balance]

theorem Twins.run (twins : Twins s s') {calls calls' : List SimulatedCall} {allowed : List Text}
    (listed : s.allowed = allowed) (same : List.Forall₂ (SameCall allowed) calls calls') :
    Twins (SimulatedCall.run keccak256 s calls).1 (SimulatedCall.run keccak256 s' calls').1 ∧
      List.Forall₂ SameTurn (SimulatedCall.run keccak256 s calls).2
        (SimulatedCall.run keccak256 s' calls').2 := by
  induction same generalizing s s' with
  | nil => exact ⟨twins, .nil⟩
  | @cons call call' calls calls' first rest ih =>
      rw [← listed] at first
      have kept : (call.turn keccak256 s).after.allowed = allowed :=
        (SimulatedTurn.shape keccak256 s call).allowed.trans listed
      have after : Twins (call.turn keccak256 s).after (call'.turn keccak256 s').after :=
        (twins.apply keccak256 first).1
      obtain ⟨done, turns⟩ := ih after kept
      exact ⟨done, .cons (twins.turn keccak256 first) turns⟩

end Sequences

/-! ## Two configurations -/

/-- The same addresses and limits. -/
structure SameConfig (config config' : SimulatedConfig) : Prop where
  asset : SameBytes config.asset config'.asset
  allowedTargets : List.Forall₂ SameBytes config.allowedTargets config'.allowedTargets
  maxTransaction : config.maxTransaction = config'.maxTransaction
  dailyLimit : config.dailyLimit = config'.dailyLimit
  minBalance : config.minBalance = config'.minBalance

theorem addressSet_alike {addresses addresses' : List Text}
    (same : List.Forall₂ SameBytes addresses addresses') :
    Alike Eq (addressSet addresses) (addressSet addresses') := by
  have normalised : Alike Eq (addresses.mapM normalizeAddress)
      (addresses'.mapM normalizeAddress) := by
    induction same with
    | nil => exact .refl _
    | cons first rest ih =>
        obtain ⟨body, body', rfl, rfl, digits⟩ := first
        rw [List.mapM_cons, List.mapM_cons]
        exact (normalizeAddress_alike digits).bindEq fun _ => ih.bindEq fun _ => .refl _
  exact normalised.bindEq fun _ => .refl _

section Spelling

variable {address address' : Text} {config config' : SimulatedConfig} {balance : Int} {nowMs : ℚ}
  {s s' : SimulatedAccount}

/-- Two new accounts of the same addresses and numbers, spelled alike where it counts. -/
theorem Twins.of_create (same : SameConfig config config') (addresses : SameBytes address address')
    (assetCase : LowerCase config.asset ↔ LowerCase config'.asset)
    (addressCase : LowerCase config.asset → (LowerCase address ↔ LowerCase address'))
    (built : SimulatedAccount.create address config balance nowMs = .ok s)
    (built' : SimulatedAccount.create address' config' balance nowMs = .ok s') : Twins s s' := by
  have lists := addressSet_alike (List.rel_append same.allowedTargets (.cons same.asset .nil))
  obtain ⟨allowed, listing, built⟩ := bind_eq_ok_iff.mp built
  obtain ⟨allowed', listing', built'⟩ := bind_eq_ok_iff.mp built'
  rw [listing, listing', Alike.ok_iff] at lists
  subst lists
  cases built
  cases built'
  exact ⟨same.asset, addresses, assetCase, addressCase, same.maxTransaction, same.dailyLimit,
    same.minBalance, rfl, rfl, rfl, rfl⟩

/-- Two accounts of the same addresses, limits and balance, whose assets are both in lower case or
neither, and then their own addresses too, act alike on every two sequences of calls of the same
bytes whose selectors are safe, and answer alike for the balance in any spelling. -/
theorem spelling_alike (keccak256 : Text → Text) (same : SameConfig config config')
    (addresses : SameBytes address address')
    (assetCase : LowerCase config.asset ↔ LowerCase config'.asset)
    (addressCase : LowerCase config.asset → (LowerCase address ↔ LowerCase address'))
    (built : SimulatedAccount.create address config balance nowMs = .ok s)
    (built' : SimulatedAccount.create address' config' balance nowMs = .ok s')
    {calls calls' : List SimulatedCall}
    (safe : List.Forall₂ (SameCall s.allowed) calls calls') :
    let done := SimulatedCall.run keccak256 s calls
    let done' := SimulatedCall.run keccak256 s' calls'
    List.Forall₂ SameTurn done.2 done'.2 ∧
      ∀ asset asset' account account', SameBytes asset asset' → SameBytes account account' →
        Alike Eq (done.1.getErc20Balance asset account)
          (done'.1.getErc20Balance asset' account') := by
  intro done done'
  have twins := Twins.of_create same addresses assetCase addressCase built built'
  obtain ⟨after, turns⟩ := twins.run keccak256 rfl safe
  exact ⟨turns, fun _ _ _ _ assets accounts => after.getErc20Balance assets accounts⟩

end Spelling

/-! ### An asset in two spellings -/

def spelledConfig (asset : Text) (allowedTargets : List Text) : SimulatedConfig :=
  ⟨asset, 50, 100, 0, allowedTargets⟩

/-- The account of such a configuration, once built. -/
def spelledAccount (asset : Text) (allowedTargets allowed : List Text) : SimulatedAccount where
  address := addressText 0xA1
  config := spelledConfig asset allowedTargets
  balance := 100
  window := ⟨0, 0⟩
  nonce := 0
  clockMs := 0
  allowed := allowed
  log := []

/-- A transfer of 1 to `0x22`, its target as written. -/
def spelledTransfer (target : Text) : UserOperationRequest where
  account := addressText 0xA1
  toAddress := target
  data := (writtenTransfer target SELECTOR_TRANSFER).data
  value := 0

theorem sameRequest_spelledTransfer : SameRequest (spelledTransfer (addressText 0xa55e7))
    (spelledTransfer upperTarget) :=
  ⟨sameAction_writtenTransfer.1.toAddress, sameAction_writtenTransfer.1.data⟩

/-- The asset is in lower case in both; the target of the request is not. -/
theorem spelling_alike_spelledTransfer :
    let built := spelledAccount (addressText 0xa55e7) [addressText 0x22]
      [addressText 0x22, addressText 0xa55e7]
    let done := SimulatedCall.run id built [.send (spelledTransfer (addressText 0xa55e7))]
    let done' := SimulatedCall.run id built [.send (spelledTransfer upperTarget)]
    List.Forall₂ SameTurn done.2 done'.2 ∧
      ∀ asset asset' account account', SameBytes asset asset' → SameBytes account account' →
        Alike Eq (done.1.getErc20Balance asset account)
          (done'.1.getErc20Balance asset' account') := by
  intro built done done'
  have builds : SimulatedAccount.create (addressText 0xA1)
      (spelledConfig (addressText 0xa55e7) [addressText 0x22]) 100 0 = .ok built := by
    decide +kernel
  have config : SameConfig (spelledConfig (addressText 0xa55e7) [addressText 0x22])
      (spelledConfig (addressText 0xa55e7) [addressText 0x22]) :=
    ⟨sameBytes_addressText _, .cons (sameBytes_addressText _) .nil, rfl, rfl, rfl⟩
  exact spelling_alike id config (sameBytes_addressText _) Iff.rfl (fun _ => Iff.rfl) builds builds
    (.cons (.send sameRequest_spelledTransfer fun _ _ _ _ => Iff.rfl) .nil)

/-- With the asset in lower case a transfer to a stranger is refused; with one letter of the asset in
upper case it goes through, and is no transfer of the asset any more. -/
theorem not_spelling_alike_spelledTransfer :
    SameConfig (spelledConfig (addressText 0xa55e7) []) (spelledConfig upperTarget []) ∧
      SimulatedAccount.create (addressText 0xA1) (spelledConfig (addressText 0xa55e7) []) 100 0 =
        .ok (spelledAccount (addressText 0xa55e7) [] [addressText 0xa55e7]) ∧
      SimulatedAccount.create (addressText 0xA1) (spelledConfig upperTarget []) 100 0 =
        .ok (spelledAccount upperTarget [] [addressText 0xa55e7]) ∧
      ¬ List.Forall₂ SameTurn
        (SimulatedCall.run id (spelledAccount (addressText 0xa55e7) [] [addressText 0xa55e7])
          [.send (spelledTransfer (addressText 0xa55e7))]).2
        (SimulatedCall.run id (spelledAccount upperTarget [] [addressText 0xa55e7])
          [.send (spelledTransfer (addressText 0xa55e7))]).2 := by
  refine ⟨⟨sameRequest_spelledTransfer.toAddress, .nil, rfl, rfl, rfl⟩, by decide +kernel,
    by decide +kernel, fun alike => ?_⟩
  have refused : (SimulatedCall.run id
      (spelledAccount (addressText 0xa55e7) [] [addressText 0xa55e7])
      [.send (spelledTransfer (addressText 0xa55e7))]).2.map SimulatedTurn.throws = [true] := by
    decide +kernel
  have passed : (SimulatedCall.run id (spelledAccount upperTarget [] [addressText 0xa55e7])
      [.send (spelledTransfer (addressText 0xa55e7))]).2.map SimulatedTurn.throws = [false] := by
    decide +kernel
  have same := throws_alike alike
  rw [refused, passed] at same
  cases same

end Sdk

end AgentProof
