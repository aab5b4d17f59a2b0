import AgentProof.Sdk.Transfers

/-!
# The engine and the hook on a transfer

The SDK's engine decides before the transaction, the hook within it.  In every
state an installed account reaches by executions, and with the same limits and
the same lists on both sides, the engine blocks a transfer exactly when the
hook, the token or the measurement afterwards would revert it.
-/

namespace AgentProof

open AgentPolicyHook Sdk Token ExecutionLib

/-- The engine is shown the hook's window, the live balance and the current day. -/
structure LiveState (w : World) (account asset : Address) (state : PolicyState) : Prop where
  dayUtc : state.dayUtc = w.timestamp / 86400
  dailySpend : readOnchainSpend (windowCall (w.hook.window account)) state.dayUtc =
    some state.dailySpend
  balance : state.balance = w.balance asset account

/-- Both sides were given the same limits. -/
structure SameLimits (b : Bounds) (c : Config) : Prop where
  maxTransaction : b.maxTransaction = c.maxTransaction.toNat
  minBalance : b.minBalance = c.minBalance.toNat
  dailySpend : b.dailySpend = c.dailyLimit.toNat

section Shared

variable {w : World} {account recipient : Address} {amount : Uint256} {c : Config}
  {targets : List Address} {state : PolicyState}

/-- The spend the engine is shown is what the window counts today. -/
theorem LiveState.spend_eq (live : LiveState w account c.asset state)
    (serving : Serving account c targets w) (clock : w.timestamp / 86400 < 2 ^ 53) :
    state.dailySpend = ((w.hook.window account).base (dayOf w.timestamp)).toNat := by
  have today : (dayOf w.timestamp).toNat = state.dayUtc := by
    rw [live.dayUtc, dayOf, BitVec.toNat_ofNat]
    omega
  have day := serving.day
  have read := readOnchainSpend_windowCall (w.hook.window account) today (by omega)
  rw [live.dailySpend, Option.some.injEq] at read
  exact read

/-- The stored window never lies ahead of the clock. -/
theorem Serving.forward (serving : Serving account c targets w)
    (clock : w.timestamp / 86400 < 2 ^ 53) :
    (w.hook.window account).day ≤ dayOf w.timestamp := by
  have day := serving.day
  rw [BitVec.le_def, dayOf, BitVec.toNat_ofNat]
  omega

/-- What the hook accepts of an account in service, in the engine's terms. -/
theorem Serving.accepts_iff (serving : Serving account c targets w)
    (live : LiveState w account c.asset state) (clock : w.timestamp / 86400 < 2 ^ 53) :
    Accepts w account recipient amount ↔
      (c.asset ∈ targets ∧ recipient ∈ targets ∧ account ≠ 0 ∧ recipient ≠ 0) ∧
        amount.toNat ≤ w.balance c.asset account ∧
        c.minBalance.toNat ≤ balanceAfter w c.asset account recipient amount ∧
        (recipient = account ∨ amount = 0 ∨ (amount.toNat ≤ c.maxTransaction.toNat ∧
          state.dailySpend + amount.toNat ≤ c.dailyLimit.toNat)) := by
  have config := serving.config
  have spend : SpendAllowed w account recipient amount ↔
      recipient = account ∨ amount = 0 ∨ (amount.toNat ≤ c.maxTransaction.toNat ∧
        state.dailySpend + amount.toNat ≤ c.dailyLimit.toNat) := by
    rw [SpendAllowed, live.spend_eq serving clock, config]
    refine or_congr_right (or_congr_right ?_)
    rw [and_iff_right (serving.forward clock), BitVec.le_def]
    refine and_congr_right fun _ => ?_
    dsimp only
    omega
  rw [← spend]
  constructor
  · intro accepts
    have asset := accepts.asset
    have covered := accepts.covered
    have floor := accepts.floor
    simp only [config] at asset covered floor
    exact ⟨⟨(serving.allowed _).mp asset, (serving.allowed _).mp accepts.counterparty,
      accepts.sender, accepts.nonzero⟩, covered, floor, accepts.spend⟩
  · rintro ⟨⟨asset, listed, sender, nonzero⟩, covered, floor, allowed⟩
    refine ⟨?_, ?_, (serving.allowed _).mpr listed, sender, nonzero, ?_, ?_, allowed⟩
    all_goals simp only [config]
    · exact (serving.allowed _).mpr asset
    · exact covered
    · exact floor

/-- What the engine admits stays within the limits the hook checks. -/
theorem Sdk.Bounds.Admits.within {b : Bounds} (limits : SameLimits b c)
    (admits : b.Admits c.asset recipient amount state)
    (live : LiveState w account c.asset state) :
    amount.toNat ≤ w.balance c.asset account ∧
      c.minBalance.toNat ≤ balanceAfter w c.asset account recipient amount ∧
      amount.toNat ≤ c.maxTransaction.toNat ∧
      state.dailySpend + amount.toNat ≤ c.dailyLimit.toNat := by
  have floor := admits.floor
  have ceiling := admits.ceiling
  have daily := admits.daily
  rw [live.balance, limits.minBalance] at floor
  rw [limits.maxTransaction] at ceiling
  rw [limits.dailySpend] at daily
  have covered : amount.toNat ≤ w.balance c.asset account := by omega
  refine ⟨covered, ?_, by omega, daily⟩
  rw [balanceAfter]
  split_ifs <;> omega

/-- What the hook accepts of a transfer to somebody else, the engine admits. -/
theorem admits_of_accepts {b : Bounds} (limits : SameLimits b c)
    (serving : Serving account c targets w) (live : LiveState w account c.asset state)
    (clock : w.timestamp / 86400 < 2 ^ 53) (other : recipient ≠ account)
    (target : addressText c.asset ∈ b.contracts)
    (counterparty : addressText recipient ∈ b.recipients ∨ addressText recipient ∈ b.contracts)
    (accepts : Accepts w account recipient amount) : b.Admits c.asset recipient amount state := by
  obtain ⟨-, covered, floor, spend⟩ := (serving.accepts_iff live clock).mp accepts
  rw [balanceAfter, if_neg other] at floor
  -- a transfer of nothing is not charged, but the window is within the limit anyway
  have window : state.dailySpend ≤ c.dailyLimit.toNat := by
    have spent := serving.spent
    rw [live.spend_eq serving clock, PolicyLib.Window.base]
    split_ifs
    · omega
    · exact Int.natCast_nonneg _
  have within : amount.toNat ≤ c.maxTransaction.toNat ∧
      state.dailySpend + amount.toNat ≤ c.dailyLimit.toNat := by
    rcases spend with own | none | within
    · exact absurd own other
    · subst none
      exact ⟨Nat.zero_le _, by simpa using window⟩
    · exact within
  refine ⟨target, fun _ => counterparty, ?_, ?_, ?_⟩
  · rw [limits.maxTransaction]
    omega
  · rw [limits.minBalance, live.balance]
    omega
  · rw [limits.dailySpend]
    exact within.2

end Shared

/-- The engine over the four checks that block, with the default decoders. -/
def blockingEngine (b : Bounds) (account asset : Address) : PolicyEngineOptions where
  decoders := createDefaultRegistry
  policies := b.policies false
  decoderContext := ⟨addressText account, addressText asset⟩

/-- The engine and the hook agree on every transfer to a listed recipient. -/
theorem verdicts_agree {w : World} {account recipient : Address} {amount : Uint256} {c : Config}
    {targets : List Address} {contracts recipients : List Text} {b : Bounds} {state : PolicyState}
    {installData calldata : Bytes} {msgData : CalldataBytes} (value : Int)
    (decodes : decodeInstallData installData = .ok (c, targets))
    (reached : ReachedFrom account installData w)
    (limits : SameLimits b c)
    (contractsBuilt : addressSet (contracts ++ [addressText c.asset]) = .ok b.contracts)
    (recipientsBuilt : addressSet recipients = .ok b.recipients)
    (targetsBuilt : ∀ t, t ∈ targets ↔ t ∈ contracts.map addressOf ∨ t ∈ recipients.map addressOf ∨
      t = c.asset)
    (live : LiveState w account c.asset state) (clock : w.timestamp / 86400 < 2 ^ 53)
    (deployed : account ≠ 0) (nonzero : recipient ≠ 0) (other : recipient ≠ account)
    (listed : recipient ∈ contracts.map addressOf ∨ recipient ∈ recipients.map addressOf)
    (encodes : encodeErc20Transfer (addressText recipient) amount.toNat =
      .ok (bytesToHex calldata))
    (shown : Shows msgData c.asset calldata) :
    ∃ decision, (blockingEngine b account c.asset).decision
        ⟨addressText c.asset, bytesToHex calldata, value⟩ state = .ok decision ∧
      (decision ≠ .block ↔
        Succeeds (executeToken ⟨account, msgData⟩ c.asset calldata) w) := by
  have serving := serving_of_reached reached decodes
  have calldata_eq : calldata = encodeCall transferSelector [recipient.setWidth 256, amount] := by
    rw [encodeErc20Transfer_eq, Except.ok.injEq] at encodes
    exact (bytesToHex_injective encodes).symm
  have transfer : IsTransfer calldata recipient amount := by
    rw [calldata_eq]
    exact isTransfer_encodeCall recipient amount
  have decoded := @decode_transfer _ _ _ ⟨addressText c.asset, bytesToHex calldata, value⟩
    transfer (isAddress_addressText c.asset) rfl ⟨addressText account, addressText c.asset⟩
  rw [addressOf_addressText] at decoded
  refine ⟨_, bind_eq_ok_iff.mpr ⟨_, bind_eq_ok_iff.mpr ⟨_, decoded, rfl⟩, rfl⟩, ?_⟩
  have target : addressText c.asset ∈ b.contracts := by
    rw [mem_addressSet contractsBuilt]
    simp
  have counterparty : addressText recipient ∈ b.recipients ∨
      addressText recipient ∈ b.contracts := by
    rw [mem_addressSet recipientsBuilt, mem_addressSet contractsBuilt, List.map_append]
    rcases listed with inContracts | inRecipients
    · exact .inr (List.mem_append_left _ inContracts)
    · exact .inl inRecipients
  rw [executeTransfer_succeeds_iff transfer (by rw [serving.config]) shown]
  refine (evaluate_transfer_ne_block_iff rfl).trans ⟨fun admits => ?_, fun accepts => ?_⟩
  · obtain ⟨covered, floor, ceiling, daily⟩ := admits.within limits live
    have assetTarget : c.asset ∈ targets := (targetsBuilt _).mpr (.inr (.inr rfl))
    have recipientTarget : recipient ∈ targets :=
      (targetsBuilt _).mpr (listed.imp_right .inl)
    exact (serving.accepts_iff live clock).mpr
      ⟨⟨assetTarget, recipientTarget, deployed, nonzero⟩, covered, floor,
        .inr (.inr ⟨ceiling, daily⟩)⟩
  · exact admits_of_accepts limits serving live clock other target counterparty accepts

/-! ### A sample policy -/

/-- The payments of one day after the sample account installed with a router,
a payee and the asset. -/
def samplePaid : World :=
  let calldata := encodeCall transferSelector [(0x22 : Address).setWidth 256, 60]
  (run [.tick 86400, .tx (executeToken ⟨sampleAccount, tokenMsgData sampleAsset calldata⟩
    sampleAsset calldata)] ((World.deployed sampleTokens 0).install sampleAccount sampleConfig
      [0x77, 0x22, sampleAsset])).1

def sampleBounds : Bounds where
  contracts := [addressText 0x77, addressText sampleAsset]
  recipients := [addressText 0x22]
  maxTransaction := 100
  minBalance := 10
  dailySpend := 500

def samplePaidState : PolicyState where
  account := addressText sampleAccount
  dayUtc := 1
  dailySpend := 60
  balance := 940
  asset := addressText sampleAsset

theorem samplePaid_reached :
    ReachedFrom sampleAccount (encodeInstallData sampleConfig [0x77, 0x22, sampleAsset])
      samplePaid :=
  reachedFrom_of_run (decodeInstallData_encodeInstallData _ (by norm_num)) _ _ _ (by decide +kernel)

theorem samplePaid_live : LiveState samplePaid sampleAccount sampleAsset samplePaidState :=
  ⟨by decide +kernel, by decide +kernel, by decide +kernel⟩

/-- A second payment, after one of 60 on the same day. -/
theorem verdicts_agree_samplePaid :
    ∃ decision, (blockingEngine sampleBounds sampleAccount sampleAsset).decision
        ⟨addressText sampleAsset,
          bytesToHex (encodeCall transferSelector [(0x22 : Address).setWidth 256, 30]), 0⟩
        samplePaidState = .ok decision ∧
      (decision ≠ .block ↔
        Succeeds (executeToken ⟨sampleAccount, tokenMsgData sampleAsset
          (encodeCall transferSelector [(0x22 : Address).setWidth 256, 30])⟩ sampleAsset
          (encodeCall transferSelector [(0x22 : Address).setWidth 256, 30])) samplePaid) := by
  have targetsBuilt (t : Address) : t ∈ [(0x77 : Address), 0x22, sampleAsset] ↔
      t ∈ [addressText 0x77].map addressOf ∨ t ∈ [addressText 0x22].map addressOf ∨
        t = sampleConfig.asset := by
    simp [sampleConfig]
  exact @verdicts_agree samplePaid sampleAccount 0x22 30 sampleConfig [0x77, 0x22, sampleAsset]
    [addressText 0x77] [addressText 0x22] sampleBounds samplePaidState _ _ _ 0
    (decodeInstallData_encodeInstallData _ (by norm_num)) samplePaid_reached ⟨rfl, rfl, rfl⟩
    (by decide +kernel) (by decide +kernel) targetsBuilt samplePaid_live (by decide +kernel)
    (by decide) (by decide) (by decide) (.inr (by simp)) (encodeErc20Transfer_eq 0x22 30)
    (shows_tokenMsgData sampleAsset (by simp))

end AgentProof
