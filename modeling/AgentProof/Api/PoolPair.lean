import AgentProof.Api.Requests
import AgentProof.Sdk.PoolProvider
import AgentProof.Sdk.SingleSwap

/-!
# The pair whose pool is read

For a swap the server asks for the pool of the tracked asset and the other asset
of the outflow, or else the counterparty.  The outflow of a single swap is what
it pays, so the token it buys is not there, and the counterparty is the recipient
of what it buys.  The pool is that of the pair traded where the two coincide.
-/

namespace AgentProof

namespace Api

open Sdk Js Calldata UniswapV4 UniswapPoolProvider

/-- `context.poolFor`: nothing where there is no pair, or the subgraph does not answer. -/
def poolFor (postJson : PostPools) (ttlMs : Option Int) (cache : PoolCache) (policy : ResolvedPolicy)
    (intent : NormalizedIntent) (now later : Int) : Option (Option PoolState) :=
  (poolPair policy intent).bind fun pair =>
    (deepestPool postJson ttlMs cache pair.1 pair.2 now later).1.toOption

/-- The pool read is that of the tracked asset and `tokenOut`; so the policy lets the swap pass
where a deep enough one is indexed, and blocks it where none is. -/
structure ChecksPair (policy : ResolvedPolicy) (tokenOut : Text) (intent : NormalizedIntent) :
    Prop where
  queried : ∃ pair, poolPair policy intent = some pair ∧
    pairKey pair.1 pair.2 = pairKey policy.asset tokenOut
  verdict : ∀ (postJson : PostPools) (indexed : List IndexedPool) (ttlMs : Option Int)
    (cache : PoolCache) (now later : Int) (floor : ℚ) (state : PolicyState),
    Indexes postJson indexed → Agrees indexed cache →
      let pool := poolFor postJson ttlMs cache policy intent now later
      let decision := ((PoolLiquidityPolicy floor pool).evaluate intent state).decision
      ((∃ p ∈ indexed, p.Joins (toLowerCase policy.asset) (toLowerCase tokenOut) ∧
        floor ≤ p.state.totalValueLockedUSD) → decision ≠ .block) ∧
      ((∀ p ∈ indexed, ¬ p.Joins (toLowerCase policy.asset) (toLowerCase tokenOut)) →
        decision = .block)

/-- What the server takes for the other side of the pair. -/
def otherSide (s : Swap) : Address :=
  if addressOf s.tokenIn = 0 ∧ 0 < s.amount then nativeSentinel else addressOf s.recipient

section Pairs

variable {policy : ResolvedPolicy} {intent : NormalizedIntent} {tokenOut : Text}

theorem lower_of_isAddress {t : Text} (address : isAddress t = true) :
    toLowerCase t = addressText (addressOf t) := by
  have normal := normalizeAddress_of_isAddress address
  rw [normalizeAddress, if_pos address] at normal
  exact Except.ok.inj normal

theorem colon_not_mem {t : Text} (address : isAddress t = true) : ':' ∉ toLowerCase t := by
  rw [lower_of_isAddress address]
  intro mem
  rcases hex_of_mem_addressText mem with x | hex
  · exact absurd x (by decide)
  · exact absurd hex (by decide)

/-- Where the pair is the one traded, the verdict follows. -/
theorem ChecksPair.of_queried (swap : intent.kind = .swap) (asset : isAddress policy.asset = true)
    (bought : isAddress tokenOut = true)
    (queried : ∃ pair, poolPair policy intent = some pair ∧
      pairKey pair.1 pair.2 = pairKey policy.asset tokenOut) :
    ChecksPair policy tokenOut intent where
  queried := queried
  verdict := by
    intro postJson indexed ttlMs cache now later floor state indexes agrees pool decision
    obtain ⟨pair, asked, key⟩ := queried
    obtain ⟨best, answer, deepest, -⟩ := @deepestPool_spec postJson indexed cache ttlMs pair.1 pair.2
      now later indexes agrees
    have read : pool = some best := by
      show (poolPair policy intent).bind _ = some best
      rw [asked, Option.bind_some, answer]
      rfl
    rw [key] at deepest
    have blocks := poolLiquidity_blocks_iff deepest swap floor state
    rw [← read] at blocks
    have joins (p : IndexedPool) := p.within_pairTokens (colon_not_mem asset) (colon_not_mem bought)
    simp only [joins] at blocks
    refine ⟨fun deep blocked => blocks.mp blocked deep, fun none_ => blocks.mpr ?_⟩
    rintro ⟨p, mem, joined, -⟩
    exact none_ p mem joined

theorem lower_native : toLowerCase NATIVE_ASSET = addressText nativeSentinel := by decide +kernel

/-- Only the zero address is recorded under another name. -/
theorem lower_assetKey {a : Address} (other : a ≠ 0) : toLowerCase (assetKey a) = addressText a := by
  by_cases sentinel : a = nativeSentinel
  · rw [assetKey_of_isNative (.inr sentinel), lower_native, sentinel]
  · have plain : ¬ IsNative a := not_or.mpr ⟨other, sentinel⟩
    rw [assetKey_of_not_isNative plain, toLowerCase_addressText]

/-- The server asks for the other currency of the outflow, or for the recipient. -/
theorem poolPair_of_swap {s : Swap} {amount : Int} (asset : isAddress policy.asset = true)
    (pays : addressOf s.tokenIn = addressOf policy.asset) (swap : intent.kind = .swap)
    (counterparty : intent.counterparty = some (addressText (addressOf s.recipient)))
    (outflow : intent.outflow = ⟨policy.asset, amount, .decoded⟩ ::
      ((swapOutflow s).entries.filter fun entry => entry.1 ≠ policy.asset).map
        fun entry => ⟨entry.1, entry.2, .decoded⟩) :
    ∃ other, poolPair policy intent = some (policy.asset, other) ∧
      toLowerCase other = addressText (otherSide s) := by
  have tracked : toLowerCase policy.asset = addressText (addressOf s.tokenIn) := by
    rw [lower_of_isAddress asset, pays]
  have written : addressText (addressOf s.recipient) ≠ [] := by
    rw [addressText_eq]
    exact List.cons_ne_nil _ _
  rw [poolPair, if_neg (not_not.mpr swap), outflow, counterparty, otherSide, entries_swapOutflow,
    List.find?_cons_of_neg (by simp)]
  split_ifs with positive paysZero paysZero
  · -- the zero address is recorded as the native asset, which the asset is not called
    have other : addressText nativeSentinel ≠ toLowerCase policy.asset := by
      rw [tracked, paysZero.1]
      exact fun same => absurd (addressText_injective same) (by decide)
    rw [← lower_native] at other
    have apart : NATIVE_ASSET ≠ policy.asset := fun same => other (congrArg toLowerCase same)
    refine ⟨NATIVE_ASSET, ?_, lower_native⟩
    rw [assetKey_of_isNative (.inl paysZero.1)]
    simp [apart, other]
    decide
  · have nonzero : addressOf s.tokenIn ≠ 0 := fun zero => paysZero ⟨zero, positive⟩
    refine ⟨addressText (addressOf s.recipient), ?_, toLowerCase_addressText _⟩
    rw [List.find?_eq_none.mpr]
    · dsimp only
      rw [Option.map_none, Option.none_or, Option.bind_some, if_neg written]
    · intro flow mem
      obtain ⟨entry, kept, rfl⟩ := List.mem_map.mp mem
      rw [List.mem_singleton.mp (List.mem_of_mem_filter kept)]
      simp [lower_assetKey nonzero, tracked]
  · exact absurd paysZero.2 positive
  · refine ⟨addressText (addressOf s.recipient), ?_, toLowerCase_addressText _⟩
    rw [List.filter_nil, List.map_nil, List.find?_nil]
    dsimp only
    rw [Option.map_none, Option.none_or, Option.bind_some, if_neg written]

/-- Of a stream of one swap of the tracked asset for another token, the pool that is read is that of
the pair traded, and the verdict is what the pools of that pair make it, exactly when the recipient
is the token bought: or, for the zero address as the asset and a positive amount, when the token
bought is the other name of the native asset. -/
theorem checksPair_iff {M Payload : Type} (o : ServerOptions M Payload) {s : Swap}
    {action : Sdk.Action} {pair : Byte × Text} {policyHash : PolicyDocument → Text}
    {document : PolicyDocument} (resolved : resolvePolicy policyHash document = .ok policy)
    (typed : s.WellTyped) (pays : addressOf s.tokenIn = addressOf policy.asset)
    (router : isAddress action.toAddress = true) (built : s.pair = .ok pair)
    (encoded : encodePairs [pair] = .ok action.data) :
    let engine := buildEngine o policy none
    ∃ intent, engine.decoders.decode action engine.decoderContext = .ok intent ∧
      (ChecksPair policy s.tokenOut intent ↔ otherSide s = addressOf s.tokenOut) := by
  have asset : isAddress policy.asset = true := by
    obtain ⟨address, normal⟩ := normalizeAddress_eq_ok_iff.mp
      (resolves_of_resolvePolicy resolved).asset
    rw [normal]
    exact isAddress_addressText _
  have bought : isAddress s.tokenOut = true := typed.tokenOut
  obtain ⟨intent, amount, decoded, swap, counterparty, outflow⟩ := @decode_of_swap action
    ⟨policy.account, policy.asset⟩ s pair router asset typed built encoded
  obtain ⟨other, asked, side⟩ := poolPair_of_swap asset pays swap counterparty outflow
  have colon : ':' ∉ toLowerCase other := by
    rw [side, ← toLowerCase_addressText]
    exact colon_not_mem (isAddress_addressText _)
  have same : pairKey policy.asset other = pairKey policy.asset s.tokenOut ↔
      otherSide s = addressOf s.tokenOut := by
    rw [pairKey_inj (colon_not_mem asset) colon (colon_not_mem bought), side,
      lower_of_isAddress bought]
    exact addressText_injective.eq_iff
  refine ⟨intent, decoded, ?_, fun equal =>
    .of_queried swap asset bought ⟨_, asked, same.mpr equal⟩⟩
  rintro ⟨⟨queried, found, key⟩, -⟩
  rw [asked] at found
  cases found
  exact same.mp key

end Pairs

/-! ### A swap for another token -/

/-- A swap of 7 of the asset for `0x33`. -/
def tradedSwap (recipient : Address) : Swap :=
  .exactIn 0 ⟨addressText recipient, 7, none, addressText 0xa55e7, addressText 0x33, none⟩

def tradedPair (recipient : Address) : Byte × Text :=
  (0, swapInput recipient.toNat 7 0
    (packedPath (addressText 0xa55e7) (addressText 0x33) none))

theorem resolve_sampleDocument :
    resolvePolicy (sampleServer none).policyHash sampleDocument = .ok samplePolicy := by
  decide +kernel

theorem tradedSwap_typed (recipient : Address) : (tradedSwap recipient).WellTyped :=
  ⟨.inl (by decide), isAddress_addressText _, isAddress_addressText _, isAddress_addressText _,
    (⟨by decide, by decide⟩ : IsWord 7), (⟨by decide, by decide⟩ : IsWord 0)⟩

/-- Sent to the token bought, the swap is checked on its pair. -/
theorem checksPair_tradedSwap : ∃ action intent, encodePairs [tradedPair 0x33] = .ok action.data ∧
    createDefaultRegistry.decode action ⟨samplePolicy.account, samplePolicy.asset⟩ = .ok intent ∧
      ChecksPair samplePolicy (addressText 0x33) intent := by
  have built : (tradedSwap 0x33).pair = .ok (tradedPair 0x33) := by decide +kernel
  obtain ⟨data, encoded⟩ := encodable_iff.mp (show Encodable [tradedPair 0x33] by decide +kernel)
  obtain ⟨intent, decoded, checks⟩ := @checksPair_iff samplePolicy Text Text (sampleServer none)
    (tradedSwap 0x33) ⟨addressText 0x77, data, 0⟩ (tradedPair 0x33) _ _ resolve_sampleDocument
    (tradedSwap_typed 0x33) rfl (isAddress_addressText _) built encoded
  exact ⟨_, intent, encoded, decoded, checks.mpr (by decide +kernel)⟩

/-- Sent to `0x22`, it is checked on the pair of the asset and `0x22`. -/
theorem not_checksPair_tradedSwap : ∃ action intent other,
    encodePairs [tradedPair 0x22] = .ok action.data ∧
      createDefaultRegistry.decode action ⟨samplePolicy.account, samplePolicy.asset⟩ = .ok intent ∧
      poolPair samplePolicy intent = some (samplePolicy.asset, other) ∧
      toLowerCase other = addressText 0x22 ∧
      ¬ ChecksPair samplePolicy (addressText 0x33) intent := by
  have built : (tradedSwap 0x22).pair = .ok (tradedPair 0x22) := by decide +kernel
  have asset : isAddress samplePolicy.asset = true := isAddress_addressText _
  obtain ⟨data, encoded⟩ := encodable_iff.mp (show Encodable [tradedPair 0x22] by decide +kernel)
  obtain ⟨intent, amount, decoded, swap, counterparty, outflow⟩ := @decode_of_swap
    ⟨addressText 0x77, data, 0⟩ ⟨samplePolicy.account, samplePolicy.asset⟩ (tradedSwap 0x22)
    (tradedPair 0x22) (isAddress_addressText _) asset (tradedSwap_typed 0x22) built encoded
  obtain ⟨other, asked, side⟩ := poolPair_of_swap asset rfl swap counterparty outflow
  have recipient : otherSide (tradedSwap 0x22) = 0x22 := by decide +kernel
  rw [recipient] at side
  refine ⟨_, intent, other, encoded, decoded, asked, side, ?_⟩
  rintro ⟨⟨queried, found, key⟩, -⟩
  rw [asked] at found
  cases found
  have colon : ':' ∉ toLowerCase other := by
    rw [side]
    decide +kernel
  rw [pairKey_inj (colon_not_mem asset) colon (by decide +kernel), side] at key
  exact absurd key (by decide +kernel)

end Api

end AgentProof
