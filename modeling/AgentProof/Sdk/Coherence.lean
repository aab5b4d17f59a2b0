import AgentProof.Sdk.Compositional
import AgentProof.Sdk.Readings

/-!
# Coherent intents

The limit policies read the notional, the allowlist the outflow and the
counterparty.  Whatever decoder made an intent, its notional is what its outflow
lists in the tracked asset, and a positive one has its counterparty checked.
-/

namespace AgentProof

namespace Sdk

open Js KeyedSum Calldata UniswapV4

/-- The parts of an intent agree with each other and with its action. -/
structure Coherent (action : Action) (ctx : DecoderContext) (intent : NormalizedIntent) : Prop where
  notional : intent.notionalUSDC = outflowOf intent ctx.trackedAsset
  nonneg : ∀ flow ∈ intent.outflow, 0 ≤ flow.amount
  distinct : (intent.outflow.map AssetAmount.asset).Nodup
  target : intent.target = toLowerCase action.toAddress
  raw : intent.raw = action
  moves : 0 < intent.notionalUSDC → movesValue intent = true
  checked : intent.kind ≠ .unknown → 0 < intent.notionalUSDC →
    ∀ contracts recipients allowUnknownSelectors state,
      ((AllowlistPolicy contracts recipients allowUnknownSelectors).evaluate
        intent state).decision = .allow →
          ∃ counterparty, intent.counterparty = some counterparty ∧
            (counterparty ∈ recipients ∨ counterparty ∈ contracts)

section Coherent

variable {action : Action} {ctx : DecoderContext} {intent : NormalizedIntent}

/-- A positive sum has a positive summand. -/
theorem movesValue_of_pos {asset : Text} (positive : 0 < outflowOf intent asset) :
    movesValue intent = true := by
  rw [movesValue, List.any_eq_true]
  by_contra none
  have small : ∀ flow ∈ intent.outflow, flow.amount ≤ 0 := by
    intro flow mem
    by_contra large
    exact none ⟨flow, mem, decide_eq_true (not_le.mp large)⟩
  rw [outflowOf, total_map] at positive
  have bound := List.sum_le_card_nsmul ((intent.outflow.filter fun flow => flow.asset = asset).map
    AssetAmount.amount) 0 fun amount mem => by
      obtain ⟨flow, kept, rfl⟩ := List.mem_map.mp mem
      exact small flow (List.mem_filter.mp kept).1
  rw [smul_zero] at bound
  exact absurd positive (not_lt.mpr bound)

/-- Where the sum is the notional and somebody is named, the rest follows. -/
theorem Coherent.of_outflow (notional : intent.notionalUSDC = outflowOf intent ctx.trackedAsset)
    (nonneg : ∀ flow ∈ intent.outflow, 0 ≤ flow.amount)
    (distinct : (intent.outflow.map AssetAmount.asset).Nodup)
    (target : normalizeAddress action.toAddress = .ok intent.target) (raw : intent.raw = action)
    (named : intent.kind ≠ .unknown → ∃ counterparty, intent.counterparty = some counterparty) :
    Coherent action ctx intent := by
  have moves : 0 < intent.notionalUSDC → movesValue intent = true := by
    intro positive
    rw [notional] at positive
    exact movesValue_of_pos positive
  refine ⟨notional, nonneg, distinct, ?_, raw, moves, ?_⟩
  · rw [normalizeAddress] at target
    split_ifs at target
    · exact (Except.ok.inj target).symm
    · cases target
  · intro known positive contracts recipients allowUnknownSelectors state allows
    obtain ⟨counterparty, party⟩ := named known
    exact ⟨counterparty, party,
      (allowlist_eq_allow_iff.mp allows).2.2 counterparty party (moves positive)⟩

theorem outflowOf_singleton {asset : Text} {flow : AssetAmount} (single : intent.outflow = [flow]) :
    outflowOf intent asset = if flow.asset = asset then flow.amount else 0 := by
  rw [outflowOf, single, List.map_singleton, total_cons, total_nil, add_zero]

theorem TokenIntent.coherent (read : TokenIntent action ctx intent) :
    Coherent action ctx intent := by
  rcases read.flow with ⟨empty, nothing⟩ | ⟨token, amount, nonneg, flow, notional⟩
  · refine .of_outflow ?_ ?_ ?_ read.target read.raw fun _ => read.counterparty
    · rw [nothing, outflowOf, empty]
      rfl
    · simp [empty]
    · simp [empty]
  · refine .of_outflow ?_ ?_ ?_ read.target read.raw fun _ => read.counterparty
    · rw [notional, outflowOf_singleton flow]
    · simpa [flow] using nonneg
    · simp [flow]

theorem UnboundedIntent.coherent (read : UnboundedIntent action ctx intent) :
    Coherent action ctx intent := by
  refine .of_outflow ?_ ?_ ?_ read.target read.raw fun known => absurd read.kind known
  · rw [read.notional, outflowOf_singleton read.outflow, if_pos rfl]
  · rw [read.outflow]
    intro flow mem
    rw [List.mem_singleton.mp mem]
    exact Int.le_of_lt (by decide : (0 : Int) < UNBOUNDED)
  · simp [read.outflow]

/-- The sentinel of the native asset is not in lower case. -/
theorem native_ne_of_lower {asset : Text} (lower : toLowerCase asset = asset) :
    NATIVE_ASSET ≠ asset := by
  rintro rfl
  exact absurd lower (by decide)

theorem NativeIntent.coherent (lower : toLowerCase ctx.trackedAsset = ctx.trackedAsset)
    (value : 0 ≤ action.value) (read : NativeIntent action intent) :
    Coherent action ctx intent := by
  refine .of_outflow ?_ ?_ ?_ read.target read.raw fun _ => ⟨_, read.counterparty⟩
  · rw [read.notional, outflowOf_singleton read.outflow, if_neg (native_ne_of_lower lower)]
  · simpa [read.outflow] using value
  · simp [read.outflow]

theorem SwapIntent.coherent {stream : CommandStream} {g : UniswapV4.Gathered}
    (read : SwapIntent action ctx intent stream g) : Coherent action ctx intent := by
  have target := read.target
  have nonneg := (sweep_of_readCommands (Grows.refl _) read.gathered).grows
  obtain ⟨tracked, gets, rest⟩ := bind_eq_ok_iff.mp read.built
  obtain ⟨native, -, same⟩ := bind_eq_ok_iff.mp rest
  have covered : 0 ≤ tracked := by
    obtain ⟨key, -, amount⟩ := bind_eq_ok_iff.mp gets
    cases amount
    exact nonneg key
  generalize intent.target = router at target same
  cases same
  have others : ∀ entry ∈ g.outflow.entries.filter fun entry => entry.1 ≠ ctx.trackedAsset,
      0 < entry.2 ∧ entry.1 ≠ ctx.trackedAsset := by
    intro entry kept
    obtain ⟨listed, other⟩ := List.mem_filter.mp kept
    exact ⟨of_decide_eq_true (List.mem_filter.mp listed).2, of_decide_eq_true other⟩
  have absent : ctx.trackedAsset ∉
      (g.outflow.entries.filter fun entry => entry.1 ≠ ctx.trackedAsset).map Prod.fst := by
    intro mem
    obtain ⟨entry, kept, same⟩ := List.mem_map.mp mem
    exact (others entry kept).2 same
  refine .of_outflow ?_ ?_ ?_ target rfl fun _ => ⟨_, rfl⟩
  · rw [outflowOf, List.map_cons, List.map_map, total_cons, if_pos rfl, total_of_not_mem,
      add_zero]
    rw [List.map_map]
    exact absent
  · intro flow mem
    rcases List.mem_cons.mp mem with rfl | mem
    · exact covered
    · obtain ⟨entry, kept, rfl⟩ := List.mem_map.mp mem
      exact (others entry kept).1.le
  · rw [List.map_cons, List.nodup_cons, List.map_map]
    refine ⟨absent, ?_⟩
    have listed : ((g.outflow.byAsset.entries.filter fun entry => entry.2 > 0).filter
        fun entry => entry.1 ≠ ctx.trackedAsset).Sublist g.outflow.byAsset.entries :=
      List.filter_sublist.trans List.filter_sublist
    exact (listed.map Prod.fst).nodup g.outflow.byAsset.nodup

/-- Whatever the default registry makes of a call of non-negative value, in a context whose
tracked asset is in lower case, is coherent. -/
theorem decode_coherent (value : 0 ≤ action.value)
    (lower : toLowerCase ctx.trackedAsset = ctx.trackedAsset)
    (decoded : createDefaultRegistry.decode action ctx = .ok intent) :
    Coherent action ctx intent := by
  cases reading_of_decode decoded with
  | token claimed read => exact read.coherent
  | native read => exact read.coherent lower value
  | swap claimed read => exact read.coherent
  | unbounded read => exact read.coherent

theorem decode_coherent_sampleTransfers :
    createDefaultRegistry.decode (sampleTransfers 0x22) sampleContext = .ok (sampleIntent 0x22) ∧
      Coherent (sampleTransfers 0x22) sampleContext (sampleIntent 0x22) := by
  have decoded : createDefaultRegistry.decode (sampleTransfers 0x22) sampleContext =
      .ok (sampleIntent 0x22) := by decide +kernel
  have lower : toLowerCase sampleContext.trackedAsset = sampleContext.trackedAsset := by
    decide +kernel
  exact ⟨decoded, decode_coherent (le_refl 0) lower decoded⟩

end Coherent

end Sdk

end AgentProof
