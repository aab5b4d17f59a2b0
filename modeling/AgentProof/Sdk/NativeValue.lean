import AgentProof.Sdk.Coherence

/-!
# Attached value

Every decoder lists what the call's arguments move.  The value attached to the
call is listed where it is all that moves; the router's decoder lists what the
commands pay in the native asset, and the token decoders list none of it.
-/

namespace AgentProof

namespace Sdk

open Js KeyedSum UniswapV4

/-- The attached value is part of the outflow, and so the counterparty is checked. -/
structure ListsValue (action : Action) (intent : NormalizedIntent) : Prop where
  listed : ∃ flow ∈ intent.outflow, flow.asset = NATIVE_ASSET ∧ action.value ≤ flow.amount
  moves : movesValue intent = true
  checked : ∀ contracts recipients allowUnknownSelectors state,
    ((AllowlistPolicy contracts recipients allowUnknownSelectors).evaluate
      intent state).decision = .allow →
        ∃ counterparty, intent.counterparty = some counterparty ∧
          (counterparty ∈ recipients ∨ counterparty ∈ contracts)

/-- The commands of a router call pay at least the attached value in the native asset. -/
def PaysValue (action : Action) : Prop :=
  toLowerCase (selectorOf action.data) ∈ uniswapV4Decoder.selectors ∧
    ∃ stream pay, streamOf action = .ok stream ∧
      paymentsOf (stream.commands.zip stream.inputs) = some pay ∧
      action.value ≤ total pay NATIVE_ASSET

section Listed

variable {action : Action} {ctx : DecoderContext} {intent : NormalizedIntent}

/-- Where somebody is named, listing the value is enough. -/
theorem listsValue_iff (attached : 0 < action.value)
    (named : ∃ counterparty, intent.counterparty = some counterparty) :
    ListsValue action intent ↔
      ∃ flow ∈ intent.outflow, flow.asset = NATIVE_ASSET ∧ action.value ≤ flow.amount := by
  refine ⟨ListsValue.listed, fun listed => ?_⟩
  obtain ⟨flow, mem, -, covers⟩ := id listed
  have moves : movesValue intent = true :=
    List.any_eq_true.mpr ⟨flow, mem, decide_eq_true (attached.trans_le covers)⟩
  refine ⟨listed, moves, fun contracts recipients allowUnknownSelectors state allows => ?_⟩
  obtain ⟨counterparty, party⟩ := named
  exact ⟨counterparty, party, (allowlist_eq_allow_iff.mp allows).2.2 counterparty party moves⟩

theorem claimant_router {selector : Text} (listed : selector ∈ uniswapV4Decoder.selectors) :
    claimant selector = some uniswapV4Decoder := by
  have apart : ∀ selector ∈ uniswapV4Decoder.selectors, selector ∉ erc20Decoder.selectors := by
    decide
  rw [claimant, if_neg (apart selector listed), if_pos listed]

/-- No token decoder claims the router's selectors. -/
theorem not_paysValue_of_token (claimed : claimant (toLowerCase (selectorOf action.data)) =
      some erc20Decoder ∨ claimant (toLowerCase (selectorOf action.data)) = some x402Decoder) :
    ¬ PaysValue action := by
  rintro ⟨router, -⟩
  rw [claimant_router router] at claimed
  have named : uniswapV4Decoder.name = erc20Decoder.name ∨
      uniswapV4Decoder.name = x402Decoder.name :=
    claimed.imp (fun same => congrArg _ (Option.some.inj same))
      fun same => congrArg _ (Option.some.inj same)
  revert named
  decide

/-- A token's flow is under the token's address, never under the sentinel. -/
theorem TokenIntent.not_listsValue (read : TokenIntent action ctx intent) :
    ¬ ListsValue action intent := by
  intro lists
  obtain ⟨flow, mem, native, -⟩ := lists.listed
  rcases read.flow with ⟨empty, -⟩ | ⟨token, amount, -, single, -⟩
  · rw [empty] at mem
    cases mem
  · rw [single, List.mem_singleton] at mem
    rw [mem] at native
    exact addressText_ne_native token native

theorem NativeIntent.listsValue (attached : 0 < action.value) (read : NativeIntent action intent) :
    ListsValue action intent := by
  refine (listsValue_iff attached ⟨_, read.counterparty⟩).mpr
    ⟨⟨NATIVE_ASSET, action.value, .decoded⟩, ?_, rfl, le_rfl⟩
  rw [read.outflow]
  exact List.mem_cons_self

/-- A positive amount is listed under a key exactly when it is recorded there. -/
theorem exists_entry_iff {o : Outflow} {key : Text} {amount : Int} (positive : 0 < amount) :
    (∃ entry ∈ o.entries, entry.1 = key ∧ amount ≤ entry.2) ↔ amount ≤ o.amountAt key := by
  constructor
  · rintro ⟨⟨key', recorded⟩, mem, rfl, covers⟩
    have found := o.byAsset.get_eq_some_iff.mpr (List.mem_filter.mp mem).1
    rw [Outflow.amountAt, found]
    exact covers
  · intro covers
    rw [Outflow.amountAt] at covers
    cases found : o.byAsset.get key with
    | none =>
        rw [found] at covers
        exact absurd positive (not_lt.mpr covers)
    | some recorded =>
        rw [found] at covers
        exact ⟨(key, recorded), List.mem_filter.mpr ⟨o.byAsset.get_eq_some_iff.mp found,
          decide_eq_true (positive.trans_le covers)⟩, rfl, covers⟩

theorem SwapIntent.listsValue_iff {stream : CommandStream} {g : UniswapV4.Gathered}
    (attached : 0 < action.value) (read : SwapIntent action ctx intent stream g) :
    ListsValue action intent ↔ action.value ≤ g.outflow.amountAt NATIVE_ASSET := by
  obtain ⟨tracked, gets, rest⟩ := bind_eq_ok_iff.mp read.built
  obtain ⟨native, -, same⟩ := bind_eq_ok_iff.mp rest
  obtain ⟨key, canonical, amount⟩ := bind_eq_ok_iff.mp gets
  cases amount
  generalize intent.target = router at same
  cases same
  -- the tracked asset may be the native one, and is then listed first
  have tracks (here : ctx.trackedAsset = NATIVE_ASSET) : key = NATIVE_ASSET := by
    have fixed : canonicalAsset NATIVE_ASSET = .ok NATIVE_ASSET := by decide +kernel
    rw [here, fixed] at canonical
    exact (Except.ok.inj canonical).symm
  rw [Sdk.listsValue_iff attached ⟨_, rfl⟩]
  constructor
  · rintro ⟨flow, mem, native, covers⟩
    rcases List.mem_cons.mp mem with rfl | mem
    · rwa [tracks native] at covers
    · obtain ⟨entry, kept, rfl⟩ := List.mem_map.mp mem
      exact (exists_entry_iff attached).mp
        ⟨entry, (List.mem_filter.mp kept).1, native, covers⟩
  · intro covers
    by_cases here : ctx.trackedAsset = NATIVE_ASSET
    · rw [← tracks here] at covers
      exact ⟨_, List.mem_cons_self, here, covers⟩
    · obtain ⟨entry, mem, native, covers⟩ := (exists_entry_iff attached).mpr covers
      have other : entry.1 ≠ ctx.trackedAsset := by
        rw [native]
        exact Ne.symm here
      refine ⟨⟨entry.1, entry.2, .decoded⟩, List.mem_cons_of_mem _ ?_, native, covers⟩
      exact List.mem_map.mpr
        ⟨entry, List.mem_filter.mpr ⟨mem, decide_eq_true other⟩, rfl⟩

/-- What the command loop records of the native asset is what the commands pay of it. -/
theorem SwapIntent.paysValue_iff {stream : CommandStream} {g : UniswapV4.Gathered}
    (claimed : claimant (toLowerCase (selectorOf action.data)) = some uniswapV4Decoder)
    (read : SwapIntent action ctx intent stream g) :
    PaysValue action ↔ action.value ≤ g.outflow.amountAt NATIVE_ASSET := by
  obtain ⟨final, pay, -, pays, same⟩ := readCommands_eq_ok_iff.mp read.gathered
  cases same
  rw [Outflow.amountAt_addAll, Outflow.amountAt_empty, zero_add]
  constructor
  · rintro ⟨-, stream', pay', streamed, pays', covers⟩
    rw [read.streamed] at streamed
    cases streamed
    rw [pays] at pays'
    cases pays'
    exact covers
  · intro covers
    refine ⟨?_, stream, pay, read.streamed, pays, covers⟩
    rw [claimant] at claimed
    split_ifs at claimed with erc20 router x402
    · exact absurd (congrArg SelectorDecoder.name (Option.some.inj claimed)) (by decide)
    · exact router
    · exact absurd (congrArg SelectorDecoder.name (Option.some.inj claimed)) (by decide)

/-- The value attached to a call that was read is part of its outflow exactly when the call is a bare
transfer, or one of the router whose commands pay at least as much of the native asset. -/
theorem listsValue_of_decode_iff (decoded : createDefaultRegistry.decode action ctx = .ok intent)
    (attached : 0 < action.value) (known : intent.kind ≠ .unknown) :
    ListsValue action intent ↔ action.data.length ≤ 2 ∨ PaysValue action := by
  cases reading_of_decode decoded with
  | token claimed read =>
      have long : ¬ action.data.length ≤ 2 := by
        have ten : 10 ≤ action.data.length := claimed.elim long_of_claimed long_of_claimed
        omega
      exact iff_of_false read.not_listsValue fun covered =>
        covered.elim long (not_paysValue_of_token claimed)
  | native read => exact iff_of_true (read.listsValue attached) (.inl read.short)
  | swap claimed read =>
      have ten := long_of_claimed claimed
      rw [read.listsValue_iff attached, read.paysValue_iff claimed, or_iff_right (by omega)]
  | unbounded read => exact absurd read.kind known

end Listed

/-! ### A bare transfer and a funded one -/

/-- Ether for `0x22`, as a bare transfer. -/
def bareTransfer : Action where
  toAddress := addressText 0x22
  data := "0x".toList
  value := 10 ^ 18

/-- The same ether attached to a token transfer of nothing. -/
def fundedTransfer : Action where
  toAddress := addressText 0xa55e7
  data := SELECTOR_TRANSFER ++ wordText 0x22 ++ wordText 0
  value := 10 ^ 18

theorem listsValue_of_decode_bareTransfer :
    ∃ intent, createDefaultRegistry.decode bareTransfer sampleContext = .ok intent ∧
      ListsValue bareTransfer intent := by
  have read : (createDefaultRegistry.decode bareTransfer sampleContext).toOption.any
      fun intent => intent.kind ≠ .unknown := by decide +kernel
  obtain ⟨intent, decoded, known⟩ := (Option.any_eq_true _ _).mp read
  have decoded := toOption_eq_some_iff.mp decoded
  exact ⟨intent, decoded, (listsValue_of_decode_iff decoded (by decide)
    (of_decide_eq_true known)).mpr (.inl (by decide))⟩

/-- The ether is not in the outflow, nothing is said to move, and nobody asks for whom it is. -/
theorem not_listsValue_fundedTransfer :
    ∃ intent, createDefaultRegistry.decode fundedTransfer sampleContext = .ok intent ∧
      0 < fundedTransfer.value ∧ intent.kind ≠ .unknown ∧ movesValue intent = false ∧
      ¬ ListsValue fundedTransfer intent := by
  have read : (createDefaultRegistry.decode fundedTransfer sampleContext).toOption.any
      fun intent => intent.kind ≠ .unknown ∧ movesValue intent = false := by decide +kernel
  obtain ⟨intent, decoded, known⟩ := (Option.any_eq_true _ _).mp read
  obtain ⟨known, still⟩ := of_decide_eq_true known
  refine ⟨intent, toOption_eq_some_iff.mp decoded, by decide, known, still, fun lists => ?_⟩
  have moves := lists.moves
  rw [still] at moves
  cases moves

end Sdk

end AgentProof
