import AgentProof.Sdk.Registry
import AgentProof.Sdk.RouterRecipients

/-!
# What an action is read as

The default registry asks the decoder that claims the selector, and only calldata
too short for a selector reaches the native one.  The intent it gives is a
token's, a native transfer, a stream read to its end, or unbounded.
-/

namespace AgentProof

namespace Sdk

open Js UniswapV4

/-! ## Who is asked -/

/-- The decoder registered for a selector in lower case. -/
def claimant (selector : Text) : Option SelectorDecoder :=
  if selector ∈ erc20Decoder.selectors then some erc20Decoder
  else if selector ∈ uniswapV4Decoder.selectors then some uniswapV4Decoder
  else if selector ∈ x402Decoder.selectors then some x402Decoder
  else none

theorem createDefaultRegistry_get (selector : Text) :
    createDefaultRegistry.bySelector.get selector = claimant selector := by
  have entries : createDefaultRegistry.bySelector.entries =
      (erc20Decoder.selectors.map fun claimed => (claimed, erc20Decoder)) ++
        ((uniswapV4Decoder.selectors.map fun claimed => (claimed, uniswapV4Decoder)) ++
          ((x402Decoder.selectors.map fun claimed => (claimed, x402Decoder)) ++ [])) := by
    rfl
  rw [OrderedMap.get, entries, OrderedMap.lookup_map_append, OrderedMap.lookup_map_append,
    OrderedMap.lookup_map_append, claimant]
  split_ifs <;> rfl

theorem createDefaultRegistry_wildcards : createDefaultRegistry.wildcards = [nativeDecoder] := by
  rfl

/-- Only whole selectors are claimed. -/
theorem long_of_claimed {data : Text} {decoder : SelectorDecoder}
    (claimed : claimant (toLowerCase (selectorOf data)) = some decoder) : 10 ≤ data.length := by
  by_contra short
  rw [selectorOf, if_neg short] at claimed
  have nobody : claimant (toLowerCase "0x".toList) = none := by decide +kernel
  rw [nobody] at claimed
  cases claimed

/-- The intent of an action that nobody reads. -/
def unreadIntent (action : Action) (ctx : DecoderContext) (target : Text) : NormalizedIntent where
  kind := .unknown
  target := target
  selector := selectorOf action.data
  nativeValue := action.value
  outflow := [⟨ctx.trackedAsset, UNBOUNDED, .declared⟩]
  counterparty := none
  notionalUSDC := UNBOUNDED
  summary := "Unrecognised call ".toList ++ selectorOf action.data ++ " to ".toList ++
    action.toAddress
  raw := action

section Registry

variable {action : Action} {ctx : DecoderContext}

/-- What the registry makes of a decoder's answer. -/
def settle (action : Action) (ctx : DecoderContext) :
    Option NormalizedIntent → Except JsError NormalizedIntent
  | some intent => .ok intent
  | none => do
      let target ← normalizeAddress action.toAddress
      .ok (unreadIntent action ctx target)

theorem decode_of_claimed {decoder : SelectorDecoder}
    (claimed : claimant (toLowerCase (selectorOf action.data)) = some decoder) :
    createDefaultRegistry.decode action ctx = (do
      let answer ← decoder.decode action ctx
      settle action ctx answer) := by
  have long := long_of_claimed claimed
  have declines : nativeDecoder.decode action ctx = .ok none := if_pos (.inl (by omega))
  rw [DecoderRegistry.decode, createDefaultRegistry_get, claimed, createDefaultRegistry_wildcards]
  simp only [Option.toList_some, List.singleton_append, DecoderRegistry.firstIntent, declines]
  cases decoder.decode action ctx with
  | error e => rfl
  | ok answer =>
      cases answer with
      | none => rfl
      | some intent => rfl

theorem decode_of_unclaimed (claimed : claimant (toLowerCase (selectorOf action.data)) = none) :
    createDefaultRegistry.decode action ctx = (do
      let answer ← nativeDecoder.decode action ctx
      settle action ctx answer) := by
  rw [DecoderRegistry.decode, createDefaultRegistry_get, claimed, createDefaultRegistry_wildcards]
  simp only [Option.toList_none, List.nil_append, DecoderRegistry.firstIntent]
  cases nativeDecoder.decode action ctx with
  | error e => rfl
  | ok answer =>
      cases answer with
      | none => rfl
      | some intent => rfl

end Registry

/-! ## The intents -/

/-- An intent of at most one flow, of a token. -/
structure TokenIntent (action : Action) (ctx : DecoderContext) (intent : NormalizedIntent) :
    Prop where
  kind : intent.kind = .transfer ∨ intent.kind = .approve ∨ intent.kind = .x402Payment
  target : normalizeAddress action.toAddress = .ok intent.target
  raw : intent.raw = action
  nativeValue : intent.nativeValue = action.value
  counterparty : ∃ counterparty, intent.counterparty = some counterparty
  flow : intent.outflow = [] ∧ intent.notionalUSDC = 0 ∨
    ∃ (token : Address) (amount : Int), 0 ≤ amount ∧
      intent.outflow = [⟨addressText token, amount, .decoded⟩] ∧
      intent.notionalUSDC = if addressText token = ctx.trackedAsset then amount else 0

/-- An intent without a bound. -/
structure UnboundedIntent (action : Action) (ctx : DecoderContext) (intent : NormalizedIntent) :
    Prop where
  kind : intent.kind = .unknown
  target : normalizeAddress action.toAddress = .ok intent.target
  raw : intent.raw = action
  nativeValue : intent.nativeValue = action.value
  outflow : intent.outflow = [⟨ctx.trackedAsset, UNBOUNDED, .declared⟩]
  notional : intent.notionalUSDC = UNBOUNDED

/-- A bare transfer of native value. -/
structure NativeIntent (action : Action) (intent : NormalizedIntent) : Prop where
  short : action.data.length ≤ 2
  kind : intent.kind = .nativeTransfer
  target : normalizeAddress action.toAddress = .ok intent.target
  raw : intent.raw = action
  counterparty : intent.counterparty = some intent.target
  outflow : intent.outflow = [⟨NATIVE_ASSET, action.value, .decoded⟩]
  notional : intent.notionalUSDC = 0

/-- An intent of a router call whose stream was read to its end. -/
structure SwapIntent (action : Action) (ctx : DecoderContext) (intent : NormalizedIntent)
    (stream : CommandStream) (g : UniswapV4.Gathered) : Prop where
  streamed : streamOf action = .ok stream
  gathered : readCommands ⟨.empty, none⟩ (stream.commands.zip stream.inputs) = .ok g
  target : normalizeAddress action.toAddress = .ok intent.target
  built : swapIntent action ctx intent.target (selectorOf action.data) g = .ok intent

/-- What an action may be read as, and by whom. -/
inductive Reading (action : Action) (ctx : DecoderContext) (intent : NormalizedIntent) : Prop
  | token (claimed : claimant (toLowerCase (selectorOf action.data)) = some erc20Decoder ∨
      claimant (toLowerCase (selectorOf action.data)) = some x402Decoder)
      (read : TokenIntent action ctx intent)
  | native (read : NativeIntent action intent)
  | swap {stream : CommandStream} {g : UniswapV4.Gathered}
      (claimed : claimant (toLowerCase (selectorOf action.data)) = some uniswapV4Decoder)
      (read : SwapIntent action ctx intent stream g)
  | unbounded (read : UnboundedIntent action ctx intent)

section Decoders

variable {action : Action} {ctx : DecoderContext} {intent : NormalizedIntent}

/-- An address argument is the text of an address. -/
theorem readAddress_eq_ok {data : Text} {index : Nat} {address : Text}
    (read : readAddress data index = .ok address) : ∃ a, address = addressText a := by
  obtain ⟨value, -, normal⟩ := bind_eq_ok_iff.mp read
  exact ⟨_, normalizeAddress_eq_ok normal⟩

theorem approvalOutflow_nonneg (amount : Nat) : 0 ≤ approvalOutflow amount := by
  unfold approvalOutflow
  split_ifs
  · decide
  · exact Int.natCast_nonneg amount

theorem erc20Decoder_tokenIntent (decoded : erc20Decoder.decode action ctx = .ok (some intent)) :
    TokenIntent action ctx intent := by
  simp only [erc20Decoder, bind_eq_ok_iff] at decoded
  obtain ⟨asset, normal, decoded⟩ := decoded
  have token : asset = addressText (addressOf asset) := normalizeAddress_eq_ok normal
  split_ifs at decoded
  · simp only [decodeTransfer, bind_eq_ok_iff, Except.ok.injEq, Option.some.injEq] at decoded
    obtain ⟨dst, -, _, ⟨amount, -, ⟨⟩⟩, rfl⟩ := decoded
    refine ⟨.inl rfl, normal, rfl, rfl, ⟨dst, rfl⟩, .inr ⟨addressOf asset, amount, ?_⟩⟩
    rw [← token]
    exact ⟨Int.natCast_nonneg amount, rfl, rfl⟩
  · simp only [decodeTransferFrom, bind_eq_ok_iff, Except.ok.injEq, Option.some.injEq] at decoded
    obtain ⟨src, -, dst, -, _, ⟨amount, -, ⟨⟩⟩, rfl⟩ := decoded
    refine ⟨.inl rfl, normal, rfl, rfl, ⟨dst, rfl⟩, ?_⟩
    by_cases ours : src = ctx.account
    · refine .inr ⟨addressOf asset, amount, ?_⟩
      rw [← token]
      simp only [ours, if_true, and_true]
      exact Int.natCast_nonneg amount
    · refine .inl ⟨if_neg ours, if_neg fun both => ours both.2⟩
  · simp only [decodeApprove, bind_eq_ok_iff, Except.ok.injEq, Option.some.injEq] at decoded
    obtain ⟨spender, -, _, ⟨amount, -, ⟨⟩⟩, rfl⟩ := decoded
    refine ⟨.inr (.inl rfl), normal, rfl, rfl, ⟨spender, rfl⟩,
      .inr ⟨addressOf asset, approvalOutflow amount, ?_⟩⟩
    rw [← token]
    exact ⟨approvalOutflow_nonneg amount, rfl, rfl⟩
  · simp only [decodePermit2Approve, bind_eq_ok_iff, Except.ok.injEq, Option.some.injEq] at decoded
    obtain ⟨token, read, spender, -, _, ⟨amount, -, ⟨⟩⟩, rfl⟩ := decoded
    obtain ⟨t, rfl⟩ := readAddress_eq_ok read
    exact ⟨.inr (.inl rfl), normal, rfl, rfl, ⟨spender, rfl⟩,
      .inr ⟨t, approvalOutflow amount, approvalOutflow_nonneg amount, rfl, rfl⟩⟩
  · cases decoded

theorem x402Decoder_tokenIntent (decoded : x402Decoder.decode action ctx = .ok (some intent)) :
    TokenIntent action ctx intent := by
  simp only [x402Decoder] at decoded
  split_ifs at decoded
  · cases decoded
  · simp only [bind_eq_ok_iff, Except.ok.injEq, Option.some.injEq] at decoded
    obtain ⟨token, read, payTo, -, _, ⟨amount, -, ⟨⟩⟩, target, normal, rfl⟩ := decoded
    obtain ⟨t, rfl⟩ := readAddress_eq_ok read
    exact ⟨.inr (.inr rfl), normal, rfl, rfl, ⟨payTo, rfl⟩,
      .inr ⟨t, amount, Int.natCast_nonneg amount, rfl, rfl⟩⟩

theorem nativeDecoder_nativeIntent (decoded : nativeDecoder.decode action ctx = .ok (some intent)) :
    NativeIntent action intent := by
  simp only [nativeDecoder] at decoded
  split_ifs at decoded with declines
  · cases decoded
  · simp only [bind_eq_ok_iff, Except.ok.injEq, Option.some.injEq] at decoded
    obtain ⟨dst, normal, rfl⟩ := decoded
    rw [not_or, not_lt] at declines
    exact ⟨declines.1, rfl, normal, rfl, rfl, rfl, rfl⟩

/-- A router call is unbounded, or its stream was read to the end. -/
theorem uniswapV4Decoder_cases (decoded : uniswapV4Decoder.decode action ctx = .ok (some intent)) :
    UnboundedIntent action ctx intent ∨ ∃ stream g, SwapIntent action ctx intent stream g := by
  change UniswapV4.decode action ctx = _ at decoded
  rw [UniswapV4.decode] at decoded
  obtain ⟨router, normal, decoded⟩ := bind_eq_ok_iff.mp decoded
  dsimp only at decoded
  split at decoded
  · cases decoded
    exact .inl ⟨rfl, normal, rfl, rfl, rfl, rfl⟩
  · next stream streamed =>
      split at decoded
      · cases decoded
        exact .inl ⟨rfl, normal, rfl, rfl, rfl, rfl⟩
      · next g gathered =>
          obtain ⟨swap, built, same⟩ := bind_eq_ok_iff.mp decoded
          cases same
          have target : intent.target = router := by
            obtain ⟨tracked, -, rest⟩ := bind_eq_ok_iff.mp built
            obtain ⟨native, -, rest⟩ := bind_eq_ok_iff.mp rest
            cases rest
            rfl
          rw [← target] at normal built
          exact .inr ⟨stream, g, streamed, gathered, normal, built⟩

theorem eq_of_claimant {selector : Text} {decoder : SelectorDecoder}
    (claimed : claimant selector = some decoder) :
    decoder = erc20Decoder ∨ decoder = uniswapV4Decoder ∨ decoder = x402Decoder := by
  rw [claimant] at claimed
  split_ifs at claimed
  · exact .inl (Option.some.inj claimed).symm
  · exact .inr (.inl (Option.some.inj claimed).symm)
  · exact .inr (.inr (Option.some.inj claimed).symm)

/-- An intent is the answer of the decoder asked, or that of nobody. -/
theorem answer_of_decode (decoded : createDefaultRegistry.decode action ctx = .ok intent) :
    (∃ decoder, claimant (toLowerCase (selectorOf action.data)) = some decoder ∧
        decoder.decode action ctx = .ok (some intent)) ∨
      nativeDecoder.decode action ctx = .ok (some intent) ∨
      ∃ target, normalizeAddress action.toAddress = .ok target ∧
        intent = unreadIntent action ctx target := by
  have settled (answer : Option NormalizedIntent) (settles : settle action ctx answer = .ok intent) :
      answer = some intent ∨ ∃ target, normalizeAddress action.toAddress = .ok target ∧
        intent = unreadIntent action ctx target := by
    cases answer with
    | some given =>
        cases settles
        exact .inl rfl
    | none =>
        obtain ⟨target, normal, same⟩ := bind_eq_ok_iff.mp settles
        cases same
        exact .inr ⟨target, normal, rfl⟩
  cases claimed : claimant (toLowerCase (selectorOf action.data)) with
  | none =>
      rw [decode_of_unclaimed claimed] at decoded
      obtain ⟨answer, asked, settles⟩ := bind_eq_ok_iff.mp decoded
      rcases settled answer settles with rfl | unread
      · exact .inr (.inl asked)
      · exact .inr (.inr unread)
  | some decoder =>
      rw [decode_of_claimed claimed] at decoded
      obtain ⟨answer, asked, settles⟩ := bind_eq_ok_iff.mp decoded
      rcases settled answer settles with rfl | unread
      · exact .inl ⟨decoder, rfl, asked⟩
      · exact .inr (.inr unread)

theorem unreadIntent_unbounded {target : Text}
    (normal : normalizeAddress action.toAddress = .ok target) :
    UnboundedIntent action ctx (unreadIntent action ctx target) :=
  ⟨rfl, normal, rfl, rfl, rfl, rfl⟩

/-- What the default registry gives. -/
theorem reading_of_decode (decoded : createDefaultRegistry.decode action ctx = .ok intent) :
    Reading action ctx intent := by
  rcases answer_of_decode decoded with ⟨decoder, claimed, asked⟩ | asked | ⟨target, normal, rfl⟩
  · rcases eq_of_claimant claimed with rfl | rfl | rfl
    · exact .token (.inl claimed) (erc20Decoder_tokenIntent asked)
    · rcases uniswapV4Decoder_cases asked with unbounded | ⟨stream, g, swap⟩
      · exact .unbounded unbounded
      · exact .swap claimed swap
    · exact .token (.inr claimed) (x402Decoder_tokenIntent asked)
  · exact .native (nativeDecoder_nativeIntent asked)
  · exact .unbounded (unreadIntent_unbounded normal)

end Decoders

end Sdk

end AgentProof
