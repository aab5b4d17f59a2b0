import AgentProof.Sdk.Coherence
import AgentProof.Sdk.Privacy
import AgentProof.Lib.Readable

/-!
# What a commitment binds

The text under a commitment joins the account, the decision and four fields of the
intent with bars.  Only the account may hold a bar itself, so the text determines
each of its fields.  The native value and the outflow are not among them: the
notional determines the amount of the tracked asset, and nothing the rest.
-/

namespace AgentProof

namespace Sdk

open Js KeyedSum UniswapV4

/-- The fields that a commitment joins, the account up to case. -/
structure SameCommitted (account account' : Text) (decision decision' : Decision)
    (intent intent' : NormalizedIntent) : Prop where
  account : toLowerCase account = toLowerCase account'
  decision : decision = decision'
  kind : intent.kind = intent'.kind
  target : intent.target = intent'.target
  counterparty : intent.counterparty = intent'.counterparty
  notionalUSDC : intent.notionalUSDC = intent'.notionalUSDC

/-- The asset and the amount of every outflow entry. -/
def NormalizedIntent.moves (intent : NormalizedIntent) : List (Text × Int) :=
  intent.outflow.map fun flow => (flow.asset, flow.amount)

/-- The native value and the outflow are the same. -/
structure SameMoves (intent intent' : NormalizedIntent) : Prop where
  nativeValue : intent.nativeValue = intent'.nativeValue
  outflow : intent.moves = intent'.moves

/-- The native value is the same, and so is what the outflow lists, except for how much
of the tracked asset. -/
structure SameUntracked (trackedAsset : Text) (intent intent' : NormalizedIntent) : Prop where
  nativeValue : intent.nativeValue = intent'.nativeValue
  assets : intent.moves.map Prod.fst = intent'.moves.map Prod.fst
  amounts : (intent.moves.filter fun entry => entry.1 ≠ trackedAsset) =
    intent'.moves.filter fun entry => entry.1 ≠ trackedAsset

/-! ## Fields without a bar -/

theorem bar_not_mem_addressText (a : Address) : '|' ∉ addressText a := by
  intro mem
  rcases hex_of_mem_addressText mem with x | hex
  · exact absurd x (by decide)
  · exact absurd hex (by decide)

theorem bar_not_mem_toDecimal (n : Int) : '|' ∉ toDecimal n := by
  have digits (m : Nat) : '|' ∉ Nat.toDigits 10 m := by
    intro mem
    exact absurd (List.all_eq_true.mp (all_isDigit_toDigits m) '|' mem) (by decide)
  rw [toDecimal]
  split_ifs
  · exact List.not_mem_cons_of_ne_of_not_mem (by decide) (digits _)
  · exact digits _

theorem IntentKind.text_injective : Function.Injective IntentKind.text := by
  intro kind kind' same
  revert same
  cases kind <;> cases kind' <;> decide

theorem Decision.text_injective : Function.Injective Decision.text := by
  intro decision decision' same
  revert same
  cases decision <;> cases decision' <;> decide

section Parties

variable {action : Action} {ctx : DecoderContext} {intent : NormalizedIntent} {counterparty : Text}

theorem erc20Decoder_party (decoded : erc20Decoder.decode action ctx = .ok (some intent))
    (named : intent.counterparty = some counterparty) : ∃ a, counterparty = addressText a := by
  simp only [erc20Decoder, bind_eq_ok_iff] at decoded
  obtain ⟨asset, -, decoded⟩ := decoded
  split_ifs at decoded
  · simp only [decodeTransfer, bind_eq_ok_iff, Except.ok.injEq, Option.some.injEq] at decoded
    obtain ⟨dst, read, _, -, rfl⟩ := decoded
    cases named
    exact readAddress_eq_ok read
  · simp only [decodeTransferFrom, bind_eq_ok_iff, Except.ok.injEq, Option.some.injEq] at decoded
    obtain ⟨_, -, dst, read, _, -, rfl⟩ := decoded
    cases named
    exact readAddress_eq_ok read
  · simp only [decodeApprove, bind_eq_ok_iff, Except.ok.injEq, Option.some.injEq] at decoded
    obtain ⟨spender, read, _, -, rfl⟩ := decoded
    cases named
    exact readAddress_eq_ok read
  · simp only [decodePermit2Approve, bind_eq_ok_iff, Except.ok.injEq, Option.some.injEq] at decoded
    obtain ⟨_, -, spender, read, _, -, rfl⟩ := decoded
    cases named
    exact readAddress_eq_ok read
  · cases decoded

theorem x402Decoder_party (decoded : x402Decoder.decode action ctx = .ok (some intent))
    (named : intent.counterparty = some counterparty) : ∃ a, counterparty = addressText a := by
  simp only [x402Decoder] at decoded
  split_ifs at decoded
  · cases decoded
  · simp only [bind_eq_ok_iff, Except.ok.injEq, Option.some.injEq] at decoded
    obtain ⟨_, -, payTo, read, _, -, _, -, rfl⟩ := decoded
    cases named
    exact readAddress_eq_ok read

theorem uniswapV4Decoder_party (decoded : uniswapV4Decoder.decode action ctx = .ok (some intent))
    (named : intent.counterparty = some counterparty) : ∃ a, counterparty = addressText a := by
  change UniswapV4.decode action ctx = _ at decoded
  rw [UniswapV4.decode] at decoded
  obtain ⟨router, normal, decoded⟩ := bind_eq_ok_iff.mp decoded
  have address : ∃ a, router = addressText a := ⟨_, normalizeAddress_eq_ok normal⟩
  dsimp only at decoded
  split at decoded
  · cases decoded
    cases named
    exact address
  · split at decoded
    · cases decoded
      cases named
      exact address
    · next g gathered =>
        obtain ⟨swap, built, same⟩ := bind_eq_ok_iff.mp decoded
        cases same
        obtain ⟨_, -, rest⟩ := bind_eq_ok_iff.mp built
        obtain ⟨_, -, rest⟩ := bind_eq_ok_iff.mp rest
        cases rest
        cases named
        rw [(sweep_of_readCommands (Grows.refl _) gathered).named, Option.none_or]
        -- the recipient of the first transfer, or the router
        cases (transfers _).head? with
        | none => exact address
        | some transfer => exact ⟨_, rfl⟩

/-- Whoever an intent names, it names by an address. -/
theorem party_of_decode (decoded : createDefaultRegistry.decode action ctx = .ok intent)
    (named : intent.counterparty = some counterparty) : ∃ a, counterparty = addressText a := by
  rcases answer_of_decode decoded with ⟨decoder, claimed, asked⟩ | asked | ⟨target, -, rfl⟩
  · rcases eq_of_claimant claimed with rfl | rfl | rfl
    · exact erc20Decoder_party asked named
    · exact uniswapV4Decoder_party asked named
    · exact x402Decoder_party asked named
  · have read := nativeDecoder_nativeIntent asked
    rw [read.counterparty] at named
    cases named
    exact ⟨_, normalizeAddress_eq_ok read.target⟩
  · cases named

theorem target_of_decode (decoded : createDefaultRegistry.decode action ctx = .ok intent) :
    ∃ a, intent.target = addressText a := by
  cases reading_of_decode decoded with
  | token claimed read => exact ⟨_, normalizeAddress_eq_ok read.target⟩
  | native read => exact ⟨_, normalizeAddress_eq_ok read.target⟩
  | swap claimed read => exact ⟨_, normalizeAddress_eq_ok read.target⟩
  | unbounded read => exact ⟨_, normalizeAddress_eq_ok read.target⟩

end Parties

/-! ## The preimage -/

section Preimage

variable {ctx : DecoderContext} {action action' : Action} {intent intent' : NormalizedIntent}

/-- The counterparty as it is joined. -/
theorem getD_injective {party party' : Option Text}
    (named : ∀ counterparty, party = some counterparty → ∃ a, counterparty = addressText a)
    (named' : ∀ counterparty, party' = some counterparty → ∃ a, counterparty = addressText a)
    (same : party.getD "0x".toList = party'.getD "0x".toList) : party = party' := by
  have apart (a : Address) : addressText a ≠ "0x".toList := by
    intro same
    have lengths := congrArg List.length same
    rw [addressText_eq, List.length_cons, List.length_cons, length_fixedHex] at lengths
    exact absurd lengths (by decide)
  cases party with
  | none =>
      cases party' with
      | none => rfl
      | some counterparty =>
          obtain ⟨a, rfl⟩ := named' counterparty rfl
          exact absurd same.symm (apart a)
  | some counterparty =>
      cases party' with
      | none =>
          obtain ⟨a, rfl⟩ := named counterparty rfl
          exact absurd same (apart a)
      | some counterparty' => exact congrArg some same

/-- No field after the account holds a bar. -/
theorem bar_not_mem_fields (decoded : createDefaultRegistry.decode action ctx = .ok intent)
    (decision : Decision) :
    ∀ field ∈ [intent.kind.text, intent.target, intent.counterparty.getD "0x".toList,
      toDecimal intent.notionalUSDC, decision.text], '|' ∉ field := by
  have kind : '|' ∉ intent.kind.text := by cases intent.kind <;> decide
  have target : '|' ∉ intent.target := by
    obtain ⟨a, address⟩ := target_of_decode decoded
    rw [address]
    exact bar_not_mem_addressText a
  have counterparty : '|' ∉ intent.counterparty.getD "0x".toList := by
    cases named : intent.counterparty with
    | none => decide
    | some counterparty =>
        obtain ⟨a, rfl⟩ := party_of_decode decoded named
        exact bar_not_mem_addressText a
  have decided : '|' ∉ decision.text := by cases decision <;> decide
  simp only [List.forall_mem_cons]
  exact ⟨kind, target, counterparty, bar_not_mem_toDecimal _, decided, nofun⟩

/-- The preimages of decoded intents are the same exactly if all that is joined is. -/
theorem commitmentPreimage_eq_iff {salt account account' : Text} {decision decision' : Decision}
    (decoded : createDefaultRegistry.decode action ctx = .ok intent)
    (decoded' : createDefaultRegistry.decode action' ctx = .ok intent') :
    commitmentPreimage salt account intent decision =
        commitmentPreimage salt account' intent' decision' ↔
      SameCommitted account account' decision decision' intent intent' := by
  constructor
  · intro same
    have joined (a : Text) (i : NormalizedIntent) (d : Decision) :
        commitmentPreimage salt a i d = salt ++ '|' :: Readable.join '|' (toLowerCase a ::
          [i.kind.text, i.target, i.counterparty.getD "0x".toList, toDecimal i.notionalUSDC,
            d.text]) := by
      rw [Readable.join_cons, ← List.cons_append]
      exact Readable.join_cons '|' salt _
    rw [joined, joined, List.append_cancel_left_eq, List.cons.injEq] at same
    obtain ⟨accounts, fields⟩ := Readable.join_inj (by rfl) (bar_not_mem_fields decoded decision)
      (bar_not_mem_fields decoded' decision') same.2
    simp only [List.cons.injEq, and_true] at fields
    obtain ⟨kind, target, counterparty, notionalUSDC, decided⟩ := fields
    exact ⟨accounts, Decision.text_injective decided, IntentKind.text_injective kind, target,
      getD_injective (fun _ => party_of_decode decoded) (fun _ => party_of_decode decoded')
        counterparty, toDecimal_injective notionalUSDC⟩
  · rintro ⟨account, rfl, kind, target, counterparty, notionalUSDC⟩
    rw [commitmentPreimage, account, kind, target, counterparty, notionalUSDC]
    rfl

theorem swapIntent_kind {router selector : Text} {g : UniswapV4.Gathered}
    (built : swapIntent action ctx router selector g = .ok intent) : intent.kind = .swap := by
  obtain ⟨_, -, rest⟩ := bind_eq_ok_iff.mp built
  obtain ⟨_, -, rest⟩ := bind_eq_ok_iff.mp rest
  cases rest
  rfl

theorem nativeDecoder_moves (decoded : nativeDecoder.decode action ctx = .ok (some intent)) :
    intent.moves = [(NATIVE_ASSET, intent.nativeValue)] := by
  simp only [nativeDecoder] at decoded
  split_ifs at decoded
  · cases decoded
  · simp only [bind_eq_ok_iff, Except.ok.injEq, Option.some.injEq] at decoded
    obtain ⟨dst, -, rfl⟩ := decoded
    rfl

/-- A bare transfer moves its native value; any other intent has its notional listed, and no
asset twice. -/
theorem moves_of_decode (decoded : createDefaultRegistry.decode action ctx = .ok intent) :
    intent.kind = .nativeTransfer ∧ intent.moves = [(NATIVE_ASSET, intent.nativeValue)] ∨
      intent.kind ≠ .nativeTransfer ∧
        intent.notionalUSDC = total intent.moves ctx.trackedAsset ∧
        (intent.moves.map Prod.fst).Nodup := by
  have listed (coherent : Coherent action ctx intent) :
      intent.notionalUSDC = total intent.moves ctx.trackedAsset ∧
        (intent.moves.map Prod.fst).Nodup := by
    refine ⟨coherent.notional, ?_⟩
    rw [NormalizedIntent.moves, List.map_map]
    exact coherent.distinct
  have token (read : TokenIntent action ctx intent) : intent.kind ≠ .nativeTransfer := by
    rcases read.kind with kind | kind | kind <;> rw [kind] <;> decide
  have unbounded (read : UnboundedIntent action ctx intent) : intent.kind ≠ .nativeTransfer := by
    rw [read.kind]
    decide
  rcases answer_of_decode decoded with ⟨decoder, claimed, asked⟩ | asked | ⟨target, normal, same⟩
  · rcases eq_of_claimant claimed with rfl | rfl | rfl
    · have read := erc20Decoder_tokenIntent asked
      exact .inr ⟨token read, listed read.coherent⟩
    · rcases uniswapV4Decoder_cases asked with read | ⟨stream, g, read⟩
      · exact .inr ⟨unbounded read, listed read.coherent⟩
      · refine .inr ⟨?_, listed read.coherent⟩
        rw [swapIntent_kind read.built]
        decide
    · have read := x402Decoder_tokenIntent asked
      exact .inr ⟨token read, listed read.coherent⟩
  · exact .inl ⟨(nativeDecoder_nativeIntent asked).kind, nativeDecoder_moves asked⟩
  · have read : UnboundedIntent action ctx intent := same ▸ unreadIntent_unbounded normal
    exact .inr ⟨unbounded read, listed read.coherent⟩

/-- With the committed fields the same, only the tracked asset's amount is known to be. -/
theorem sameMoves_iff {account account' : Text} {decision decision' : Decision}
    (decoded : createDefaultRegistry.decode action ctx = .ok intent)
    (decoded' : createDefaultRegistry.decode action' ctx = .ok intent')
    (same : SameCommitted account account' decision decision' intent intent') :
    SameMoves intent intent' ↔ SameUntracked ctx.trackedAsset intent intent' := by
  constructor
  · intro moves
    exact ⟨moves.nativeValue, congrArg (List.map Prod.fst) moves.outflow,
      congrArg (List.filter _) moves.outflow⟩
  · intro untracked
    refine ⟨untracked.nativeValue, ?_⟩
    rcases moves_of_decode decoded with ⟨native, moves⟩ | ⟨other, notional, distinct⟩
    · rcases moves_of_decode decoded' with ⟨-, moves'⟩ | ⟨other, -⟩
      · rw [moves, moves', untracked.nativeValue]
      · exact absurd (same.kind.symm.trans native) other
    · rcases moves_of_decode decoded' with ⟨native, -⟩ | ⟨-, notional', -⟩
      · exact absurd (same.kind.trans native) other
      · refine eq_of_total distinct untracked.assets untracked.amounts ?_
        rw [← notional, ← notional', same.notionalUSDC]

/-- Equal preimages stand for equal records exactly when the records that agree in all that is
joined also agree in native value, in the assets they list and in the amounts of all but the
tracked one. -/
theorem commitment_binds_iff (salt : Text)
    (decoded : createDefaultRegistry.decode action ctx = .ok intent)
    (decoded' : createDefaultRegistry.decode action' ctx = .ok intent')
    (account account' : Text) (decision decision' : Decision) :
    (commitmentPreimage salt account intent decision =
        commitmentPreimage salt account' intent' decision' →
      SameCommitted account account' decision decision' intent intent' ∧
        SameMoves intent intent') ↔
      (SameCommitted account account' decision decision' intent intent' →
        SameUntracked ctx.trackedAsset intent intent') := by
  rw [commitmentPreimage_eq_iff decoded decoded']
  constructor
  · intro binds same
    exact (sameMoves_iff decoded decoded' same).mp (binds same).2
  · intro untracked same
    exact ⟨same, (sameMoves_iff decoded decoded' same).mpr (untracked same)⟩

end Preimage

/-! ## Every call shares its commitment -/

/-- The same call with another value attached. -/
def Action.withValue (action : Action) (value : Int) : Action := { action with value := value }

section Revalued

variable {ctx : DecoderContext} {action : Action} {intent : NormalizedIntent} {value : Int}

/-- An intent with the same joined fields and another native value. -/
structure Revalued (value : Int) (intent intent' : NormalizedIntent) : Prop where
  kind : intent.kind = intent'.kind
  target : intent.target = intent'.target
  counterparty : intent.counterparty = intent'.counterparty
  notionalUSDC : intent.notionalUSDC = intent'.notionalUSDC
  nativeValue : intent'.nativeValue = value

theorem erc20Decoder_withValue (decoded : erc20Decoder.decode action ctx = .ok (some intent)) :
    ∃ intent', erc20Decoder.decode (action.withValue value) ctx = .ok (some intent') ∧
      Revalued value intent intent' := by
  refine ⟨{ intent with nativeValue := value, raw := action.withValue value }, ?_,
    ⟨rfl, rfl, rfl, rfl, rfl⟩⟩
  simp only [erc20Decoder, bind_eq_ok_iff] at decoded ⊢
  obtain ⟨asset, normal, decoded⟩ := decoded
  refine ⟨asset, normal, ?_⟩
  rw [Action.withValue]
  split_ifs at decoded ⊢
  · simp only [decodeTransfer, bind_eq_ok_iff, Except.ok.injEq, Option.some.injEq] at decoded ⊢
    obtain ⟨dst, payee, amount, word, rfl⟩ := decoded
    exact ⟨dst, payee, amount, word, rfl⟩
  · simp only [decodeTransferFrom, bind_eq_ok_iff, Except.ok.injEq, Option.some.injEq]
      at decoded ⊢
    obtain ⟨src, payer, dst, payee, amount, word, rfl⟩ := decoded
    exact ⟨src, payer, dst, payee, amount, word, rfl⟩
  · simp only [decodeApprove, bind_eq_ok_iff, Except.ok.injEq, Option.some.injEq] at decoded ⊢
    obtain ⟨spender, payee, allowance, word, rfl⟩ := decoded
    exact ⟨spender, payee, allowance, word, rfl⟩
  · simp only [decodePermit2Approve, bind_eq_ok_iff, Except.ok.injEq, Option.some.injEq]
      at decoded ⊢
    obtain ⟨token, paid, spender, payee, allowance, word, rfl⟩ := decoded
    exact ⟨token, paid, spender, payee, allowance, word, rfl⟩
  · cases decoded

theorem x402Decoder_withValue (decoded : x402Decoder.decode action ctx = .ok (some intent)) :
    ∃ intent', x402Decoder.decode (action.withValue value) ctx = .ok (some intent') ∧
      Revalued value intent intent' := by
  refine ⟨{ intent with nativeValue := value, raw := action.withValue value }, ?_,
    ⟨rfl, rfl, rfl, rfl, rfl⟩⟩
  simp only [x402Decoder, Action.withValue] at decoded ⊢
  split_ifs at decoded ⊢
  · cases decoded
  · simp only [bind_eq_ok_iff, Except.ok.injEq, Option.some.injEq] at decoded ⊢
    obtain ⟨token, paid, payTo, payee, amount, word, target, normal, rfl⟩ := decoded
    exact ⟨token, paid, payTo, payee, amount, word, target, normal, rfl⟩

theorem nativeDecoder_withValue (attached : value ≠ 0)
    (decoded : nativeDecoder.decode action ctx = .ok (some intent)) :
    ∃ intent', nativeDecoder.decode (action.withValue value) ctx = .ok (some intent') ∧
      Revalued value intent intent' := by
  have read := nativeDecoder_nativeIntent decoded
  have sends : ¬ ((action.withValue value).data.length > 2 ∨
      (action.withValue value).value = 0) := not_or.mpr ⟨not_lt.mpr read.short, attached⟩
  exact ⟨_, (if_neg sends).trans (bind_eq_ok_iff.mpr ⟨intent.target, read.target, rfl⟩),
    read.kind, rfl, read.counterparty, read.notional, rfl⟩

/-- The router may already spend more of the native asset than is attached. -/
theorem uniswapV4Decoder_withValue
    (decoded : uniswapV4Decoder.decode action ctx = .ok (some intent))
    (above : intent.nativeValue ≤ value) :
    ∃ intent', uniswapV4Decoder.decode (action.withValue value) ctx = .ok (some intent') ∧
      Revalued value intent intent' := by
  refine ⟨{ intent with nativeValue := value, raw := action.withValue value }, ?_,
    ⟨rfl, rfl, rfl, rfl, rfl⟩⟩
  change UniswapV4.decode action ctx = _ at decoded
  change UniswapV4.decode (action.withValue value) ctx = _
  rw [UniswapV4.decode] at decoded ⊢
  obtain ⟨router, normal, decoded⟩ := bind_eq_ok_iff.mp decoded
  refine bind_eq_ok_iff.mpr ⟨router, normal, ?_⟩
  rw [Action.withValue]
  dsimp only at decoded ⊢
  split at decoded
  · next streamed =>
      cases decoded
      rw [streamed]
      rfl
  · next stream streamed =>
      rw [streamed]
      dsimp only
      split at decoded
      · cases decoded
        rfl
      · next g gathered =>
          obtain ⟨swap, built, same⟩ := bind_eq_ok_iff.mp decoded
          cases same
          obtain ⟨tracked, gets, rest⟩ := bind_eq_ok_iff.mp built
          obtain ⟨native, getsNative, rest⟩ := bind_eq_ok_iff.mp rest
          cases rest
          dsimp only at above ⊢
          have covers : ¬ native > value := by
            split_ifs at above <;> omega
          refine bind_eq_ok_iff.mpr ⟨_, bind_eq_ok_iff.mpr ⟨tracked, gets,
            bind_eq_ok_iff.mpr ⟨native, getsNative, rfl⟩⟩, ?_⟩
          rw [if_neg covers]

/-- Any call may have a larger value attached; one that sends nothing at all is read as a call
with other unreadable calldata. -/
theorem exists_revalued (decoded : createDefaultRegistry.decode action ctx = .ok intent)
    (above : intent.nativeValue ≤ value) (attached : value ≠ 0) :
    ∃ action' intent', createDefaultRegistry.decode action' ctx = .ok intent' ∧
      Revalued value intent intent' := by
  have settles {decoder : SelectorDecoder} {intent' : NormalizedIntent}
      (claimed : claimant (toLowerCase (selectorOf action.data)) = some decoder)
      (asked : decoder.decode (action.withValue value) ctx = .ok (some intent')) :
      createDefaultRegistry.decode (action.withValue value) ctx = .ok intent' := by
    rw [@decode_of_claimed (action.withValue value) ctx decoder claimed, asked]
    rfl
  rcases answer_of_decode decoded with ⟨decoder, claimed, asked⟩ | asked | ⟨target, normal, same⟩
  · rcases eq_of_claimant claimed with rfl | rfl | rfl
    · obtain ⟨intent', asked', revalued⟩ := erc20Decoder_withValue asked
      exact ⟨_, intent', settles claimed asked', revalued⟩
    · obtain ⟨intent', asked', revalued⟩ := uniswapV4Decoder_withValue asked above
      exact ⟨_, intent', settles claimed asked', revalued⟩
    · obtain ⟨intent', asked', revalued⟩ := x402Decoder_withValue asked
      exact ⟨_, intent', settles claimed asked', revalued⟩
  · have read := nativeDecoder_nativeIntent asked
    have unclaimed : claimant (toLowerCase (selectorOf (action.withValue value).data)) = none := by
      by_contra claimed
      obtain ⟨decoder, claimed⟩ := Option.ne_none_iff_exists'.mp claimed
      exact absurd (long_of_claimed claimed) (not_le.mpr (read.short.trans_lt (by decide)))
    obtain ⟨intent', asked', revalued⟩ := nativeDecoder_withValue attached asked
    refine ⟨action.withValue value, intent', ?_, revalued⟩
    rw [decode_of_unclaimed unclaimed, asked']
    rfl
  · cases same
    -- calldata of an odd digit is no selector, and no empty calldata
    have unclaimed : claimant (toLowerCase (selectorOf "0x0".toList)) = none := by decide +kernel
    refine ⟨⟨action.toAddress, "0x0".toList, value⟩,
      unreadIntent ⟨action.toAddress, "0x0".toList, value⟩ ctx target, ?_,
      ⟨rfl, rfl, rfl, rfl, rfl⟩⟩
    rw [decode_of_unclaimed unclaimed]
    have declines : nativeDecoder.decode ⟨action.toAddress, "0x0".toList, value⟩ ctx =
        .ok none := by
      have long : "0x0".toList.length > 2 := by decide
      simp only [nativeDecoder]
      rw [if_pos (.inl long)]
    refine bind_eq_ok_iff.mpr ⟨none, declines, ?_⟩
    exact bind_eq_ok_iff.mpr ⟨target, normal, rfl⟩

/-- Whatever an agent does, another call with another native value has the same commitment. -/
theorem commitment_shared (decoded : createDefaultRegistry.decode action ctx = .ok intent) :
    ∃ action' intent', createDefaultRegistry.decode action' ctx = .ok intent' ∧
      intent'.nativeValue ≠ intent.nativeValue ∧
      ∀ salt account decision, commitmentPreimage salt account intent' decision =
        commitmentPreimage salt account intent decision := by
  obtain ⟨action', intent', decoded', revalued⟩ :=
    @exists_revalued ctx action intent (intent.nativeValue.natAbs + 1) decoded (by omega) (by omega)
  refine ⟨action', intent', decoded', ?_, fun salt account decision => ?_⟩
  · rw [revalued.nativeValue]
    omega
  · rw [commitmentPreimage, commitmentPreimage, revalued.kind, revalued.target,
      revalued.counterparty, revalued.notionalUSDC]

end Revalued

/-! ### Two router calls, and two bare transfers -/

/-- Calls that pay different second recipients in the same amounts. -/
theorem commitment_binds_sampleTransfers :
    commitmentPreimage "0x".toList sampleContext.account (sampleIntent 0x22) .allow =
        commitmentPreimage "0x".toList sampleContext.account (sampleIntent 0xbad) .allow ∧
      SameCommitted sampleContext.account sampleContext.account .allow .allow (sampleIntent 0x22)
        (sampleIntent 0xbad) ∧ SameMoves (sampleIntent 0x22) (sampleIntent 0xbad) := by
  have decoded : createDefaultRegistry.decode (sampleTransfers 0x22) sampleContext =
      .ok (sampleIntent 0x22) := by decide +kernel
  have decoded' : createDefaultRegistry.decode (sampleTransfers 0xbad) sampleContext =
      .ok (sampleIntent 0xbad) := by decide +kernel
  have moves : (sampleIntent 0x22).moves = (sampleIntent 0xbad).moves := by
    simp only [NormalizedIntent.moves, sampleIntent]
  have same : commitmentPreimage "0x".toList sampleContext.account (sampleIntent 0x22) .allow =
      commitmentPreimage "0x".toList sampleContext.account (sampleIntent 0xbad) .allow := by
    simp only [commitmentPreimage, sampleIntent]
  refine ⟨same, (commitment_binds_iff "0x".toList decoded decoded' sampleContext.account
    sampleContext.account .allow .allow).mpr (fun _ => ?_) same⟩
  exact ⟨rfl, congrArg (List.map Prod.fst) moves, congrArg (List.filter _) moves⟩

/-- A bare transfer of some wei. -/
def weiTransfer (value : Int) : Action :=
  ⟨"0x00000000000000000000000000000000000000a1".toList, "0x".toList, value⟩

/-- What it is decoded to. -/
def weiIntent (value : Int) : NormalizedIntent where
  kind := .nativeTransfer
  target := (weiTransfer value).toAddress
  selector := "0x".toList
  nativeValue := value
  outflow := [⟨NATIVE_ASSET, value, .decoded⟩]
  counterparty := some (weiTransfer value).toAddress
  notionalUSDC := 0
  summary := "Send ".toList ++ toDecimal value ++ " wei to ".toList ++
    (weiTransfer value).toAddress
  raw := weiTransfer value

/-- One wei or a whole ether, under one commitment. -/
theorem not_commitment_binds_weiTransfer :
    createDefaultRegistry.decode (weiTransfer 1) sampleContext = .ok (weiIntent 1) ∧
      createDefaultRegistry.decode (weiTransfer (10 ^ 18)) sampleContext =
        .ok (weiIntent (10 ^ 18)) ∧
      ¬ (commitmentPreimage "0x".toList sampleContext.account (weiIntent 1) .allow =
          commitmentPreimage "0x".toList sampleContext.account (weiIntent (10 ^ 18)) .allow →
        SameCommitted sampleContext.account sampleContext.account .allow .allow (weiIntent 1)
          (weiIntent (10 ^ 18)) ∧ SameMoves (weiIntent 1) (weiIntent (10 ^ 18))) := by
  refine ⟨by decide +kernel, by decide +kernel, fun binds => ?_⟩
  have values := (binds (by decide +kernel)).2.nativeValue
  exact absurd values (by decide)

end Sdk

end AgentProof
