import AgentProof.Sdk.NativeValue
import AgentProof.Sdk.SwapInputs

/-!
# Streams of one swap

The intent of a stream of one exact-input or exact-output swap: its outflow is
what the swap pays, and its counterparty the recipient of what it buys.  The
token bought is nowhere in it.
-/

namespace AgentProof

namespace Sdk

open Js Calldata UniswapV4

variable {action : Action} {ctx : DecoderContext} {s : Swap} {pair : Byte × Text}

/-- The outflow gathered from one swap. -/
def swapOutflow (s : Swap) : Outflow :=
  Outflow.empty.addAt (assetKey (addressOf s.tokenIn)) s.amount

theorem entries_swapOutflow (s : Swap) : (swapOutflow s).entries =
    if 0 < s.amount then [(assetKey (addressOf s.tokenIn), s.amount)] else [] := by
  have amount : Outflow.empty.amountAt (assetKey (addressOf s.tokenIn)) + s.amount = s.amount := by
    rw [Outflow.amountAt_empty, zero_add]
  rw [swapOutflow, Outflow.addAt, amount]
  show ([(assetKey (addressOf s.tokenIn), s.amount)].filter fun entry => entry.2 > 0) = _
  split_ifs with positive
  · simp [positive]
  · simp [positive]

theorem readCommands_of_swap (typed : s.WellTyped) (built : s.pair = .ok pair)
    (short : pair.2.length < 2 ^ 256) :
    readCommands ⟨.empty, none⟩ (streamOfPairs [pair]) =
      .ok ⟨swapOutflow s, some (addressText (addressOf s.recipient))⟩ := by
  obtain ⟨pays, names⟩ := paidBy_of_pair typed built short
  have opens : opened none (recipientsOf (streamOfPairs [pair])) =
      some (some (addressText (addressOf s.recipient))) := by
    rw [recipientsOf_streamOfPairs, recipientsNamed, List.flatMap_singleton, names]
    rfl
  have paysAll : paymentsOf (streamOfPairs [pair]) =
      some [(assetKey (addressOf s.tokenIn), s.amount)] := by
    have single : paymentsOf (streamOfPairs [pair]) = (paidBy pair).bind fun here =>
        some (here ++ []) := rfl
    rw [single, pays]
    rfl
  have gathered : Outflow.empty.addAll [(assetKey (addressOf s.tokenIn), s.amount)] =
      swapOutflow s := by
    rw [Outflow.addAll, List.foldl_cons, List.foldl_nil, swapOutflow]
  exact readCommands_eq_ok_iff.mpr ⟨_, _, opens, paysAll, by rw [gathered]⟩

/-- A built call goes to the router's decoder. -/
theorem claimant_of_encoded {pairs : List (Byte × Text)} {data : Text}
    (encoded : encodePairs pairs = .ok data) :
    claimant (toLowerCase (selectorOf data)) = some uniswapV4Decoder := by
  obtain ⟨-, -, -, rfl⟩ := encodeUniversalRouterExecute_eq_ok_iff.mp encoded
  have long : 10 ≤ (SELECTOR_EXECUTE_NO_DEADLINE ++
      argumentsText (hexText (pairs.map Prod.fst)) (pairs.map Prod.snd)).length := by
    rw [List.length_append]
    exact Nat.le_add_right 10 _
  have selector : selectorOf (SELECTOR_EXECUTE_NO_DEADLINE ++
      argumentsText (hexText (pairs.map Prod.fst)) (pairs.map Prod.snd)) =
      SELECTOR_EXECUTE_NO_DEADLINE := by
    rw [selectorOf, if_pos long]
    exact @slice_append [] SELECTOR_EXECUTE_NO_DEADLINE _ 0 10 rfl rfl
  have lower : toLowerCase SELECTOR_EXECUTE_NO_DEADLINE ∈ uniswapV4Decoder.selectors := by decide
  exact (congrArg (fun selector => claimant (toLowerCase selector)) selector).trans
    (claimant_router lower)

/-- The intent of one swap: what it pays, to its recipient. -/
theorem decode_of_swap (router : isAddress action.toAddress = true)
    (tracked : isAddress ctx.trackedAsset = true) (typed : s.WellTyped) (built : s.pair = .ok pair)
    (encoded : encodePairs [pair] = .ok action.data) :
    ∃ intent amount, createDefaultRegistry.decode action ctx = .ok intent ∧ intent.kind = .swap ∧
      intent.counterparty = some (addressText (addressOf s.recipient)) ∧
      intent.outflow = ⟨ctx.trackedAsset, amount, .decoded⟩ ::
        ((swapOutflow s).entries.filter fun entry => entry.1 ≠ ctx.trackedAsset).map
          fun entry => ⟨entry.1, entry.2, .decoded⟩ := by
  have short := length_le_of_encodable (encodable_iff.mpr ⟨_, encoded⟩)
    (List.mem_singleton_self pair)
  have read := readCommands_of_swap typed built short
  have decoded := @intentOf_eq action ctx [pair] action.data _ encoded
    (normalizeAddress_of_isAddress router)
  rw [intentOf, encoded, read] at decoded
  have same : decode action ctx = (do
      let intent ← swapIntent action ctx (addressText (addressOf action.toAddress))
        (selectorOf action.data) ⟨swapOutflow s, some (addressText (addressOf s.recipient))⟩
      .ok (some intent)) := decoded
  rw [swapIntent, get_of_isAddress _ tracked, get_native] at same
  rw [decode_of_claimed (claimant_of_encoded encoded)]
  have answer : uniswapV4Decoder.decode action ctx = _ := same
  rw [answer]
  exact ⟨_, _, rfl, rfl, rfl, rfl⟩

end Sdk

end AgentProof
