import AgentProof.Sdk.UniswapV4

/-!
# What holds of everything a registry decodes

A property of the intents of each registered decoder, and of the intent of an
action that no decoder reads, holds of every intent the registry gives.  The
default registry's intents carry their actions, and never count below zero.
-/

namespace AgentProof

namespace Sdk

open Js

/-- Every intent the decoder gives has the property. -/
def SelectorDecoder.Gives (Q : Action → NormalizedIntent → Prop) (decoder : SelectorDecoder) :
    Prop :=
  ∀ action ctx intent, decoder.decode action ctx = .ok (some intent) → Q action intent

namespace DecoderRegistry

/-- Every intent the registry gives has the property. -/
def Gives (Q : Action → NormalizedIntent → Prop) (r : DecoderRegistry) : Prop :=
  ∀ action ctx intent, r.decode action ctx = .ok intent → Q action intent

/-- Every registered decoder has the property. -/
structure Serves (P : SelectorDecoder → Prop) (r : DecoderRegistry) : Prop where
  claimed : ∀ selector decoder, r.bySelector.get selector = some decoder → P decoder
  wildcards : ∀ decoder ∈ r.wildcards, P decoder

variable {P : SelectorDecoder → Prop} {r : DecoderRegistry}

theorem serves_empty : Serves P empty :=
  ⟨fun _ _ claimed => by simp [empty] at claimed, fun _ mem => by simp [empty] at mem⟩

theorem Serves.registerSelectors {decoder : SelectorDecoder} (new : P decoder)
    (selectors : List Text) (serves : Serves P r) :
    Serves P (registerSelectors decoder selectors r).1 := by
  induction selectors generalizing r with
  | nil => exact serves
  | cons selector rest ih =>
      have claim : Serves P
          { r with bySelector := r.bySelector.set (toLowerCase selector) decoder } := by
        refine ⟨fun other found claimed => ?_, serves.wildcards⟩
        simp only [OrderedMap.get_set] at claimed
        split_ifs at claimed with same
        · exact Option.some.inj claimed ▸ new
        · exact serves.claimed other found claimed
      simp only [DecoderRegistry.registerSelectors]
      split_ifs with wild
      · refine ih ⟨serves.claimed, fun other mem => ?_⟩
        rcases List.mem_append.mp mem with before | last
        · exact serves.wildcards other before
        · exact List.mem_singleton.mp last ▸ new
      · cases r.bySelector.get (toLowerCase selector) with
        | none => exact ih claim
        | some existing =>
            simp only
            split_ifs
            · exact serves
            · exact ih claim

theorem Serves.register {decoder : SelectorDecoder} (serves : Serves P r) (new : P decoder) :
    Serves P (r.register decoder).1 :=
  serves.registerSelectors new decoder.selectors

theorem firstIntent_gives {Q : Action → NormalizedIntent → Prop} {action : Action}
    {ctx : DecoderContext} {intent : NormalizedIntent} :
    ∀ candidates : List SelectorDecoder, (∀ decoder ∈ candidates, decoder.Gives Q) →
      firstIntent action ctx candidates = .ok (some intent) → Q action intent
  | [], _, found => by cases found
  | candidate :: rest, gives, found => by
      simp only [firstIntent, bind_eq_ok_iff] at found
      obtain ⟨answer, decoded, found⟩ := found
      cases answer with
      | some first =>
          obtain rfl := Option.some.inj (Except.ok.inj found)
          exact gives candidate List.mem_cons_self action ctx first decoded
      | none => exact firstIntent_gives rest (fun decoder mem => gives decoder (.tail _ mem)) found

/-- What all decoders give, and the intent of an action that nobody reads has, the
registry gives. -/
theorem Serves.gives {Q : Action → NormalizedIntent → Prop}
    (serves : Serves (SelectorDecoder.Gives Q) r)
    (unread : ∀ action intent, intent.raw = action → intent.kind = .unknown →
      intent.notionalUSDC = UNBOUNDED → Q action intent) : r.Gives Q := by
  intro action ctx intent decoded
  simp only [decode, bind_eq_ok_iff] at decoded
  obtain ⟨answer, first, decoded⟩ := decoded
  cases answer with
  | some found =>
      obtain rfl := Except.ok.inj decoded
      refine firstIntent_gives _ (fun decoder mem => ?_) first
      rcases List.mem_append.mp mem with claimed | wild
      · exact serves.claimed _ decoder (Option.mem_toList.mp claimed)
      · exact serves.wildcards decoder wild
  | none =>
      simp only [bind_eq_ok_iff, Except.ok.injEq] at decoded
      obtain ⟨target, -, rfl⟩ := decoded
      exact unread action _ rfl rfl rfl

/-- The default registry gives what its four decoders do. -/
theorem serves_createDefaultRegistry (erc20 : P erc20Decoder) (uniswapV4 : P uniswapV4Decoder)
    (x402 : P x402Decoder) (native : P nativeDecoder) : Serves P createDefaultRegistry :=
  (((serves_empty.register erc20).register uniswapV4).register x402).register native

end DecoderRegistry

/-! ## The action an intent carries -/

/-- The intents carry the actions they were decoded from. -/
abbrev KeepsAction (action : Action) (intent : NormalizedIntent) : Prop := intent.raw = action

theorem erc20Decoder_keepsAction : erc20Decoder.Gives KeepsAction := by
  intro action ctx intent decoded
  simp only [erc20Decoder, bind_eq_ok_iff] at decoded
  obtain ⟨asset, -, decoded⟩ := decoded
  split_ifs at decoded
  · simp only [decodeTransfer, bind_eq_ok_iff, Except.ok.injEq, Option.some.injEq] at decoded
    obtain ⟨-, -, -, -, rfl⟩ := decoded
    rfl
  · simp only [decodeTransferFrom, bind_eq_ok_iff, Except.ok.injEq, Option.some.injEq] at decoded
    obtain ⟨-, -, -, -, -, -, rfl⟩ := decoded
    rfl
  · simp only [decodeApprove, bind_eq_ok_iff, Except.ok.injEq, Option.some.injEq] at decoded
    obtain ⟨-, -, -, -, rfl⟩ := decoded
    rfl
  · simp only [decodePermit2Approve, bind_eq_ok_iff, Except.ok.injEq, Option.some.injEq] at decoded
    obtain ⟨-, -, -, -, -, -, rfl⟩ := decoded
    rfl
  · cases decoded

theorem nativeDecoder_keepsAction : nativeDecoder.Gives KeepsAction := by
  intro action ctx intent decoded
  simp only [nativeDecoder] at decoded
  split_ifs at decoded
  · cases decoded
  · simp only [bind_eq_ok_iff, Except.ok.injEq, Option.some.injEq] at decoded
    obtain ⟨-, -, rfl⟩ := decoded
    rfl

theorem x402Decoder_keepsAction : x402Decoder.Gives KeepsAction := by
  intro action ctx intent decoded
  simp only [x402Decoder] at decoded
  split_ifs at decoded
  · cases decoded
  · simp only [bind_eq_ok_iff, Except.ok.injEq, Option.some.injEq] at decoded
    obtain ⟨-, -, -, -, -, -, -, -, rfl⟩ := decoded
    rfl

theorem swapIntent_raw {action : Action} {ctx : DecoderContext} {router selector : Text}
    {g : UniswapV4.Gathered} {intent : NormalizedIntent}
    (read : UniswapV4.swapIntent action ctx router selector g = .ok intent) :
    intent.raw = action := by
  simp only [UniswapV4.swapIntent, bind_eq_ok_iff, Except.ok.injEq] at read
  obtain ⟨-, -, -, -, rfl⟩ := read
  rfl

/-- A router call is unbounded, or its stream was read to the end. -/
theorem uniswapV4_decode_cases {action : Action} {ctx : DecoderContext} {intent : NormalizedIntent}
    (decoded : uniswapV4Decoder.decode action ctx = .ok (some intent)) :
    (∃ router why, intent = UniswapV4.unboundedSwap action router (selectorOf action.data)
      ctx.trackedAsset why) ∨
    ∃ router stream g, UniswapV4.readCommands ⟨.empty, none⟩ stream = .ok g ∧
      UniswapV4.swapIntent action ctx router (selectorOf action.data) g = .ok intent := by
  change UniswapV4.decode action ctx = _ at decoded
  rw [UniswapV4.decode] at decoded
  obtain ⟨router, -, decoded⟩ := bind_eq_ok_iff.mp decoded
  dsimp only at decoded
  cases streamed : UniswapV4.readCommandStream action.data
      (selectorOf action.data = UniswapV4.SELECTOR_EXECUTE) with
  | error e =>
      rw [streamed] at decoded
      exact .inl ⟨router, _, (Option.some.inj (Except.ok.inj decoded)).symm⟩
  | ok stream =>
      rw [streamed] at decoded
      dsimp only at decoded
      cases ended : UniswapV4.readCommands ⟨.empty, none⟩ (stream.commands.zip stream.inputs) with
      | error why =>
          rw [ended] at decoded
          exact .inl ⟨router, why, (Option.some.inj (Except.ok.inj decoded)).symm⟩
      | ok g =>
          rw [ended] at decoded
          obtain ⟨swap, read, same⟩ := bind_eq_ok_iff.mp decoded
          obtain rfl := Option.some.inj (Except.ok.inj same)
          exact .inr ⟨router, _, g, ended, read⟩

theorem uniswapV4Decoder_keepsAction : uniswapV4Decoder.Gives KeepsAction := by
  intro action ctx intent decoded
  rcases uniswapV4_decode_cases decoded with ⟨router, why, rfl⟩ | ⟨router, stream, g, -, read⟩
  · rfl
  · exact swapIntent_raw read

theorem createDefaultRegistry_keepsAction : createDefaultRegistry.Gives KeepsAction :=
  (DecoderRegistry.serves_createDefaultRegistry erc20Decoder_keepsAction
    uniswapV4Decoder_keepsAction x402Decoder_keepsAction nativeDecoder_keepsAction).gives
      fun _ _ carries _ _ => carries

end Sdk

end AgentProof
