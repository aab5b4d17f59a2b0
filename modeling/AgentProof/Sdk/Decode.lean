import AgentProof.Sdk.Hex
import AgentProof.Lib.OrderedMap

/-!
# Decoders and their registry

`decode/registry.ts` and the ERC-20, native and x402 decoders.  A decoder may
throw, decline with `undefined`, or return an intent; an action nobody reads is
classified unknown, with an unbounded outflow.
-/

namespace AgentProof

namespace Sdk

open Js

/-- What a decoder knows of its deployment. -/
structure DecoderContext where
  account : Text
  trackedAsset : Text
  deriving DecidableEq, Repr

structure SelectorDecoder where
  name : Text
  /-- claimed selectors; `*` is consulted for any selector -/
  selectors : List Text
  decode : Action → DecoderContext → Except JsError (Option NormalizedIntent)

/-! ## `decode/erc20.ts` -/

def SELECTOR_TRANSFER : Text := "0xa9059cbb".toList
def SELECTOR_TRANSFER_FROM : Text := "0x23b872dd".toList
def SELECTOR_APPROVE : Text := "0x095ea7b3".toList
def SELECTOR_INCREASE_ALLOWANCE : Text := "0x39509351".toList
def SELECTOR_PERMIT2_APPROVE : Text := "0x87517c45".toList

/-- An approval's outflow is the whole allowance. -/
def approvalOutflow (amount : Int) : Int := if isUnlimitedApproval amount then UNBOUNDED else amount

/-- The `transfer` case of the decoder. -/
def decodeTransfer (action : Action) (ctx : DecoderContext) (selector asset : Text) :
    Except JsError (Option NormalizedIntent) := do
  let dst ← readAddress action.data 0
  let amount : Int ← readWord action.data 1
  .ok (some {
    kind := .transfer
    target := asset
    selector := selector
    nativeValue := action.value
    outflow := [⟨asset, amount, .decoded⟩]
    counterparty := some dst
    notionalUSDC := if asset = ctx.trackedAsset then amount else 0
    summary := "Send ".toList ++ displayUsdc amount ++ " to ".toList ++ dst
    raw := action })

/-- The `transferFrom` case: an outflow only when the funds leave our account. -/
def decodeTransferFrom (action : Action) (ctx : DecoderContext) (selector asset : Text) :
    Except JsError (Option NormalizedIntent) := do
  let src ← readAddress action.data 0
  let dst ← readAddress action.data 1
  let amount : Int ← readWord action.data 2
  .ok (some {
    kind := .transfer
    target := asset
    selector := selector
    nativeValue := action.value
    outflow := if src = ctx.account then [⟨asset, amount, .decoded⟩] else []
    counterparty := some dst
    notionalUSDC := if asset = ctx.trackedAsset ∧ src = ctx.account then amount else 0
    summary := "Pull ".toList ++ displayUsdc amount ++ " from ".toList ++ src ++ " to ".toList ++
      dst
    raw := action })

/-- The `approve` and `increaseAllowance` cases. -/
def decodeApprove (action : Action) (ctx : DecoderContext) (selector asset : Text) :
    Except JsError (Option NormalizedIntent) := do
  let spender ← readAddress action.data 0
  let allowance : Int ← readWord action.data 1
  .ok (some {
    kind := .approve
    target := asset
    selector := selector
    nativeValue := action.value
    outflow := [⟨asset, approvalOutflow allowance, .decoded⟩]
    counterparty := some spender
    notionalUSDC := if asset = ctx.trackedAsset then approvalOutflow allowance else 0
    summary :=
      if isUnlimitedApproval allowance then "Grant UNLIMITED spending approval to ".toList ++ spender
      else "Approve ".toList ++ displayUsdc allowance ++ " of spending to ".toList ++ spender
    raw := action })

/-- The Permit2 `approve` case, whose token is an argument. -/
def decodePermit2Approve (action : Action) (ctx : DecoderContext) (selector asset : Text) :
    Except JsError (Option NormalizedIntent) := do
  let token ← readAddress action.data 0
  let spender ← readAddress action.data 1
  let allowance : Int ← readWord action.data 2
  .ok (some {
    kind := .approve
    target := asset
    selector := selector
    nativeValue := action.value
    outflow := [⟨token, approvalOutflow allowance, .decoded⟩]
    counterparty := some spender
    notionalUSDC := if token = ctx.trackedAsset then approvalOutflow allowance else 0
    summary := "Permit2 approve ".toList ++ displayUsdc allowance ++ " to ".toList ++ spender
    raw := action })

def erc20Decoder : SelectorDecoder where
  name := "erc20".toList
  selectors := [SELECTOR_TRANSFER, SELECTOR_TRANSFER_FROM, SELECTOR_APPROVE,
    SELECTOR_INCREASE_ALLOWANCE, SELECTOR_PERMIT2_APPROVE]
  decode action ctx := do
    let selector := selectorOf action.data
    let asset ← normalizeAddress action.toAddress
    if selector = SELECTOR_TRANSFER then decodeTransfer action ctx selector asset
    else if selector = SELECTOR_TRANSFER_FROM then decodeTransferFrom action ctx selector asset
    else if selector = SELECTOR_APPROVE ∨ selector = SELECTOR_INCREASE_ALLOWANCE then
      decodeApprove action ctx selector asset
    else if selector = SELECTOR_PERMIT2_APPROVE then
      decodePermit2Approve action ctx selector asset
    else .ok none

/-! ## `decode/native.ts` -/

/-- Plain value transfers: empty calldata, non-zero value. -/
def nativeDecoder : SelectorDecoder where
  name := "native".toList
  selectors := ["*".toList]
  decode action _ :=
    if action.data.length > 2 ∨ action.value = 0 then .ok none
    else do
      let dst ← normalizeAddress action.toAddress
      .ok (some {
        kind := .nativeTransfer
        target := dst
        selector := "0x".toList
        nativeValue := action.value
        outflow := [⟨NATIVE_ASSET, action.value, .decoded⟩]
        counterparty := some dst
        notionalUSDC := 0
        summary := "Send ".toList ++ toDecimal action.value ++ " wei to ".toList ++ dst
        raw := action })

/-! ## `decode/x402.ts` -/

def SELECTOR_X402_SETTLE : Text := "0xd4729c72".toList

def x402Decoder : SelectorDecoder where
  name := "x402".toList
  selectors := [SELECTOR_X402_SETTLE]
  decode action ctx := do
    let selector := selectorOf action.data
    if selector ≠ SELECTOR_X402_SETTLE then .ok none
    else
      let token ← readAddress action.data 0
      let payTo ← readAddress action.data 1
      let amount : Int ← readWord action.data 2
      let target ← normalizeAddress action.toAddress
      .ok (some {
        kind := .x402Payment
        target := target
        selector := selector
        nativeValue := action.value
        outflow := [⟨token, amount, .decoded⟩]
        counterparty := some payTo
        notionalUSDC := if token = ctx.trackedAsset then amount else 0
        summary := "Pay ".toList ++ displayUsdc amount ++ " for a metered API call to ".toList ++
          payTo
        raw := action })

/-! ## `decode/registry.ts` -/

structure DecoderRegistry where
  bySelector : OrderedMap Text SelectorDecoder
  wildcards : List SelectorDecoder

namespace DecoderRegistry

def empty : DecoderRegistry := ⟨.empty, []⟩

/-- The loop of `register`; a clash throws with what was already registered in place. -/
def registerSelectors (decoder : SelectorDecoder) :
    List Text → DecoderRegistry → DecoderRegistry × Option JsError
  | [], r => (r, none)
  | selector :: rest, r =>
      if selector = "*".toList then
        registerSelectors decoder rest { r with wildcards := r.wildcards ++ [decoder] }
      else
        let claim := { r with bySelector := r.bySelector.set (toLowerCase selector) decoder }
        match r.bySelector.get (toLowerCase selector) with
        | some existing =>
            if existing.name ≠ decoder.name then
              (r, some ⟨"Error".toList, "Selector ".toList ++ selector ++
                " is claimed by both '".toList ++ existing.name ++ "' and '".toList ++
                decoder.name ++ ("'. Ambiguous decoding would make policy decisions " ++
                "depend on registration order.").toList⟩)
            else registerSelectors decoder rest claim
        | none => registerSelectors decoder rest claim

def register (r : DecoderRegistry) (decoder : SelectorDecoder) :
    DecoderRegistry × Option JsError :=
  registerSelectors decoder decoder.selectors r

/-- The first candidate's intent. -/
def firstIntent (action : Action) (ctx : DecoderContext) :
    List SelectorDecoder → Except JsError (Option NormalizedIntent)
  | [] => .ok none
  | candidate :: rest => do
      match ← candidate.decode action ctx with
      | some intent => .ok (some intent)
      | none => firstIntent action ctx rest

def decode (r : DecoderRegistry) (action : Action) (ctx : DecoderContext) :
    Except JsError NormalizedIntent := do
  let selector := selectorOf action.data
  let candidates := (r.bySelector.get (toLowerCase selector)).toList ++ r.wildcards
  match ← firstIntent action ctx candidates with
  | some intent => .ok intent
  | none =>
      let target ← normalizeAddress action.toAddress
      .ok {
        kind := .unknown
        target := target
        selector := selector
        nativeValue := action.value
        outflow := [⟨ctx.trackedAsset, UNBOUNDED, .declared⟩]
        counterparty := none
        notionalUSDC := UNBOUNDED
        summary := "Unrecognised call ".toList ++ selector ++ " to ".toList ++ action.toAddress
        raw := action }

end DecoderRegistry

end Sdk

end AgentProof
