import AgentProof.Contracts.MockErc20
import AgentProof.Sdk.Readings
import AgentProof.Sdk.RouterRecipients
import AgentProof.Lib.Runs

/-!
# Allowances count when they are granted

The account's calls of its tracked asset, with what the default decoders count
for each, among any calls of others.  What has been debited from the account and
what it has allowed others to take is never more than what was counted, unless
what was counted is without bound.
-/

namespace AgentProof

namespace Sdk

open Js MockERC20

/-! ## No intent counts below zero -/

/-- The counted amount is not negative. -/
abbrev CountsUp (_ : Action) (intent : NormalizedIntent) : Prop := 0 ≤ intent.notionalUSDC

theorem ite_natCast_nonneg (p : Prop) [Decidable p] {amount : Int} (nonneg : 0 ≤ amount) :
    0 ≤ if p then amount else 0 := by
  split_ifs
  · exact nonneg
  · exact le_rfl

theorem swapIntent_countsUp {action : Action} {ctx : DecoderContext} {router selector : Text}
    {g : UniswapV4.Gathered} {intent : NormalizedIntent}
    (nonneg : UniswapV4.Grows .empty g.outflow)
    (read : UniswapV4.swapIntent action ctx router selector g = .ok intent) :
    0 ≤ intent.notionalUSDC := by
  simp only [UniswapV4.swapIntent, bind_eq_ok_iff, Except.ok.injEq, UniswapV4.Outflow.get] at read
  obtain ⟨tracked, ⟨key, -, rfl⟩, -, -, rfl⟩ := read
  exact nonneg key

theorem createDefaultRegistry_countsUp : createDefaultRegistry.Gives CountsUp := by
  intro action ctx intent decoded
  cases reading_of_decode decoded with
  | token _ read =>
      rcases read.flow with ⟨-, none⟩ | ⟨token, amount, nonneg, -, notional⟩
      · exact none.ge
      · rw [CountsUp, notional]
        exact ite_natCast_nonneg _ nonneg
  | native read => exact read.notional.ge
  | swap _ read =>
      have grows :=
        (UniswapV4.sweep_of_readCommands (UniswapV4.Grows.refl _) read.gathered).grows
      exact swapIntent_countsUp grows read.built
  | unbounded read =>
      rw [CountsUp, read.notional]
      decide

/-! ## The account's own calls -/

section Own

variable {action : Action} {ctx : DecoderContext} {intent : NormalizedIntent} {calldata : Bytes}

/-- What the ERC-20 decoder answers for its own selectors. -/
theorem erc20_decode_of_decode
    (claimed : createDefaultRegistry.bySelector.get (toLowerCase (selectorOf action.data)) =
      some erc20Decoder)
    (decoded : createDefaultRegistry.decode action ctx = .ok intent) :
    ∃ answer, erc20Decoder.decode action ctx = .ok answer ∧
      ∀ found, answer = some found → found = intent := by
  simp only [DecoderRegistry.decode, claimed, Option.toList_some, List.cons_append,
    List.nil_append, DecoderRegistry.firstIntent, bind_eq_ok_iff] at decoded
  obtain ⟨first, ⟨answer, own, rest⟩, decoded⟩ := decoded
  refine ⟨answer, own, fun found same => ?_⟩
  subst same
  obtain rfl := Except.ok.inj rest
  exact Except.ok.inj decoded

variable (onAsset : normalizeAddress action.toAddress = .ok ctx.trackedAsset)
  (data : action.data = bytesToHex calldata)
include onAsset data

theorem notional_of_transfer (long : 68 ≤ calldata.length)
    (selector : AgentProof.selectorOf calldata = ExecutionLib.transferSelector)
    (decoded : createDefaultRegistry.decode action ctx = .ok intent) :
    intent.notionalUSDC = (wordAt calldata 36).toNat := by
  have text : selectorOf action.data = SELECTOR_TRANSFER := by
    rw [data, selectorOf_of_bytes (by omega) selector]
    rfl
  obtain ⟨answer, read, same⟩ := erc20_decode_of_decode (by rw [text]; rfl) decoded
  have word := @readWord_bytesToHex calldata 1 (by omega)
  simp only [erc20Decoder, onAsset, if_pos text, decodeTransfer, bind_eq_ok_iff,
    Except.ok.injEq, exists_eq_left'] at read
  obtain ⟨dst, -, _, ⟨amount, found, ⟨⟩⟩, rfl⟩ := read
  rw [data, word] at found
  cases found
  rw [← same _ rfl]
  simp only [if_true]

theorem notional_of_transferFrom {src : Address} (long : 100 ≤ calldata.length)
    (selector : AgentProof.selectorOf calldata = ExecutionLib.transferFromSelector)
    (first : addressArgument calldata 0 = .ok src)
    (decoded : createDefaultRegistry.decode action ctx = .ok intent) :
    intent.notionalUSDC =
      if addressText src = ctx.account then ((wordAt calldata 68).toNat : Int) else 0 := by
  have text : selectorOf action.data = SELECTOR_TRANSFER_FROM := by
    rw [data, selectorOf_of_bytes (by omega) selector]
    rfl
  have other : selectorOf action.data ≠ SELECTOR_TRANSFER := by
    rw [text]
    decide
  obtain ⟨answer, read, same⟩ := erc20_decode_of_decode (by rw [text]; rfl) decoded
  have word := @readWord_bytesToHex calldata 2 (by omega)
  simp only [addressArgument, guard_eq_ok_iff, not_le, Except.ok.injEq] at first
  obtain ⟨clean, rfl⟩ := first
  have address := @readAddress_bytesToHex calldata 0 (by omega) clean
  simp only [erc20Decoder, onAsset, if_neg other, if_pos text, decodeTransferFrom,
    bind_eq_ok_iff, Except.ok.injEq, exists_eq_left'] at read
  obtain ⟨source, named, dst, -, _, ⟨amount, found, ⟨⟩⟩, rfl⟩ := read
  rw [data, address] at named
  rw [data, word] at found
  cases named
  cases found
  rw [← same _ rfl]
  simp only [true_and]

theorem notional_of_approve (long : 68 ≤ calldata.length)
    (selector : AgentProof.selectorOf calldata = ExecutionLib.approveSelector ∨
      AgentProof.selectorOf calldata = Token.increaseAllowanceSelector)
    (decoded : createDefaultRegistry.decode action ctx = .ok intent) :
    intent.notionalUSDC = approvalOutflow (wordAt calldata 36).toNat := by
  have text : selectorOf action.data = SELECTOR_APPROVE ∨
      selectorOf action.data = SELECTOR_INCREASE_ALLOWANCE := by
    rcases selector with approves | increases
    · left
      rw [data, selectorOf_of_bytes (by omega) approves]
      rfl
    · right
      rw [data, selectorOf_of_bytes (by omega) increases]
      rfl
  have claimed : createDefaultRegistry.bySelector.get (toLowerCase (selectorOf action.data)) =
      some erc20Decoder := by
    rcases text with text | text
    · rw [text]
      rfl
    · rw [text]
      rfl
  have other : selectorOf action.data ≠ SELECTOR_TRANSFER ∧
      selectorOf action.data ≠ SELECTOR_TRANSFER_FROM := by
    rcases text with text | text
    · rw [text]
      decide
    · rw [text]
      decide
  obtain ⟨answer, read, same⟩ := erc20_decode_of_decode claimed decoded
  have word := @readWord_bytesToHex calldata 1 (by omega)
  simp only [erc20Decoder, onAsset, if_neg other.1, if_neg other.2, if_pos text, decodeApprove,
    bind_eq_ok_iff, Except.ok.injEq, exists_eq_left'] at read
  obtain ⟨spender, -, _, ⟨amount, found, ⟨⟩⟩, rfl⟩ := read
  rw [data, word] at found
  cases found
  rw [← same _ rfl]
  simp only [if_true]

/-- A call that runs counts for what it names, or without bound. -/
theorem named_le_notional {l l' : MockERC20} {owner : Address} {value : Nat}
    (account : ctx.account = addressText owner) (ran : l.exec owner value calldata = .ok l')
    (decoded : createDefaultRegistry.decode action ctx = .ok intent) :
    UNBOUNDED ≤ intent.notionalUSDC ∨ (named owner calldata : Int) ≤ intent.notionalUSDC := by
  have approval : ∀ amount : Nat, UNBOUNDED ≤ approvalOutflow amount ∨
      (amount : Int) ≤ approvalOutflow amount := by
    intro amount
    unfold approvalOutflow
    split_ifs
    · exact .inl le_rfl
    · exact .inr le_rfl
  rcases executed_of_exec ran with ⟨dst, selector, long, -, -⟩ | ⟨spender, selector, long, -, -⟩ |
    ⟨src, dst, selector, long, first, -, -⟩ | ⟨spender, selector, long, -, -⟩
  · right
    rw [notional_of_transfer onAsset data long selector decoded, named, selector,
      if_neg (by decide)]
  · rw [notional_of_approve onAsset data long (.inl selector) decoded, named, selector,
      if_neg (by decide)]
    exact approval _
  · right
    rw [notional_of_transferFrom onAsset data long selector first decoded, named, selector,
      if_pos rfl, first, account]
    rcases eq_or_ne src owner with rfl | elsewhere
    · rw [if_pos rfl, if_pos rfl]
    · have different : (Except.ok src : Except Revert Address) ≠ .ok owner :=
        fun same => elsewhere (Except.ok.inj same)
      rw [if_neg different, if_neg fun same => elsewhere (addressText_injective same)]
      exact le_rfl
  · rw [notional_of_approve onAsset data long (.inr selector) decoded, named, selector,
      if_neg (by decide)]
    exact approval _

end Own

/-! ## Runs -/

/-- A call of the token: the account's, spelled as the SDK sees it, or another's. -/
inductive TokenCall
  | own (toAddress : Text) (value : Nat) (calldata : Bytes)
  | other (sender : Address) (value : Nat) (calldata : Bytes)

/-- The token, and what was counted for the account's calls. -/
structure Accounted where
  token : MockERC20
  notional : Int

namespace Accounted

variable (account asset : Address)

/-- The account only makes calls of its tracked asset that the default decoders
read; others call as they like. -/
def step (s : Accounted) : TokenCall → Option Accounted
  | .own toAddress value calldata =>
      if normalizeAddress toAddress ≠ .ok (addressText asset) then none
      else
        match createDefaultRegistry.decode ⟨toAddress, bytesToHex calldata, value⟩
            ⟨addressText account, addressText asset⟩ with
        | .ok intent =>
            if intent.kind = .unknown then none
            else some ⟨s.token.afterCall account value calldata, s.notional + intent.notionalUSDC⟩
        | .error _ => none
  | .other sender value calldata =>
      if sender = account then none
      else some { s with token := s.token.afterCall sender value calldata }

/-- What was counted is without bound, or covers all that is lost or stands to be. -/
def Covered (s : Accounted) : Prop :=
  UNBOUNDED ≤ s.notional ∨
    ∀ spenders, (s.token.exposure account spenders : Int) ≤ s.notional

variable {account asset} {s s' : Accounted}

theorem Covered.limited (bounded : ¬ UNBOUNDED ≤ s.notional)
    (covered : ∀ spenders, (s.token.exposure account spenders : Int) ≤ s.notional)
    (spender : Address) : s.token.allowance account spender ≠ unlimited := by
  intro all
  have part := @allowance_le_exposure s.token account spender
  have whole := covered {spender}
  have large : UNBOUNDED ≤ ((s.token.allowance account spender).toNat : Int) := by
    rw [all]
    decide
  omega

theorem Covered.step {call : TokenCall} (covered : Covered account s)
    (stepped : step account asset s call = some s') : Covered account s' := by
  cases call with
  | own toAddress value calldata =>
      simp only [Accounted.step] at stepped
      split_ifs at stepped with elsewhere
      split at stepped
      · next intent decoded =>
          split_ifs at stepped
          obtain rfl := Option.some.inj stepped
          have counts : 0 ≤ intent.notionalUSDC :=
            createDefaultRegistry_countsUp _ _ intent decoded
          rcases covered with unbounded | covered
          · left
            change UNBOUNDED ≤ s.notional + intent.notionalUSDC
            omega
          · cases ran : s.token.exec account value calldata with
            | error e =>
                right
                intro spenders
                have before := covered spenders
                simp only [afterCall, ran]
                omega
            | ok token =>
                have asset := not_not.mp elsewhere
                rcases named_le_notional asset rfl rfl ran decoded with unbounded | named
                · left
                  have nonneg := (Int.natCast_nonneg _).trans (covered ∅)
                  change UNBOUNDED ≤ s.notional + intent.notionalUSDC
                  omega
                · right
                  intro spenders
                  have before := covered spenders
                  have raised := exposure_of_own ran spenders
                  simp only [afterCall, ran]
                  omega
      · cases stepped
  | other sender value calldata =>
      simp only [Accounted.step] at stepped
      split_ifs at stepped with own
      obtain rfl := Option.some.inj stepped
      rcases covered with unbounded | covered
      · exact .inl unbounded
      · by_cases bounded : UNBOUNDED ≤ s.notional
        · exact .inl bounded
        · right
          intro spenders
          cases ran : s.token.exec sender value calldata with
          | error e =>
              simp only [afterCall, ran]
              exact covered spenders
          | ok token =>
              have kept := exposure_of_other ran own (Covered.limited bounded covered) spenders
              have before := covered (insert sender spenders)
              simp only [afterCall, ran]
              omega

/-- From any balances, with nothing allowed by the account: whatever the account
and the others do, what was counted covers what was debited from the account and
what it still allows, unless it is without bound. -/
theorem approvals_accounted (balanceOf : Address → Uint256)
    (allowance : Address → Address → Uint256) (none : ∀ spender, allowance account spender = 0)
    {calls : List TokenCall}
    (run : Runs.Run (step account asset) (fun _ _ => True) ⟨⟨balanceOf, allowance, []⟩, 0⟩ calls s) :
    UNBOUNDED ≤ s.notional ∨ ∀ spenders : Finset Address,
      (s.token.debited account : Int) +
        ∑ spender ∈ spenders, ((s.token.allowance account spender).toNat : Int) ≤ s.notional := by
  have start : Covered account ⟨⟨balanceOf, allowance, []⟩, 0⟩ := by
    right
    intro spenders
    simp [exposure, debited, outstanding, none]
  have covered : Covered account s :=
    run.invariant (fun _ _ _ covered _ stepped => covered.step stepped) start
  refine covered.imp_right fun covered spenders => ?_
  have bound := covered spenders
  rw [exposure, outstanding] at bound
  push_cast at bound
  exact bound

/-! ### An approval that is drained later -/

/-- The account approves 50 and sends 10; in between the spender takes 30. -/
def approvalDrained : List TokenCall :=
  [.own (addressText 0xa55e7) 0 (Token.encodeCall ExecutionLib.approveSelector [0x22, 50]),
    .other 0x22 0 (Token.encodeCall ExecutionLib.transferFromSelector [0xacc0, 0x33, 30]),
    .own (addressText 0xa55e7) 0 (Token.encodeCall ExecutionLib.transferSelector [0x44, 10])]

theorem approvalDrained_accounted :
    ∃ s, Runs.Run (step 0xacc0 0xa55e7) (fun _ _ => True)
        ⟨⟨fun _ => 1000, fun _ _ => 0, []⟩, 0⟩ approvalDrained s ∧
      s.notional = 60 ∧ s.token.debited 0xacc0 = 40 ∧ s.token.allowance 0xacc0 0x22 = 20 ∧
      (UNBOUNDED ≤ s.notional ∨ ∀ spenders : Finset Address,
        (s.token.debited 0xacc0 : Int) +
          ∑ spender ∈ spenders, ((s.token.allowance 0xacc0 spender).toNat : Int) ≤ s.notional) := by
  have ran : (Runs.replay (step 0xacc0 0xa55e7) (fun _ _ => True)
      ⟨⟨fun _ => 1000, fun _ _ => 0, []⟩, 0⟩ approvalDrained).any fun s =>
        s.notional = 60 ∧ s.token.debited 0xacc0 = 40 ∧ s.token.allowance 0xacc0 0x22 = 20 := by
    decide +kernel
  obtain ⟨s, replayed, counts⟩ := (Option.any_eq_true _ _).mp ran
  obtain ⟨notional, debited, left⟩ := of_decide_eq_true counts
  have run := Runs.run_of_replay replayed
  exact ⟨s, run, notional, debited, left,
    approvals_accounted (fun _ => 1000) (fun _ _ => 0) (fun _ => rfl) run⟩

end Accounted

end Sdk

end AgentProof
