import AgentProof.Sdk.EngineSpec
import AgentProof.Sdk.GraphState

/-!
# Tightening never loosens

Decisions are ordered by how much they refuse.  The engine's decision is the
worst verdict of its policies, and each of the five default policies refuses at
least as much when its limit is tightened or the state gets worse; so does the
engine.  Of two spend readings the larger one is the worse state, and it is the
one that reconciliation picks.
-/

namespace AgentProof

namespace Sdk

open Js

/-! ## The order of decisions -/

def Decision.severity : Decision → Nat
  | .allow => 0
  | .requireApproval => 1
  | .block => 2

/-- ALLOW < REQUIRE_APPROVAL < BLOCK. -/
instance : LE Decision := ⟨fun d d' => d.severity ≤ d'.severity⟩

theorem Decision.allow_le (d : Decision) : .allow ≤ d := Nat.zero_le _

theorem Decision.le_block (d : Decision) : d ≤ .block := by
  cases d <;> decide

theorem Decision.le_refl (d : Decision) : d ≤ d := Nat.le_refl _

theorem Decision.eq_block_of_le {d : Decision} (bound : .block ≤ d) : d = .block := by
  cases d with
  | block => rfl
  | allow => exact absurd bound (by decide)
  | requireApproval => exact absurd bound (by decide)

theorem Decision.ne_allow_of_le {d : Decision} (bound : .requireApproval ≤ d) : d ≠ .allow := by
  rintro rfl
  exact absurd bound (by decide)

theorem Decision.requireApproval_le {d : Decision} (other : d ≠ .allow) : .requireApproval ≤ d := by
  cases d with
  | allow => exact absurd rfl other
  | requireApproval => exact Decision.le_refl _
  | block => exact Decision.le_block _

/-- A check with two outcomes refuses more when its condition holds less often. -/
theorem ite_le_ite {p q : Prop} [Decidable p] [Decidable q] {refusal : Decision} (weaker : q → p) :
    (if p then Decision.allow else refusal) ≤ if q then Decision.allow else refusal := by
  by_cases holds : q
  · rw [if_pos holds, if_pos (weaker holds)]
    exact Decision.le_refl _
  · rw [if_neg holds]
    split_ifs
    · exact Decision.allow_le _
    · exact Decision.le_refl _

namespace PolicyEngine

/-- An evaluation is as strict as another when each of the other's policies is matched by one as
strict. -/
theorem evaluate_mono {policies policies' : List Policy} {intent : NormalizedIntent}
    {state state' : PolicyState}
    (matched : ∀ policy ∈ policies, ∃ policy' ∈ policies',
      verdict intent state policy ≤ verdict intent state' policy') :
    (evaluate policies intent state).decision ≤ (evaluate policies' intent state').decision := by
  cases decided : (evaluate policies intent state).decision with
  | allow => exact Decision.allow_le _
  | block =>
      obtain ⟨policy, mem, blocks⟩ := evaluate_eq_block_iff.mp decided
      obtain ⟨policy', mem', bound⟩ := matched policy mem
      rw [verdict, blocks] at bound
      rw [evaluate_eq_block_iff.mpr ⟨policy', mem', Decision.eq_block_of_le bound⟩]
      exact Decision.le_refl _
  | requireApproval =>
      obtain ⟨-, policy, mem, asks⟩ := evaluate_eq_requireApproval_iff.mp decided
      obtain ⟨policy', mem', bound⟩ := matched policy mem
      rw [asks] at bound
      refine Decision.requireApproval_le fun allows => ?_
      exact Decision.ne_allow_of_le bound (evaluate_eq_allow_iff.mp allows policy' mem')

end PolicyEngine

/-! ## The five default policies -/

section Defaults

open PolicyEngine

variable {policy policy' : ResolvedPolicy} {allowUnknown allowUnknown' : Bool}
  {state state' : PolicyState} (intent : NormalizedIntent)

/-- The second configuration and state are at least as strict as the first. -/
structure Tightens (policy : ResolvedPolicy) (allowUnknown : Bool) (state : PolicyState)
    (policy' : ResolvedPolicy) (allowUnknown' : Bool) (state' : PolicyState) : Prop where
  maxTransaction : policy'.maxTransaction ≤ policy.maxTransaction
  dailySpend : policy'.dailySpend ≤ policy.dailySpend
  approvalThreshold : policy'.approvalThreshold ≤ policy.approvalThreshold
  minBalance : policy.minBalance ≤ policy'.minBalance
  contracts : ∀ contract ∈ policy'.allowedContracts, contract ∈ policy.allowedContracts
  recipients : ∀ recipient ∈ policy'.allowedRecipients, recipient ∈ policy.allowedRecipients
  unknown : allowUnknown' = true → allowUnknown = true
  spent : state.dailySpend ≤ state'.dailySpend
  balance : state'.balance ≤ state.balance

theorem Tightens.admits (tightens : Tightens policy allowUnknown state policy' allowUnknown' state')
    (admits : Admits policy'.allowedContracts policy'.allowedRecipients allowUnknown' intent) :
    Admits policy.allowedContracts policy.allowedRecipients allowUnknown intent := by
  obtain ⟨readable, target, counterparty⟩ := admits
  refine ⟨fun unknown => tightens.unknown (readable unknown), tightens.contracts _ target,
    fun other named moves => ?_⟩
  rcases counterparty other named moves with recipient | contract
  · exact .inl (tightens.recipients other recipient)
  · exact .inr (tightens.contracts other contract)

theorem allowlist_mono (tightens : Tightens policy allowUnknown state policy' allowUnknown' state') :
    verdict intent state
        (AllowlistPolicy policy.allowedContracts policy.allowedRecipients allowUnknown) ≤
      verdict intent state'
        (AllowlistPolicy policy'.allowedContracts policy'.allowedRecipients allowUnknown') := by
  rcases allowlist_decision policy'.allowedContracts policy'.allowedRecipients allowUnknown' intent
    state' with ⟨admits, -⟩ | ⟨-, blocks⟩
  · have allows := (@allowlist_eq_allow_iff intent state _ _ _).mpr (tightens.admits intent admits)
    rw [verdict, allows]
    exact Decision.allow_le _
  · rw [verdict, verdict, blocks]
    exact Decision.le_block _

/-- The decision under a resolved policy. -/
def decisionUnder (policy : ResolvedPolicy) (allowUnknown : Bool) (intent : NormalizedIntent)
    (state : PolicyState) : Decision :=
  (evaluate (createEngine policy allowUnknown).policies intent state).decision

theorem decisionUnder_mono
    (tightens : Tightens policy allowUnknown state policy' allowUnknown' state') :
    decisionUnder policy allowUnknown intent state ≤
      decisionUnder policy' allowUnknown' intent state' := by
  have maximum : verdict intent state (MaxTransactionPolicy policy.maxTransaction) ≤
      verdict intent state' (MaxTransactionPolicy policy'.maxTransaction) := by
    rw [verdict, verdict, maxTransaction_decision, maxTransaction_decision]
    exact ite_le_ite fun within => within.trans tightens.maxTransaction
  have reserve : verdict intent state (MinBalancePolicy policy.minBalance) ≤
      verdict intent state' (MinBalancePolicy policy'.minBalance) := by
    rw [verdict, verdict, minBalance_decision, minBalance_decision]
    refine ite_le_ite fun left => ?_
    have floor := tightens.minBalance
    have balance := tightens.balance
    omega
  have daily : verdict intent state (DailySpendPolicy policy.dailySpend) ≤
      verdict intent state' (DailySpendPolicy policy'.dailySpend) := by
    rw [verdict, verdict, dailySpend_decision, dailySpend_decision]
    refine ite_le_ite fun within => ?_
    have limit := tightens.dailySpend
    have spent := tightens.spent
    omega
  have threshold : verdict intent state (ApprovalThresholdPolicy policy.approvalThreshold) ≤
      verdict intent state' (ApprovalThresholdPolicy policy'.approvalThreshold) := by
    rw [verdict, verdict, approvalThreshold_decision, approvalThreshold_decision]
    exact ite_le_ite fun below => below.trans_le tightens.approvalThreshold
  refine evaluate_mono fun member mem => ?_
  simp only [createEngine, List.mem_cons, List.not_mem_nil, or_false] at mem
  rcases mem with rfl | rfl | rfl | rfl | rfl
  · exact ⟨_, by simp [createEngine], allowlist_mono intent tightens⟩
  · exact ⟨_, by simp [createEngine], maximum⟩
  · exact ⟨_, by simp [createEngine], reserve⟩
  · exact ⟨_, by simp [createEngine], daily⟩
  · exact ⟨_, by simp [createEngine], threshold⟩

/-! ## Two spend readings -/

/-- A day on which more was spent is judged at least as strictly. -/
theorem decisionUnder_spend_mono (policy : ResolvedPolicy) (allowUnknown : Bool)
    (intent : NormalizedIntent) (state : PolicyState) {less more : Int} (grows : less ≤ more) :
    decisionUnder policy allowUnknown intent { state with dailySpend := less } ≤
      decisionUnder policy allowUnknown intent { state with dailySpend := more } :=
  decisionUnder_mono intent
    ⟨le_rfl, le_rfl, le_rfl, le_rfl, fun _ mem => mem, fun _ mem => mem, id, grows, le_rfl⟩

end Defaults

namespace GraphStateProvider

variable {options : Options} {account : Text} {indexed onchain : Option Int} {value : Int}

/-- The reconciled spend is at least either reading. -/
theorem le_of_reconcile (chosen : reconcile options account indexed onchain = .ok value)
    {reading : Int} (read : indexed = some reading ∨ onchain = some reading) : reading ≤ value := by
  cases indexed with
  | none =>
      cases onchain with
      | none => rcases read with read | read <;> cases read
      | some onchain =>
          rcases read with read | read
          · cases read
          · cases read
            simp only [reconcile, Except.ok.injEq] at chosen
            exact chosen.le
  | some indexed =>
      cases onchain with
      | none =>
          rcases read with read | read
          · cases read
            simp only [reconcile, Except.ok.injEq] at chosen
            exact chosen.le
          · cases read
      | some onchain =>
          have larger : value = if indexed > onchain then indexed else onchain := by
            by_cases diverge : indexed = onchain
            · subst diverge
              simp only [reconcile, ne_eq, not_true_eq_false, if_false, Except.ok.injEq] at chosen
              rw [← chosen, if_neg (lt_irrefl _)]
            · simp only [reconcile, ne_eq, diverge, not_false_eq_true, if_true] at chosen
              cases logs : options.logger
              · rw [logs] at chosen
                exact (Except.ok.inj chosen).symm
              · rw [logs, if_pos rfl] at chosen
                obtain ⟨normalized, -, picked⟩ := bind_eq_ok_iff.mp chosen
                exact (Except.ok.inj picked).symm
          rw [larger]
          rcases read with read | read <;> cases read <;> split_ifs <;> omega

end GraphStateProvider

/-- A stricter configuration and a worse state never lower the decision, so the
decision on the reconciled spend is at least the one on either reading. -/
theorem tightening_never_loosens (intent : NormalizedIntent) :
    (∀ (policy policy' : ResolvedPolicy) (allowUnknown allowUnknown' : Bool)
        (state state' : PolicyState),
      Tightens policy allowUnknown state policy' allowUnknown' state' →
        decisionUnder policy allowUnknown intent state ≤
          decisionUnder policy' allowUnknown' intent state') ∧
    ∀ (policy : ResolvedPolicy) (allowUnknown : Bool) (state : PolicyState)
        (options : GraphStateProvider.Options) (account : Text) (indexed onchain : Option Int)
        (value : Int),
      GraphStateProvider.reconcile options account indexed onchain = .ok value →
      ∀ reading, indexed = some reading ∨ onchain = some reading →
        decisionUnder policy allowUnknown intent { state with dailySpend := reading } ≤
          decisionUnder policy allowUnknown intent { state with dailySpend := value } := by
  constructor
  · intro policy policy' allowUnknown allowUnknown' state state' tightens
    exact decisionUnder_mono intent tightens
  · intro policy allowUnknown state options account indexed onchain value chosen reading read
    exact decisionUnder_spend_mono policy allowUnknown intent state
      (GraphStateProvider.le_of_reconcile chosen read)

/-! ### A payment on two days -/

/-- A document whose one contract is the asset. -/
def sampleDocument : PolicyDocument where
  version := "agentproof/v1".toList
  agent := "payer.agentproof.eth".toList
  chainId := 1
  asset := ⟨addressText 0xa55e7, 6⟩
  policies := ⟨some "100".toList, some "150".toList, some "90".toList, some "0".toList,
    some [addressText 0xa55e7], some [addressText 0x22]⟩
  enforcement := ⟨addressText 0x400c, addressText 0xacc0⟩

/-- Up to 100 a payment and `daily` a day, to one recipient. -/
def sampleLimits (daily : Int) : ResolvedPolicy where
  document := sampleDocument
  hash := "0x01".toList
  maxTransaction := 100
  dailySpend := daily
  approvalThreshold := 90
  minBalance := 0
  allowedContracts := [addressText 0xa55e7]
  allowedRecipients := [addressText 0x22]
  asset := addressText 0xa55e7
  decimals := 6
  account := addressText 0xacc0
  hook := addressText 0x400c

/-- A transfer of 50. -/
def samplePayment : NormalizedIntent where
  kind := .transfer
  target := addressText 0xa55e7
  selector := "0xa9059cbb".toList
  nativeValue := 0
  outflow := [⟨addressText 0xa55e7, 50, .decoded⟩]
  counterparty := some (addressText 0x22)
  notionalUSDC := 50
  summary := "Transfer".toList
  raw := ⟨addressText 0xa55e7, "0xa9059cbb".toList, 0⟩

def sampleState (spent : Int) : PolicyState :=
  ⟨addressText 0xacc0, 0, spent, 1000, addressText 0xa55e7⟩

/-- The payment passes at 40 spent of 150 and is blocked at 110, or when the
day's limit is lowered to 80; the reconciled reading is the one that blocks. -/
theorem tightening_never_loosens_sample :
    decisionUnder (sampleLimits 150) false samplePayment (sampleState 40) = .allow ∧
    decisionUnder (sampleLimits 80) false samplePayment (sampleState 40) = .block ∧
    decisionUnder (sampleLimits 150) false samplePayment (sampleState 110) = .block ∧
    decisionUnder (sampleLimits 150) false samplePayment (sampleState 40) ≤
      decisionUnder (sampleLimits 80) false samplePayment (sampleState 40) ∧
    GraphStateProvider.reconcile ⟨[], none, true, none⟩ (addressText 0xacc0) (some 40) (some 110) =
      .ok 110 ∧
    decisionUnder (sampleLimits 150) false samplePayment (sampleState 40) ≤
      decisionUnder (sampleLimits 150) false samplePayment (sampleState 110) := by
  have reconciled : GraphStateProvider.reconcile ⟨[], none, true, none⟩ (addressText 0xacc0)
      (some 40) (some 110) = .ok 110 := by decide +kernel
  have tightened : Tightens (sampleLimits 150) false (sampleState 40) (sampleLimits 80) false
      (sampleState 40) :=
    ⟨by decide, by decide, by decide, by decide, fun _ mem => mem, fun _ mem => mem, id, by decide,
      by decide⟩
  obtain ⟨lowered, reread⟩ := tightening_never_loosens samplePayment
  refine ⟨by decide +kernel, by decide +kernel, by decide +kernel, ?_, reconciled, ?_⟩
  · exact lowered (sampleLimits 150) (sampleLimits 80) false false (sampleState 40) (sampleState 40)
      tightened
  · exact reread (sampleLimits 150) false (sampleState 40) ⟨[], none, true, none⟩
      (addressText 0xacc0) (some 40) (some 110) 110 reconciled 40 (.inl rfl)

end Sdk

end AgentProof
