import AgentProof.Sdk.Hex

/-!
# Policies and the engine

`policies/index.ts` and `core/PolicyEngine.ts`.  Each policy is a pure function
of an intent and the gathered state; the engine evaluates every policy in
order, settles on the first block and otherwise on the first request for
approval.  The engine's decision counter, its clock reading and the proof
attached to the deciding policy do not enter a decision and are left out.
-/

namespace AgentProof

namespace Sdk

open Js

/-! ## `policies/index.ts` -/

def pass : PolicyEvaluation := ⟨.allow, none, none⟩

/-- P1: max transaction value. -/
def MaxTransactionPolicy (limit : Int) : Policy where
  id := "maxTransaction".toList
  formallyVerified := true
  evaluate intent _ :=
    if intent.notionalUSDC ≤ limit then pass
    else {
      decision := .block
      reason := some (displayUsdc intent.notionalUSDC ++ " exceeds the ".toList ++
        displayUsdc limit ++ " per-transaction limit".toList)
      violation := some {
        policy := "maxTransaction".toList
        limit := limit
        observed := intent.notionalUSDC
        provenance := (intent.outflow.head?.map AssetAmount.provenance).getD .declared
        message := "per-transaction ceiling exceeded".toList } }

/-- P2: cumulative daily spend. -/
def DailySpendPolicy (limit : Int) : Policy where
  id := "dailySpend".toList
  formallyVerified := true
  evaluate intent state :=
    let wouldBe := state.dailySpend + intent.notionalUSDC
    if wouldBe ≤ limit then pass
    else {
      decision := .block
      reason := some ("this would bring today's spend to ".toList ++ displayUsdc wouldBe ++
        ", over the ".toList ++ displayUsdc limit ++ " daily limit (".toList ++
        displayUsdc state.dailySpend ++ " already spent)".toList)
      violation := some {
        policy := "dailySpend".toList
        limit := limit
        observed := wouldBe
        provenance := .decoded
        message := "daily cumulative ceiling exceeded".toList } }

/-- `AllowlistPolicy.movesValue`. -/
def movesValue (intent : NormalizedIntent) : Bool := intent.outflow.any fun flow => flow.amount > 0

/-- P3 and P4: allowlisted contracts and recipients. -/
def AllowlistPolicy (contracts recipients : List Text) (allowUnknownSelectors : Bool) :
    Policy where
  id := "allowlist".toList
  formallyVerified := false
  evaluate intent _ :=
    if intent.kind = .unknown ∧ ¬ allowUnknownSelectors then {
      decision := .block
      reason := some ("calldata ".toList ++ intent.selector ++
        " could not be decoded, so its spend cannot be bounded".toList)
      violation := some {
        policy := "unknownSelector".toList
        limit := 0
        observed := intent.notionalUSDC
        provenance := .declared
        message := "undecodable calldata".toList } }
    else if intent.target ∉ contracts then {
      decision := .block
      reason := some (intent.target ++ " is not an allowlisted contract".toList)
      violation := some {
        policy := "allowedContracts".toList
        limit := contracts.length
        observed := 0
        provenance := .decoded
        message := "target not in allowlist".toList } }
    else
      match intent.counterparty with
      | none => pass
      | some counterparty =>
          if movesValue intent ∧ ¬ (counterparty ∈ recipients ∨ counterparty ∈ contracts) then {
            decision := .block
            reason := some (counterparty ++ " is not an allowlisted recipient".toList)
            violation := some {
              policy := "allowedRecipients".toList
              limit := recipients.length
              observed := 0
              provenance := .decoded
              message := "counterparty not in allowlist".toList } }
          else pass

/-- P5: minimum wallet balance. -/
def MinBalancePolicy (floor : Int) : Policy where
  id := "minBalance".toList
  formallyVerified := false
  evaluate intent state :=
    let projected := state.balance - intent.notionalUSDC
    let shown := if projected < 0 then 0 else projected
    if projected ≥ floor then pass
    else {
      decision := .block
      reason := some ("this would leave ".toList ++ displayUsdc shown ++ ", below the ".toList ++
        displayUsdc floor ++ " reserve".toList)
      violation := some {
        policy := "minBalance".toList
        limit := floor
        observed := shown
        provenance := .decoded
        message := "reserve balance would be breached".toList } }

/-- P6: human approval threshold. -/
def ApprovalThresholdPolicy (threshold : Int) : Policy where
  id := "approvalThreshold".toList
  formallyVerified := false
  evaluate intent _ :=
    if intent.notionalUSDC < threshold then pass
    else {
      decision := .requireApproval
      reason := some (displayUsdc intent.notionalUSDC ++ " is at or above the ".toList ++
        displayUsdc threshold ++ " approval threshold".toList)
      violation := none }

/-! ## `core/PolicyEngine.ts` -/

def labelPolicy (id : Text) : Text :=
  if id = "allowlist".toList then "Allowed contract / recipient".toList
  else if id = "maxTransaction".toList then "Max transaction".toList
  else if id = "minBalance".toList then "Minimum balance".toList
  else if id = "dailySpend".toList then "Daily spend".toList
  else if id = "approvalThreshold".toList then "Human approval threshold".toList
  else id

structure PolicyResult where
  decision : Decision
  reason : Text
  intent : NormalizedIntent
  violations : List PolicyViolation
  policyRows : List PolicyRow
  checks : List PolicyCheck
  decidingPolicy : Option Text

/-- The row of one policy. -/
def policyRow (policy : Policy) (evaluation : PolicyEvaluation) : PolicyRow where
  id := policy.id
  name := labelPolicy policy.id
  decision := evaluation.decision
  passed := evaluation.decision = .allow
  formallyVerified := policy.formallyVerified
  reason := evaluation.reason.getD
    (if evaluation.decision = .allow then "passed".toList else "policy decided".toList)
  limit := evaluation.violation.map PolicyViolation.limit
  observed := evaluation.violation.map PolicyViolation.observed
  provenance := evaluation.violation.map PolicyViolation.provenance

def policyCheck (policy : Policy) (evaluation : PolicyEvaluation) : PolicyCheck where
  policy := policy.id
  decision := evaluation.decision
  reason := evaluation.reason
  provenance := evaluation.violation.map PolicyViolation.provenance

namespace PolicyEngine

/-- The loop's variables. -/
structure Progress where
  decision : Decision
  reason : Text
  decidingPolicy : Option Text
  settled : Bool
  violations : List PolicyViolation
  policyRows : List PolicyRow
  checks : List PolicyCheck

def Progress.start : Progress :=
  ⟨.allow, "within all policy limits".toList, none, false, [], [], []⟩

/-- One turn of the loop. -/
def Progress.step (intent : NormalizedIntent) (state : PolicyState) (p : Progress)
    (policy : Policy) : Progress :=
  let evaluation := policy.evaluate intent state
  let p := { p with
    policyRows := p.policyRows ++ [policyRow policy evaluation]
    checks := p.checks ++ [policyCheck policy evaluation] }
  if p.settled then p
  else
    let p := { p with violations := p.violations ++ evaluation.violation.toList }
    match evaluation.decision with
    | .block => { p with
        decision := .block
        reason := evaluation.reason.getD "blocked by policy".toList
        decidingPolicy := some policy.id
        settled := true }
    | .requireApproval =>
        if p.decision = .allow then { p with
          decision := .requireApproval
          reason := evaluation.reason.getD "human approval required".toList
          decidingPolicy := some policy.id }
        else p
    | .allow => p

/-- Every policy is evaluated; only the decision short-circuits. -/
def evaluate (policies : List Policy) (intent : NormalizedIntent) (state : PolicyState) :
    PolicyResult :=
  let p := policies.foldl (Progress.step intent state) .start
  ⟨p.decision, p.reason, intent, p.violations, p.policyRows, p.checks, p.decidingPolicy⟩

end PolicyEngine

/-! ## When a policy passes -/

section Passes

variable {intent : NormalizedIntent} {state : PolicyState} {limit : Int}

theorem maxTransaction_decision :
    ((MaxTransactionPolicy limit).evaluate intent state).decision =
      if intent.notionalUSDC ≤ limit then .allow else .block :=
  apply_ite PolicyEvaluation.decision _ _ _

theorem dailySpend_decision :
    ((DailySpendPolicy limit).evaluate intent state).decision =
      if state.dailySpend + intent.notionalUSDC ≤ limit then .allow else .block :=
  apply_ite PolicyEvaluation.decision _ _ _

theorem minBalance_decision :
    ((MinBalancePolicy limit).evaluate intent state).decision =
      if limit ≤ state.balance - intent.notionalUSDC then .allow else .block :=
  apply_ite PolicyEvaluation.decision _ _ _

theorem approvalThreshold_decision :
    ((ApprovalThresholdPolicy limit).evaluate intent state).decision =
      if intent.notionalUSDC < limit then .allow else .requireApproval :=
  apply_ite PolicyEvaluation.decision _ _ _

section Allowlist

variable {contracts recipients : List Text} {allowUnknownSelectors : Bool}

/-- What the allowlist lets through: a readable call of a listed contract, with
a listed counterparty if it moves value. -/
def Admits (contracts recipients : List Text) (allowUnknownSelectors : Bool)
    (intent : NormalizedIntent) : Prop :=
  (intent.kind = .unknown → allowUnknownSelectors = true) ∧ intent.target ∈ contracts ∧
    ∀ counterparty, intent.counterparty = some counterparty → movesValue intent = true →
      counterparty ∈ recipients ∨ counterparty ∈ contracts

/-- A check that refuses on a condition and otherwise leaves it to the next. -/
theorem refusal_decision {p q : Prop} [Decidable p] {refusal next : PolicyEvaluation}
    (refuses : refusal.decision = .block)
    (rest : q ∧ next.decision = .allow ∨ ¬ q ∧ next.decision = .block) :
    (¬ p ∧ q) ∧ (if p then refusal else next).decision = .allow ∨
      ¬ (¬ p ∧ q) ∧ (if p then refusal else next).decision = .block := by
  by_cases refused : p
  · exact .inr ⟨fun both => both.1 refused, by rw [if_pos refused, refuses]⟩
  · rw [if_neg refused]
    rcases rest with ⟨holds, allows⟩ | ⟨fails, blocks⟩
    · exact .inl ⟨⟨refused, holds⟩, allows⟩
    · exact .inr ⟨fun both => fails both.2, blocks⟩

/-- The allowlist allows what it admits and blocks the rest. -/
theorem allowlist_decision (contracts recipients : List Text) (allowUnknownSelectors : Bool)
    (intent : NormalizedIntent) (state : PolicyState) :
    Admits contracts recipients allowUnknownSelectors intent ∧
        ((AllowlistPolicy contracts recipients allowUnknownSelectors).evaluate
          intent state).decision = .allow ∨
      ¬ Admits contracts recipients allowUnknownSelectors intent ∧
        ((AllowlistPolicy contracts recipients allowUnknownSelectors).evaluate
          intent state).decision = .block := by
  have counterparty : (∀ counterparty, intent.counterparty = some counterparty →
      movesValue intent = true → counterparty ∈ recipients ∨ counterparty ∈ contracts) ↔
      ∀ counterparty, intent.counterparty = some counterparty →
        ¬ (movesValue intent = true ∧
          ¬ (counterparty ∈ recipients ∨ counterparty ∈ contracts)) := by
    simp only [not_and, not_not]
  have readable : (intent.kind = .unknown → allowUnknownSelectors = true) ↔
      ¬ (intent.kind = .unknown ∧ ¬ allowUnknownSelectors = true) := by
    simp only [not_and, not_not]
  rw [Admits, readable, counterparty, ← not_not (a := intent.target ∈ contracts)]
  refine refusal_decision rfl (refusal_decision rfl ?_)
  cases named : intent.counterparty with
  | none => exact .inl ⟨nofun, rfl⟩
  | some c =>
      by_cases refused : movesValue intent = true ∧ ¬ (c ∈ recipients ∨ c ∈ contracts)
      · exact .inr ⟨fun all => all c rfl refused,
          congrArg PolicyEvaluation.decision (if_pos refused)⟩
      · refine .inl ⟨?_, congrArg PolicyEvaluation.decision (if_neg refused)⟩
        rintro _ ⟨⟩
        exact refused

theorem allowlist_eq_allow_iff :
    ((AllowlistPolicy contracts recipients allowUnknownSelectors).evaluate
        intent state).decision = .allow ↔
      Admits contracts recipients allowUnknownSelectors intent := by
  rcases allowlist_decision contracts recipients allowUnknownSelectors intent
    state with ⟨admits, allows⟩ | ⟨bars, blocks⟩
  · exact iff_of_true allows admits
  · exact iff_of_false (by rw [blocks]; decide) bars

theorem allowlist_eq_block_iff :
    ((AllowlistPolicy contracts recipients allowUnknownSelectors).evaluate
        intent state).decision = .block ↔
      ¬ Admits contracts recipients allowUnknownSelectors intent := by
  rcases allowlist_decision contracts recipients allowUnknownSelectors intent
    state with ⟨admits, allows⟩ | ⟨bars, blocks⟩
  · exact iff_of_false (by rw [allows]; decide) (not_not.mpr admits)
  · exact iff_of_true blocks bars

end Allowlist

end Passes

/-! ## What the engine decides -/

namespace PolicyEngine

section Loop

variable {intent : NormalizedIntent} {state : PolicyState} {p : Progress} {policy : Policy}

/-- The loop is settled exactly when it has blocked. -/
def Progress.Coherent (p : Progress) : Prop := p.settled = true ↔ p.decision = .block

theorem Progress.step_of_settled (settled : p.settled = true) :
    (p.step intent state policy).decision = p.decision ∧
      (p.step intent state policy).settled = true := by
  simp [step, settled]

theorem Progress.step_of_allow (allows : (policy.evaluate intent state).decision = .allow) :
    (p.step intent state policy).decision = p.decision ∧
      (p.step intent state policy).settled = p.settled := by
  cases settled : p.settled <;> simp [step, settled, allows]

theorem Progress.step_of_block (unsettled : p.settled = false)
    (blocks : (policy.evaluate intent state).decision = .block) :
    (p.step intent state policy).decision = .block ∧
      (p.step intent state policy).settled = true := by
  simp [step, unsettled, blocks]

theorem Progress.step_of_requireApproval (unsettled : p.settled = false)
    (asks : (policy.evaluate intent state).decision = .requireApproval) :
    (p.step intent state policy).decision =
        (if p.decision = .allow then .requireApproval else p.decision) ∧
      (p.step intent state policy).settled = false := by
  by_cases allowed : p.decision = .allow <;> simp [step, unsettled, asks, allowed]

/-- One turn keeps the loop coherent, blocks only on a block and keeps allowing
only on an allow. -/
theorem Progress.Coherent.step (coherent : p.Coherent) :
    (p.step intent state policy).Coherent ∧
      ((p.step intent state policy).decision = .block ↔
        p.decision = .block ∨ (policy.evaluate intent state).decision = .block) ∧
      ((p.step intent state policy).decision = .allow ↔
        p.decision = .allow ∧ (policy.evaluate intent state).decision = .allow) := by
  rw [Coherent] at coherent ⊢
  cases settled : p.settled with
  | true =>
      obtain ⟨same, still⟩ := @Progress.step_of_settled intent state p policy settled
      have blocked := coherent.mp settled
      rw [same, still]
      simp [blocked]
  | false =>
      have unblocked : p.decision ≠ .block := fun blocked => by simp [coherent.mpr blocked] at settled
      cases decided : (policy.evaluate intent state).decision with
      | allow =>
          obtain ⟨same, still⟩ := Progress.step_of_allow (p := p) decided
          rw [same, still, settled]
          simp [unblocked]
      | block =>
          obtain ⟨blocks, settles⟩ := Progress.step_of_block settled decided
          rw [blocks, settles]
          simp
      | requireApproval =>
          obtain ⟨asks, still⟩ := Progress.step_of_requireApproval settled decided
          rw [asks, still]
          split_ifs with allowed <;> simp [unblocked, allowed]

/-- The whole loop blocks exactly when some policy does. -/
theorem Progress.Coherent.foldl_block_iff (coherent : p.Coherent) (policies : List Policy) :
    (policies.foldl (Progress.step intent state) p).decision = .block ↔
      p.decision = .block ∨
        ∃ policy ∈ policies, (policy.evaluate intent state).decision = .block := by
  induction policies generalizing p with
  | nil => simp
  | cons policy policies ih =>
      obtain ⟨next, blocks, -⟩ := @coherent.step intent state _ policy
      rw [List.foldl_cons, ih next, blocks, List.exists_mem_cons_iff, or_assoc]

/-- The whole loop allows exactly when every policy does. -/
theorem Progress.Coherent.foldl_allow_iff (coherent : p.Coherent) (policies : List Policy) :
    (policies.foldl (Progress.step intent state) p).decision = .allow ↔
      p.decision = .allow ∧
        ∀ policy ∈ policies, (policy.evaluate intent state).decision = .allow := by
  induction policies generalizing p with
  | nil => simp
  | cons policy policies ih =>
      obtain ⟨next, -, allows⟩ := @coherent.step intent state _ policy
      rw [List.foldl_cons, ih next, allows, List.forall_mem_cons, and_assoc]

end Loop

theorem Progress.start_coherent : Progress.start.Coherent := by
  simp [Progress.Coherent, Progress.start]

section Evaluate

variable {policies : List Policy} {intent : NormalizedIntent} {state : PolicyState}

/-- The engine blocks exactly when some policy does. -/
theorem evaluate_eq_block_iff :
    (evaluate policies intent state).decision = .block ↔
      ∃ policy ∈ policies, (policy.evaluate intent state).decision = .block := by
  refine (Progress.start_coherent.foldl_block_iff policies).trans (or_iff_right ?_)
  simp [Progress.start]

/-- The engine allows exactly when every policy does. -/
theorem evaluate_eq_allow_iff :
    (evaluate policies intent state).decision = .allow ↔
      ∀ policy ∈ policies, (policy.evaluate intent state).decision = .allow := by
  refine (Progress.start_coherent.foldl_allow_iff policies).trans (and_iff_right ?_)
  rfl

end Evaluate

end PolicyEngine

end Sdk

end AgentProof
