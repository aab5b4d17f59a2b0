import AgentProof.Lib.OrderedMap
import AgentProof.Sdk.Policies

/-!
# What an evaluation returns

`PolicyEngine.evaluate` against its description: the decision, one check and one
row a policy, the violations up to the first block, and the proof of the policy
that decided.  A policy whose id is empty is never given its proof, since the
engine asks whether the id is truthy.
-/

namespace AgentProof

namespace Sdk

open Js

/-! ## The result with its proof -/

structure ProofReference where
  property : Text
  status : Text
  tool : Text
  solverTimeMs : Int
  artifactPath : Text
  counterexample : Option Text
  deriving DecidableEq, Repr

namespace PolicyEngine

/-- `decidingPolicy ? proofs?.get(decidingPolicy) : undefined`; the empty text is falsy. -/
def attachedProof (proofs : Option (OrderedMap Text ProofReference)) (decidingPolicy : Option Text) :
    Option ProofReference :=
  match decidingPolicy with
  | none | some [] => none
  | some id => proofs.bind fun proofs => proofs.get id

/-- The proof `evaluate` attaches. -/
def proof (proofs : Option (OrderedMap Text ProofReference)) (result : PolicyResult) :
    Option ProofReference :=
  attachedProof proofs result.decidingPolicy

/-! ## The description -/

section Description

variable (intent : NormalizedIntent) (state : PolicyState)

/-- The policy's verdict on the intent. -/
def verdict (policy : Policy) : Decision := (policy.evaluate intent state).decision

def violationsOf (policy : Policy) : List PolicyViolation :=
  (policy.evaluate intent state).violation.toList

/-- The elements up to and including the first that stops. -/
def throughFirst {α : Type} (stops : α → Bool) : List α → List α
  | [] => []
  | x :: rest => if stops x then [x] else x :: throughFirst stops rest

/-- The first policy to return a decision. -/
def firstWith (decision : Decision) (policies : List Policy) : Option Policy :=
  policies.find? fun policy => verdict intent state policy = decision

/-- The policy that decides: the first to block, else the first to ask. -/
def decider (policies : List Policy) : Option Policy :=
  (firstWith intent state .block policies).or (firstWith intent state .requireApproval policies)

end Description

section Loop

variable {intent : NormalizedIntent} {state : PolicyState} {p : Progress} {policy : Policy}

/-- One turn adds one row and one check. -/
theorem step_rows :
    (p.step intent state policy).policyRows =
        p.policyRows ++ [policyRow policy (policy.evaluate intent state)] ∧
      (p.step intent state policy).checks =
        p.checks ++ [policyCheck policy (policy.evaluate intent state)] := by
  cases settled : p.settled with
  | true => simp [Progress.step, settled]
  | false =>
      cases decided : (policy.evaluate intent state).decision with
      | allow => simp [Progress.step, settled, decided]
      | block => simp [Progress.step, settled, decided]
      | requireApproval =>
          by_cases allowed : p.decision = .allow
          · simp [Progress.step, settled, decided, allowed]
          · simp [Progress.step, settled, decided, allowed]

theorem rows_foldl (p : Progress) (policies : List Policy) :
    (policies.foldl (Progress.step intent state) p).policyRows = p.policyRows ++
        policies.map (fun policy => policyRow policy (policy.evaluate intent state)) ∧
      (policies.foldl (Progress.step intent state) p).checks = p.checks ++
        policies.map (fun policy => policyCheck policy (policy.evaluate intent state)) := by
  induction policies generalizing p with
  | nil => simp
  | cons policy rest ih =>
      obtain ⟨row, check⟩ := @step_rows intent state p policy
      obtain ⟨rows, checks⟩ := ih (p.step intent state policy)
      rw [List.foldl_cons, rows, checks, row, check]
      simp

/-- A settled loop stays as it is, but for its rows. -/
theorem step_of_settled (settled : p.settled = true) :
    (p.step intent state policy).settled = true ∧
      (p.step intent state policy).violations = p.violations ∧
      (p.step intent state policy).decidingPolicy = p.decidingPolicy := by
  simp [Progress.step, settled]

/-- A turn of an open loop: the violation is kept, and a block settles. -/
theorem step_of_open (settles : p.settled = false) :
    (p.step intent state policy).settled = decide (verdict intent state policy = .block) ∧
      (p.step intent state policy).violations =
        p.violations ++ violationsOf intent state policy := by
  cases decided : (policy.evaluate intent state).decision with
  | allow => simp [Progress.step, settles, decided, verdict, violationsOf]
  | block => simp [Progress.step, settles, decided, verdict, violationsOf]
  | requireApproval =>
      by_cases allowed : p.decision = .allow
      · simp [Progress.step, settles, decided, allowed, verdict, violationsOf]
      · simp [Progress.step, settles, decided, allowed, verdict, violationsOf]

theorem settled_foldl (settled : p.settled = true) (policies : List Policy) :
    (policies.foldl (Progress.step intent state) p).violations = p.violations ∧
      (policies.foldl (Progress.step intent state) p).decidingPolicy = p.decidingPolicy := by
  induction policies generalizing p with
  | nil => exact ⟨rfl, rfl⟩
  | cons policy rest ih =>
      obtain ⟨still, violations, deciding⟩ := @step_of_settled intent state p policy settled
      obtain ⟨laterViolations, laterDeciding⟩ := ih still
      rw [List.foldl_cons, laterViolations, laterDeciding]
      exact ⟨violations, deciding⟩

/-- An open loop keeps the violations up to the first block. -/
theorem violations_foldl (settles : p.settled = false) (policies : List Policy) :
    (policies.foldl (Progress.step intent state) p).violations = p.violations ++
      (throughFirst (fun policy => verdict intent state policy = .block) policies).flatMap
        (violationsOf intent state) := by
  induction policies generalizing p with
  | nil => simp [throughFirst]
  | cons policy rest ih =>
      obtain ⟨settled, violations⟩ := @step_of_open intent state p policy settles
      rw [List.foldl_cons, throughFirst]
      by_cases blocks : verdict intent state policy = .block
      · rw [decide_eq_true blocks] at settled
        rw [if_pos (decide_eq_true blocks), (settled_foldl settled rest).1, violations,
          List.flatMap_singleton]
      · rw [decide_eq_false blocks] at settled
        rw [if_neg (by simpa using blocks), ih settled, violations, List.flatMap_cons,
          List.append_assoc]

theorem firstWith_cons (decision : Decision) (policy : Policy) (rest : List Policy) :
    firstWith intent state decision (policy :: rest) =
      if verdict intent state policy = decision then some policy
      else firstWith intent state decision rest := by
  rw [firstWith, List.find?_cons]
  by_cases here : verdict intent state policy = decision
  · simp [here]
  · simp [here, firstWith]

/-- An open loop is decided by the first block, else by the first to ask unless one has. -/
theorem deciding_foldl (settles : p.settled = false) (policies : List Policy) :
    (policies.foldl (Progress.step intent state) p).decidingPolicy =
      match firstWith intent state .block policies with
      | some policy => some policy.id
      | none =>
          if p.decision = .allow then
            ((firstWith intent state .requireApproval policies).map Policy.id).or p.decidingPolicy
          else p.decidingPolicy := by
  induction policies generalizing p with
  | nil => simp [firstWith]
  | cons policy rest ih =>
      have settled := (@step_of_open intent state p policy settles).1
      rw [List.foldl_cons, firstWith_cons, firstWith_cons]
      cases decided : verdict intent state policy with
      | block =>
          rw [decided, decide_eq_true rfl] at settled
          have deciding : (p.step intent state policy).decidingPolicy = some policy.id := by
            unfold verdict at decided
            simp [Progress.step, settles, decided]
          rw [(settled_foldl settled rest).2, deciding]
          rfl
      | allow =>
          rw [decided] at settled
          have same : (p.step intent state policy).decision = p.decision ∧
              (p.step intent state policy).decidingPolicy = p.decidingPolicy := by
            unfold verdict at decided
            simp [Progress.step, settles, decided]
          rw [ih settled, same.1, same.2]
          rfl
      | requireApproval =>
          rw [decided] at settled
          rw [ih settled]
          unfold verdict at decided
          by_cases allowed : p.decision = .allow
          · have asks : (p.step intent state policy).decision = .requireApproval ∧
                (p.step intent state policy).decidingPolicy = some policy.id := by
              simp [Progress.step, settles, decided, allowed]
            rw [asks.1, asks.2]
            simp [allowed]
          · have same : (p.step intent state policy).decision = p.decision ∧
                (p.step intent state policy).decidingPolicy = p.decidingPolicy := by
              simp [Progress.step, settles, decided, allowed]
            rw [same.1, same.2]
            simp [allowed]

end Loop

/-! ## An evaluation -/

section Evaluate

variable {policies order : List Policy} {intent : NormalizedIntent} {state : PolicyState}

theorem evaluate_eq_requireApproval_iff :
    (evaluate policies intent state).decision = .requireApproval ↔
      (∀ policy ∈ policies, verdict intent state policy ≠ .block) ∧
        ∃ policy ∈ policies, verdict intent state policy = .requireApproval := by
  have blocks := @evaluate_eq_block_iff policies intent state
  have allows := @evaluate_eq_allow_iff policies intent state
  constructor
  · intro asks
    rw [asks] at blocks allows
    have unblocked : ∀ policy ∈ policies, verdict intent state policy ≠ .block :=
      fun policy mem blocked => Decision.noConfusion (blocks.mpr ⟨policy, mem, blocked⟩)
    refine ⟨unblocked, ?_⟩
    by_contra none_asks
    refine Decision.noConfusion (allows.mpr fun policy mem => ?_)
    cases decided : (policy.evaluate intent state).decision with
    | allow => rfl
    | block => exact absurd decided (unblocked policy mem)
    | requireApproval => exact absurd ⟨policy, mem, decided⟩ none_asks
  · rintro ⟨unblocked, policy, mem, asks⟩
    cases decided : (evaluate policies intent state).decision with
    | allow =>
        have allowed := allows.mp decided policy mem
        exact absurd (asks.symm.trans allowed) (by decide)
    | block =>
        obtain ⟨other, inList, blocked⟩ := blocks.mp decided
        exact absurd blocked (unblocked other inList)
    | requireApproval => rfl

/-- The order of the policies does not matter to the decision. -/
theorem evaluate_perm (same : order.Perm policies) :
    (evaluate order intent state).decision = (evaluate policies intent state).decision := by
  cases decided : (evaluate policies intent state).decision with
  | allow =>
      rw [evaluate_eq_allow_iff] at decided ⊢
      exact fun policy mem => decided policy (same.subset mem)
  | block =>
      rw [evaluate_eq_block_iff] at decided ⊢
      obtain ⟨policy, mem, blocks⟩ := decided
      exact ⟨policy, same.symm.subset mem, blocks⟩
  | requireApproval =>
      rw [evaluate_eq_requireApproval_iff] at decided ⊢
      obtain ⟨unblocked, policy, mem, asks⟩ := decided
      exact ⟨fun policy mem => unblocked policy (same.subset mem), policy, same.symm.subset mem,
        asks⟩

/-- Two intents that get the same verdict of every policy get the same decision. -/
theorem evaluate_congr {intent' : NormalizedIntent} (same : ∀ policy ∈ policies,
    verdict intent state policy = verdict intent' state policy) :
    (evaluate policies intent state).decision = (evaluate policies intent' state).decision := by
  cases decided : (evaluate policies intent' state).decision with
  | allow =>
      rw [evaluate_eq_allow_iff] at decided ⊢
      exact fun policy mem => (same policy mem).trans (decided policy mem)
  | block =>
      rw [evaluate_eq_block_iff] at decided ⊢
      obtain ⟨policy, mem, blocks⟩ := decided
      exact ⟨policy, mem, (same policy mem).trans blocks⟩
  | requireApproval =>
      rw [evaluate_eq_requireApproval_iff] at decided ⊢
      obtain ⟨unblocked, policy, mem, asks⟩ := decided
      refine ⟨fun policy mem blocks => unblocked policy mem ?_, policy, mem, ?_⟩
      · rw [← same policy mem, blocks]
      · rw [same policy mem, asks]

theorem evaluate_decidingPolicy : (evaluate policies intent state).decidingPolicy =
    (decider intent state policies).map Policy.id := by
  refine (@deciding_foldl intent state .start rfl policies).trans ?_
  rw [decider]
  cases firstWith intent state .block policies with
  | some policy => rfl
  | none => simp [Progress.start]

/-- Everything the description of `evaluate` says. -/
structure MeetsDescription (proofs : Option (OrderedMap Text ProofReference))
    (policies : List Policy) (intent : NormalizedIntent) (state : PolicyState) : Prop where
  block : (evaluate policies intent state).decision = .block ↔
    ∃ policy ∈ policies, verdict intent state policy = .block
  requireApproval : (evaluate policies intent state).decision = .requireApproval ↔
    (∀ policy ∈ policies, verdict intent state policy ≠ .block) ∧
      ∃ policy ∈ policies, verdict intent state policy = .requireApproval
  allow : (evaluate policies intent state).decision = .allow ↔
    ∀ policy ∈ policies, verdict intent state policy = .allow
  permuted : ∀ order : List Policy, order.Perm policies →
    (evaluate order intent state).decision = (evaluate policies intent state).decision
  checks : (evaluate policies intent state).checks.map (fun check => (check.policy, check.decision)) =
    policies.map fun policy => (policy.id, verdict intent state policy)
  rows : (evaluate policies intent state).policyRows.map (fun row => (row.id, row.decision)) =
    policies.map fun policy => (policy.id, verdict intent state policy)
  violations : (evaluate policies intent state).violations =
    (throughFirst (fun policy => verdict intent state policy = .block) policies).flatMap
      (violationsOf intent state)
  proved : proof proofs (evaluate policies intent state) =
    (decider intent state policies).bind fun policy => proofs.bind fun proofs => proofs.get policy.id
  unproved : (evaluate policies intent state).decision = .allow →
    proof proofs (evaluate policies intent state) = none

/-- Where every policy allows, none decides. -/
theorem decider_eq_none_of_allow (allows : (evaluate policies intent state).decision = .allow) :
    decider intent state policies = none := by
  rw [evaluate_eq_allow_iff] at allows
  have unfound : ∀ decision, decision ≠ .allow →
      firstWith intent state decision policies = none := by
    intro decision other
    rw [firstWith, List.find?_eq_none]
    intro policy mem
    rw [decide_eq_true_eq, verdict, allows policy mem]
    exact other.symm
  rw [decider, unfound .block (by decide), unfound .requireApproval (by decide)]
  rfl

/-- The proof attached is the decider's, unless its id is empty. -/
theorem proof_eq_iff (proofs : Option (OrderedMap Text ProofReference)) :
    proof proofs (evaluate policies intent state) =
        ((decider intent state policies).bind fun policy =>
          proofs.bind fun proofs => proofs.get policy.id) ↔
      ((∃ policy, decider intent state policies = some policy ∧ policy.id = []) →
        (proofs.bind fun proofs => proofs.get []) = none) := by
  rw [proof, evaluate_decidingPolicy]
  cases decides : decider intent state policies with
  | none => simp [attachedProof]
  | some policy =>
      cases named : policy.id with
      | nil => simp [attachedProof, named, eq_comm]
      | cons c id => simp [attachedProof, named]

/-- The description holds unless the policy that decides has the empty id and there is a proof
under it. -/
theorem meetsDescription_iff (proofs : Option (OrderedMap Text ProofReference))
    (policies : List Policy) (intent : NormalizedIntent) (state : PolicyState) :
    MeetsDescription proofs policies intent state ↔
      ((∃ policy, decider intent state policies = some policy ∧ policy.id = []) →
        (proofs.bind fun proofs => proofs.get []) = none) := by
  rw [← proof_eq_iff]
  constructor
  · exact MeetsDescription.proved
  · intro attached
    obtain ⟨rows, checks⟩ := @rows_foldl intent state .start policies
    refine ⟨evaluate_eq_block_iff, evaluate_eq_requireApproval_iff, evaluate_eq_allow_iff,
      fun order same => evaluate_perm same, ?_, ?_, ?_, attached, ?_⟩
    · rw [evaluate, checks, Progress.start, List.nil_append, List.map_map]
      rfl
    · rw [evaluate, rows, Progress.start, List.nil_append, List.map_map]
      rfl
    · exact @violations_foldl intent state .start rfl policies
    · intro allows
      rw [attached, decider_eq_none_of_allow allows]
      rfl

/-! ### A policy without a name -/

def namelessPolicy : Policy := ⟨[], true, fun _ _ => ⟨.block, none, none⟩⟩

def sampleProof : ProofReference :=
  ⟨"MAX_TRANSFER".toList, "PROVEN".toList, "solc-smtchecker".toList, 1,
    "proofs/max-transfer.json".toList, none⟩

/-- A native transfer of 5 wei. -/
def sampleTip : NormalizedIntent where
  kind := .nativeTransfer
  target := "0x2222222222222222222222222222222222222222".toList
  selector := "0x".toList
  nativeValue := 5
  outflow := [⟨NATIVE_ASSET, 5, .decoded⟩]
  counterparty := some "0x2222222222222222222222222222222222222222".toList
  notionalUSDC := 0
  summary := "Send 5 wei".toList
  raw := ⟨"0x2222222222222222222222222222222222222222".toList, "0x".toList, 5⟩

def sampleDay : PolicyState :=
  ⟨"0x1111111111111111111111111111111111111111".toList, 0, 0, 0, NATIVE_ASSET⟩

/-- It blocks, and the proof under its id is not attached. -/
theorem not_meetsDescription_nameless :
    decider sampleTip sampleDay [namelessPolicy] = some namelessPolicy ∧
      ¬ MeetsDescription (some (OrderedMap.empty.set [] sampleProof)) [namelessPolicy] sampleTip
        sampleDay := by
  refine ⟨rfl, fun meets => ?_⟩
  have attached := meets.proved
  cases attached

end Evaluate

end PolicyEngine

end Sdk

end AgentProof
