import AgentProof.Sdk.Approval
import AgentProof.Sdk.ExecuteAuthority
import AgentProof.Sdk.ExecuteSteps

/-!
# The owner's signature

A human who approves may sign.  What the owner's path is handed is the action
that was shown, and a signature nobody made: the outcome of the approval is read
for whether it was granted and by whom, and its signature is dropped.
-/

namespace AgentProof

namespace Sdk

open Js

/-- What the device confirms it has signed: the text shown and the calldata. -/
theorem signature_of_ledger {transport : LedgerTransport} {request : ApprovalRequest}
    (approves : (LedgerApprover.request transport request).approved = true) :
    ∃ signature, transport.confirm (approvalScreenText request.intent) request.intent.raw.data =
        .ok signature ∧
      (LedgerApprover.request transport request).signature = some signature := by
  unfold LedgerApprover.request at approves ⊢
  cases confirmed : transport.confirm (approvalScreenText request.intent)
      request.intent.raw.data with
  | error e =>
      rw [confirmed] at approves
      cases approves
  | ok signature =>
      rw [confirmed] at approves
      refine ⟨signature, rfl, ?_⟩
      cases signed : transport.address with
      | error e =>
          rw [signed] at approves
          cases approves
      | ok signer => rfl

namespace Process

/-- Every call of the owner's path for call `i` is handed the signature, and the action that was
shown. -/
def Delivers (s : Process) (i : Nat) (shown : Action) (signature : Text) : Prop :=
  ∀ x ∈ s.madeBy i, ∀ request given, x.submission = .sendAsOwner request given →
    given = signature ∧ request.toAddress = shown.toAddress ∧ request.data = shown.data ∧
      request.value = shown.value

section Approved

variable {account : ProtectedAccount} {s s' : Process} {event : ExecuteEvent}
  {events : List ExecuteEvent} {i : Nat} {intent : NormalizedIntent} {state : PolicyState}
  {result : ExecuteResult} {request : ApprovalRequest} {outcome : ApprovalOutcome}

/-- What has been submitted stays submitted. -/
theorem submitted_of_run {Meets : Process → ExecuteEvent → Prop}
    (run : Runs.Run (step account) Meets s events s') : s.submitted ⊆ s'.submitted := by
  induction run with
  | nil => exact fun x mem => mem
  | cons _ stepped _ ih =>
      refine List.Subset.trans ?_ ih
      rcases step_cases stepped with ⟨action, -, begins⟩ | ⟨i, _, _, _, submitted, takes⟩ | idles
      · rw [begins.submitted]
        exact fun x mem => mem
      · rw [takes.submitted]
        exact List.subset_append_left _ _
      · rw [idles.submitted]
        exact fun x mem => mem

/-- An approval that the executor can act upon hands it the empty signature. -/
theorem submitted_of_approval {enforcer : HookEnforcer}
    (asked : s.calls[i]? = some (.approving intent state result request))
    (approves : outcome.approved = true)
    (stepped : step account s (.approverReplies i (.ok outcome)) = some s')
    (enforced : account.enforcer = some enforcer)
    (capable : enforcer.executor.sendsAsOwner = true) :
    ⟨i, utcDay s.now, state, intent, .sendAsOwner (enforcer.request intent) "0x".toList⟩ ∈
      s'.submitted := by
  simp only [step, asked, approves, if_true, Option.some.injEq] at stepped
  rw [← stepped, submit]
  simp only [enforced, HookEnforcer.executeWithOwnerApproval, capable, not_true_eq_false, if_false]
  exact List.mem_append_right _ List.mem_cons_self

/-- Only an executor that can send for the owner is asked to. -/
theorem capable_of_sendAsOwner {now : Nat} {x : Submitted} {handed : UserOperationRequest}
    {given : Text} (run : Runs.Run (step account) (fun _ _ => True) (initial now) events s)
    (made : x ∈ s.madeBy i) (sent : x.submission = .sendAsOwner handed given) :
    ∃ enforcer, account.enforcer = some enforcer ∧ enforcer.executor.sendsAsOwner = true ∧
      handed = enforcer.request x.intent ∧ given = "0x".toList := by
  obtain ⟨-, -, enforcer, enforced, authority⟩ := (followed_of_run run).of_made made
  rcases authority with ⟨-, direct⟩ | ⟨asks, -, owner⟩
  · rw [sent] at direct
    cases direct
  · obtain ⟨enforcer', enforced', allows | ⟨-, -, capable⟩⟩ :=
      ((backed_of_run run).submitted x (List.mem_filter.mp made).1).letsThrough
    · rw [allows] at asks
      cases asks
    · rw [enforced] at enforced'
      cases enforced'
      rw [sent] at owner
      cases owner
      exact ⟨enforcer, enforced, capable, rfl, rfl⟩

/-- A call makes one request. -/
theorem eq_of_made {now : Nat} {x y : Submitted}
    (run : Runs.Run (step account) (fun _ _ => True) (initial now) events s)
    (first : x ∈ s.madeBy i) (second : y ∈ s.madeBy i) : x = y := by
  have one := (followed_of_run run).atMostOne i
  cases made : s.madeBy i with
  | nil =>
      rw [made] at first
      cases first
  | cons a others =>
      have alone : others = [] := by
        rw [made, List.length_cons] at one
        exact List.length_eq_zero_iff.mp (by omega)
      rw [made, alone, List.mem_singleton] at first second
      rw [first, second]

/-- Of an approval that was signed the action shown is always delivered, and the signature exactly
when it is the empty one or the executor cannot send for the owner at all; the signature may be the
one of any device. -/
theorem owner_signature_delivered_iff {now : Nat} {after : List ExecuteEvent} {signature : Text}
    (run : Runs.Run (step account) (fun _ _ => True) (initial now) events s)
    (asked : s.calls[i]? = some (.approving intent state result request))
    (approves : outcome.approved = true) (signed : outcome.signature = some signature)
    (rest : Runs.Run (step account) (fun _ _ => True) s (.approverReplies i (.ok outcome) :: after)
      s') :
    Delivers s' i request.intent.raw "0x".toList ∧
      (Delivers s' i request.intent.raw signature ↔ signature = "0x".toList ∨
        ∀ enforcer, account.enforcer = some enforcer →
          enforcer.executor.sendsAsOwner = false) ∧
      ∀ transport, outcome = LedgerApprover.request transport request →
        transport.confirm (approvalScreenText request.intent) request.intent.raw.data =
          .ok signature := by
  have whole := run.append rest
  have shown : request.intent = intent := ((followed_of_run run).calls i _ asked).2.2.2.1
  -- an approval that can be acted upon leads to the one request of its call
  have leads (enforcer : HookEnforcer) (enforced : account.enforcer = some enforcer)
      (capable : enforcer.executor.sendsAsOwner = true) :
      ⟨i, utcDay s.now, state, intent, .sendAsOwner (enforcer.request intent) "0x".toList⟩ ∈
        s'.madeBy i := by
    cases rest with
    | cons _ stepped later =>
        have submitted := submitted_of_run later
          (submitted_of_approval asked approves stepped enforced capable)
        exact List.mem_filter.mpr ⟨submitted, decide_eq_true rfl⟩
  have empty : Delivers s' i request.intent.raw "0x".toList := by
    intro x made handed given sent
    obtain ⟨enforcer, enforced, capable, rfl, rfl⟩ := capable_of_sendAsOwner whole made sent
    obtain rfl := eq_of_made whole made (leads enforcer enforced capable)
    rw [shown]
    exact ⟨rfl, rfl, rfl, rfl⟩
  refine ⟨empty, ⟨fun delivers => ?_, ?_⟩, ?_⟩
  · by_contra neither
    rw [not_or] at neither
    refine neither.2 fun enforcer enforced => ?_
    by_contra capable
    rw [Bool.not_eq_false] at capable
    exact neither.1 (delivers _ (leads enforcer enforced capable) _ _ rfl).1.symm
  · rintro (rfl | incapable)
    · exact empty
    · intro x made handed given sent
      obtain ⟨enforcer, enforced, capable, -⟩ := capable_of_sendAsOwner whole made sent
      rw [incapable enforcer enforced] at capable
      cases capable
  · rintro transport rfl
    obtain ⟨signature', confirmed, same⟩ := signature_of_ledger approves
    rw [same] at signed
    cases signed
    exact confirmed

theorem step_of_approves (asked : s.calls[i]? = some (.approving intent state result request))
    (approves : outcome.approved = true) :
    ∃ s', step account s (.approverReplies i (.ok outcome)) = some s' := by
  simp only [step, asked, approves, if_true]
  exact ⟨_, rfl⟩

end Approved

/-! ### A payment at the threshold -/

/-- The request of a call that waits for a human. -/
def request? : ExecuteCall → Option ApprovalRequest
  | .approving _ _ _ request => some request
  | _ => none

theorem approving_of_request? {call : ExecuteCall} {request : ApprovalRequest}
    (waits : request? call = some request) :
    ∃ intent state result, call = .approving intent state result request := by
  cases call with
  | approving intent state result waiting =>
      cases waits
      exact ⟨intent, state, result, rfl⟩
  | _ => cases waits

def paymentToApprove : List ExecuteEvent :=
  [.execute (paymentOf 100000000), .spendReplies 0 (.ok 0), .balanceReplies 0 (.ok 1000000000),
    .decides 0]

/-- What the owner answers. -/
def ownerSigns (signature : Text) : ApprovalOutcome := ⟨true, some signature, "owner".toList⟩

/-- The payment waits, and the executor could send it for the owner. -/
theorem paymentToApprove_waits : ∃ deps s intent state result request enforcer,
    createAgentProof sampleHash sampleOwnerSetup = .ok deps ∧
      Runs.Run (step (deps.protect none)) (fun _ _ => True) (initial 0) paymentToApprove s ∧
      s.calls[0]? = some (.approving intent state result request) ∧
      (deps.protect none).enforcer = some enforcer ∧ enforcer.executor.sendsAsOwner = true := by
  have ran : (createAgentProof sampleHash sampleOwnerSetup).toOption.any fun deps =>
      (deps.protect none).enforcer.any (fun enforcer => enforcer.executor.sendsAsOwner) ∧
        (Runs.replay (step (deps.protect none)) (fun _ _ => True) (initial 0)
          paymentToApprove).any fun s => s.calls[0]?.any fun call => (request? call).isSome := by
    decide +kernel
  obtain ⟨deps, found, both⟩ := (Option.any_eq_true _ _).mp ran
  obtain ⟨able, waits⟩ := of_decide_eq_true both
  obtain ⟨enforcer, enforced, capable⟩ := (Option.any_eq_true _ _).mp able
  obtain ⟨s, replayed, waits⟩ := (Option.any_eq_true _ _).mp waits
  obtain ⟨call, at_0, waits⟩ := (Option.any_eq_true _ _).mp waits
  obtain ⟨request, waits⟩ := Option.isSome_iff_exists.mp waits
  obtain ⟨intent, state, result, rfl⟩ := approving_of_request? waits
  exact ⟨deps, s, intent, state, result, request, enforcer, eq_ok_of_toOption found,
    Runs.run_of_replay replayed, at_0, enforced, capable⟩

/-- The empty signature arrives. -/
theorem owner_signature_delivered_paymentToApprove : ∃ deps s s' request,
    createAgentProof sampleHash sampleOwnerSetup = .ok deps ∧
      Runs.Run (step (deps.protect none)) (fun _ _ => True) (initial 0) paymentToApprove s ∧
      step (deps.protect none) s (.approverReplies 0 (.ok (ownerSigns "0x".toList))) = some s' ∧
      s.calls[0]?.bind request? = some request ∧
      Delivers s' 0 request.intent.raw "0x".toList := by
  obtain ⟨deps, s, intent, state, result, request, enforcer, created, run, asked, -, -⟩ :=
    paymentToApprove_waits
  obtain ⟨s', stepped⟩ := @step_of_approves (deps.protect none) s 0 intent state result request
    (ownerSigns "0x".toList) asked rfl
  exact ⟨deps, s, s', request, created, run, stepped, by rw [asked]; rfl,
    (owner_signature_delivered_iff run asked rfl rfl (.cons trivial stepped .nil)).2.1.mpr
      (.inl rfl)⟩

/-- What an owner really signs does not. -/
theorem owner_signature_dropped_paymentToApprove : ∃ deps s s' request,
    createAgentProof sampleHash sampleOwnerSetup = .ok deps ∧
      Runs.Run (step (deps.protect none)) (fun _ _ => True) (initial 0) paymentToApprove s ∧
      step (deps.protect none) s (.approverReplies 0 (.ok (ownerSigns "0xabcd".toList))) = some s' ∧
      s.calls[0]?.bind request? = some request ∧
      (∃ x ∈ s'.madeBy 0, ∃ handed, x.submission = .sendAsOwner handed "0x".toList) ∧
      ¬ Delivers s' 0 request.intent.raw "0xabcd".toList := by
  obtain ⟨deps, s, intent, state, result, request, enforcer, created, run, asked, enforced,
    capable⟩ := paymentToApprove_waits
  obtain ⟨s', stepped⟩ := @step_of_approves (deps.protect none) s 0 intent state result request
    (ownerSigns "0xabcd".toList) asked rfl
  have made : (⟨0, utcDay s.now, state, intent,
      .sendAsOwner (enforcer.request intent) "0x".toList⟩ : Submitted) ∈ s'.madeBy 0 :=
    List.mem_filter.mpr
      ⟨submitted_of_approval asked rfl stepped enforced capable, decide_eq_true rfl⟩
  refine ⟨deps, s, s', request, created, run, stepped, by rw [asked]; rfl,
    ⟨_, made, _, rfl⟩, fun delivers => ?_⟩
  exact absurd (delivers _ made _ _ rfl).1 (by decide)

end Process

end Sdk

end AgentProof
