import AgentProof.Sdk.OwnerSignature

/-!
# Approvals after their expiry

A request for approval says when it expires, and nothing reads it: what the
approver answers is acted upon whenever it comes.  A late outcome blocks the
action exactly when it is a denial, so only where all late ones are does every
call of the owner's path rest on an approval in time.
-/

namespace AgentProof

namespace Sdk

open Js Runs

namespace Process

/-- An outcome for call `i` comes after its request has expired. -/
inductive Late (s : Process) (i : Nat) (outcome : ApprovalOutcome) : ExecuteEvent → Prop
  | expired {intent : NormalizedIntent} {state : PolicyState} {result : ExecuteResult}
      {request : ApprovalRequest}
      (asked : s.calls[i]? = some (.approving intent state result request))
      (late : request.expiresAt < s.now) : Late s i outcome (.approverReplies i (.ok outcome))

/-- The event calls no executor, and call `i` returns a verdict that blocks. -/
def Refuses (account : ProtectedAccount) (i : Nat) (s : Process) (event : ExecuteEvent) : Prop :=
  ∃ s' result, step account s event = some s' ∧ s'.submitted = s.submitted ∧
    s'.calls[i]? = some (.returned result) ∧ result.decision = .block

/-- The request that made the submission is approved before it expires. -/
inductive ApprovesInTime (x : Submitted) (s : Process) : ExecuteEvent → Prop
  | approved {result : ExecuteResult} {request : ApprovalRequest} {outcome : ApprovalOutcome}
      (asked : s.calls[x.call]? = some (.approving x.intent x.state result request))
      (shown : request.intent = x.intent) (approves : outcome.approved = true)
      (inTime : s.now ≤ request.expiresAt) :
      ApprovesInTime x s (.approverReplies x.call (.ok outcome))

section Late

variable {account : ProtectedAccount} {s s' : Process} {event : ExecuteEvent}
  {events : List ExecuteEvent} {i now : Nat} {outcome : ApprovalOutcome}

/-- A denial blocks. -/
theorem Late.refuses (late : Late s i outcome event) (denied : outcome.approved = false) :
    Refuses account i s event := by
  cases late with
  | @expired intent state result request asked expired =>
      have inside := (List.getElem?_eq_some_iff.mp asked).1
      have stepped : step account s (.approverReplies i (.ok outcome)) = some (s.finish i
          { result with
            decision := .block
            reason := "declined by ".toList ++ outcome.approvedBy
            approvalRequest := some request }) := by
        simp only [step, asked, denied, Bool.false_eq_true, if_false]
      exact ⟨_, _, stepped, rfl, List.getElem?_set_self inside, rfl⟩

/-- What follows an approval is no returned verdict that blocks. -/
theorem Sent.not_blocked {day : Nat} {intent : NormalizedIntent} {state : PolicyState}
    {result blocked : ExecuteResult} {new : ExecuteCall} {published : List ExecuteResult}
    {submitted : List Submitted} (allows : result.decision = .allow)
    (sent : Sent account day i intent state result new published submitted)
    (returned : new = .returned blocked) : blocked.decision ≠ .block := by
  cases sent with
  | unexecuted unenforced =>
      cases returned
      simp [allows]
  | sends enforced direct => cases returned
  | sendsAsOwner enforced approved capable => cases returned
  | refused enforced approved incapable => cases returned

theorem Late.not_refuses (late : Late s i outcome event) (approved : outcome.approved = true) :
    ¬ Refuses account i s event := by
  rintro ⟨s', blocked, stepped, -, returned, blocks⟩
  cases late with
  | @expired intent state result request asked expired =>
      have inside := (List.getElem?_eq_some_iff.mp asked).1
      simp only [step, asked, approved, if_true, Option.some.injEq] at stepped
      obtain ⟨new, published, submitted, sent, becomes⟩ := @sent_of_submit account s i intent state
        { result with
          decision := .allow
          reason := "approved by ".toList ++ outcome.approvedBy
          approvalRequest := some request }
      rw [← stepped, becomes] at returned
      dsimp only at returned
      rw [List.getElem?_set_self inside] at returned
      exact sent.not_blocked rfl (Option.some.inj returned) blocks

theorem Late.refuses_iff (late : Late s i outcome event) :
    Refuses account i s event ↔ outcome.approved = false := by
  constructor
  · intro refuses
    by_contra approved
    rw [Bool.not_eq_false] at approved
    exact late.not_refuses approved refuses
  · exact late.refuses

/-- Every late outcome is a denial. -/
def DeniesLate (s : Process) (event : ExecuteEvent) : Prop :=
  ∀ i outcome, Late s i outcome event → outcome.approved = false

/-- In every run, each late outcome calls no executor and blocks its action, and each call of the
owner's path rests on an approval of its own request in time, exactly when every outcome that comes
after the expiry of its request is a denial. -/
theorem late_refused_iff
    (run : Run (step account) (fun _ _ => True) (initial now) events s) :
    (Throughout (step account) (fun _ _ => True)
        (fun s event => ∀ i outcome, Late s i outcome event → Refuses account i s event)
        (initial now) events ∧
      ∀ x ∈ s.submitted, ∀ handed given, x.submission = .sendAsOwner handed given →
        Passes (step account) (fun _ _ => True) (ApprovesInTime x) (initial now) events) ↔
      Throughout (step account) (fun _ _ => True) DeniesLate (initial now) events := by
  constructor
  · rintro ⟨refused, -⟩ before event after s₁ split ran i outcome late
    exact late.refuses_iff.mp (refused before event after s₁ split ran i outcome late)
  · intro denied
    refine ⟨fun before event after s₁ split ran i outcome late =>
      late.refuses (denied before event after s₁ split ran i outcome late), ?_⟩
    intro x mem handed given sent
    obtain ⟨-, -, enforcer, -, authority⟩ := (followed_of_run run).submitted x mem
    rcases authority with ⟨-, direct⟩ | ⟨-, granted, -⟩
    · rw [sent] at direct
      cases direct
    · obtain ⟨before, after, s₁, result, request, outcome, split, ran, asked, shown, approves⟩ :=
        granted
      refine ⟨before, _, after, s₁, split, ran, .approved asked shown approves ?_⟩
      by_contra late
      have denial := denied before _ after s₁ split ran x.call outcome
        (.expired asked (not_le.mp late))
      rw [approves] at denial
      cases denial

end Late

/-! ### A payment that waits -/

/-- The payment waits, and its request expires after two minutes. -/
theorem paymentToApprove_expires : ∃ deps s intent state result request enforcer,
    createAgentProof sampleHash sampleOwnerSetup = .ok deps ∧
      Run (step (deps.protect none)) (fun _ _ => True) (initial 0) paymentToApprove s ∧
      s.calls[0]? = some (.approving intent state result request) ∧
      (deps.protect none).enforcer = some enforcer ∧ enforcer.executor.sendsAsOwner = true ∧
      s.now = 0 ∧ request.expiresAt = 120000 := by
  obtain ⟨deps, s, intent, state, result, request, enforcer, created, run, asked, enforced,
    capable⟩ := paymentToApprove_waits
  have ran : (createAgentProof sampleHash sampleOwnerSetup).toOption.any fun deps =>
      (replay (step (deps.protect none)) (fun _ _ => True) (initial 0) paymentToApprove).any
        fun s => s.now = 0 ∧
          (s.calls[0]?.bind request?).any fun request => request.expiresAt = 120000 := by
    decide +kernel
  obtain ⟨deps', found, ran⟩ := (Option.any_eq_true _ _).mp ran
  obtain rfl : deps = deps' := by
    rw [created] at found
    exact Option.some.inj found
  obtain ⟨s', replayed, facts⟩ := (Option.any_eq_true _ _).mp ran
  obtain rfl := run.target_unique (run_of_replay replayed)
  obtain ⟨clock, expires⟩ := of_decide_eq_true facts
  rw [asked] at expires
  exact ⟨deps, s, intent, state, result, request, enforcer, created, run, asked, enforced, capable,
    clock, of_decide_eq_true expires⟩

/-- Approved at once, the owner's path is called, and that rests on the approval. -/
theorem late_refused_paymentToApprove : ∃ deps s x handed given,
    createAgentProof sampleHash sampleOwnerSetup = .ok deps ∧
      Run (step (deps.protect none)) (fun _ _ => True) (initial 0)
        (paymentToApprove ++ [.approverReplies 0 (.ok (ownerSigns "0x".toList))]) s ∧
      x ∈ s.submitted ∧ x.submission = .sendAsOwner handed given ∧
      Passes (step (deps.protect none)) (fun _ _ => True) (ApprovesInTime x) (initial 0)
        (paymentToApprove ++ [.approverReplies 0 (.ok (ownerSigns "0x".toList))]) := by
  obtain ⟨deps, s, intent, state, result, request, enforcer, created, run, asked, enforced, capable,
    clock, expires⟩ := paymentToApprove_expires
  obtain ⟨s', stepped⟩ := @step_of_approves (deps.protect none) s 0 intent state result request
    (ownerSigns "0x".toList) asked rfl
  have ran := run.concat trivial stepped
  have mem := submitted_of_approval asked rfl stepped enforced capable
  have denied : Throughout (step (deps.protect none)) (fun _ _ => True) DeniesLate (initial 0)
      (paymentToApprove ++ [.approverReplies 0 (.ok (ownerSigns "0x".toList))]) := by
    refine run.throughout_concat.mpr ⟨?_, ?_⟩
    · intro before event after s₁ split _ i outcome late
      have inside : event ∈ paymentToApprove := by
        rw [split]
        exact List.mem_append_right _ List.mem_cons_self
      cases late with
      | expired => simp [paymentToApprove] at inside
    · intro i outcome late
      cases late with
      | expired asked' late =>
          rw [asked] at asked'
          cases asked'
          rw [clock] at late
          cases late
  exact ⟨deps, s', _, _, _, created, ran, mem, rfl,
    ((late_refused_iff ran).mpr denied).2 _ mem _ _ rfl⟩

/-- Approved a millisecond after its request has expired, the owner's path is called all the same. -/
theorem not_late_refused_paymentToApprove : ∃ deps s,
    createAgentProof sampleHash sampleOwnerSetup = .ok deps ∧
      Run (step (deps.protect none)) (fun _ _ => True) (initial 0)
        (paymentToApprove ++ [.tick 120001, .approverReplies 0 (.ok (ownerSigns "0x".toList))]) s ∧
      (∃ x ∈ s.submitted, ∃ handed given, x.submission = .sendAsOwner handed given) ∧
      ¬ Throughout (step (deps.protect none)) (fun _ _ => True)
        (fun s event => ∀ i outcome, Late s i outcome event →
          Refuses (deps.protect none) i s event) (initial 0)
        (paymentToApprove ++
          [.tick 120001, .approverReplies 0 (.ok (ownerSigns "0x".toList))]) := by
  obtain ⟨deps, s, intent, state, result, request, enforcer, created, run, asked, enforced, capable,
    clock, expires⟩ := paymentToApprove_expires
  have later := @Run.concat _ _ _ _ _ _ { s with now := s.now + 120001 } _ _ run trivial
    (rfl : step (deps.protect none) s (.tick 120001) = some _)
  obtain ⟨s', stepped⟩ := @step_of_approves (deps.protect none) { s with now := s.now + 120001 } 0
    intent state result request (ownerSigns "0x".toList) asked rfl
  have ran := later.concat trivial stepped
  have mem := @submitted_of_approval (deps.protect none) { s with now := s.now + 120001 } s' 0
    intent state result request (ownerSigns "0x".toList) enforcer asked rfl stepped enforced capable
  rw [List.append_assoc] at ran
  refine ⟨deps, s', created, ran, ⟨_, mem, _, _, rfl⟩, fun refused => ?_⟩
  have late : Late { s with now := s.now + 120001 } 0 (ownerSigns "0x".toList)
      (.approverReplies 0 (.ok (ownerSigns "0x".toList))) :=
    .expired asked (by dsimp only; rw [clock, expires]; decide)
  refine late.not_refuses rfl (refused (paymentToApprove ++ [.tick 120001]) _ [] _ ?_ later 0 _ late)
  rw [List.append_assoc]
  rfl

end Process

end Sdk

end AgentProof
