import AgentProof.Sdk.Execute

/-!
# The turns of a call

What one event does to one call of `execute`, as a relation: where the call
stands before and after, what it publishes and what it hands to the executor.
Every step of the process begins a call, makes one call take a turn, or leaves
all calls as they are.
-/

namespace AgentProof

namespace Sdk

open Js

/-- The verdict on an intent. -/
def ProtectedAccount.decision (account : ProtectedAccount) (intent : NormalizedIntent)
    (state : PolicyState) : Decision :=
  (PolicyEngine.evaluate account.deps.engine.policies intent state).decision

/-- The call an event belongs to. -/
def ExecuteEvent.call? : ExecuteEvent → Option Nat
  | .spendReplies i _ | .balanceReplies i _ | .decides i | .approverReplies i _
  | .executorReplies i _ | .recordReplies i _ => some i
  | .execute _ | .setStatus _ | .tick _ => none

/-- The promise of the call is no longer pending. -/
def ExecuteCall.settled : ExecuteCall → Bool
  | .returned _ | .rejected _ => true
  | _ => false

namespace Process

section Verdict

variable {account : ProtectedAccount} {s : Process} {i : Nat} {intent : NormalizedIntent}
  {state : PolicyState}

/-! ## The verdict -/

/-- The verdict, with the number of the evaluation. -/
def verdict (account : ProtectedAccount) (s : Process) (intent : NormalizedIntent)
    (state : PolicyState) : ExecuteResult :=
  ⟨PolicyEngine.evaluate account.deps.engine.policies intent state, s.sequence + 1, none, none⟩

/-- A verdict allows, or refuses, or asks an approver there is. -/
theorem decision_cases (account : ProtectedAccount) (intent : NormalizedIntent)
    (state : PolicyState) :
    account.decision intent state = .allow ∨
      (account.decision intent state = .block ∨
        account.decision intent state = .requireApproval ∧ account.deps.approver = false) ∨
      account.decision intent state = .requireApproval ∧ account.deps.approver = true := by
  cases account.decision intent state with
  | allow => exact .inl rfl
  | block => exact .inr (.inl (.inl rfl))
  | requireApproval =>
      cases account.deps.approver with
      | false => exact .inr (.inl (.inr ⟨rfl, rfl⟩))
      | true => exact .inr (.inr ⟨rfl, rfl⟩)

theorem evaluate_of_allow (allows : account.decision intent state = .allow) :
    s.evaluate account i intent state = ({ s with sequence := s.sequence + 1 } : Process).submit
      account i intent state (verdict account s intent state) := by
  unfold ProtectedAccount.decision at allows
  unfold Process.evaluate
  simp only [allows]
  rfl

theorem evaluate_of_refused (refused : account.decision intent state = .block ∨
      account.decision intent state = .requireApproval ∧ account.deps.approver = false) :
    ∃ result, result.txHash = none ∧ s.evaluate account i intent state =
      ({ s with sequence := s.sequence + 1 } : Process).finish i result := by
  unfold ProtectedAccount.decision at refused
  unfold Process.evaluate
  rcases refused with blocks | ⟨asks, alone⟩
  · simp only [blocks]
    exact ⟨_, rfl, rfl⟩
  · simp only [asks, alone]
    exact ⟨_, rfl, rfl⟩

theorem evaluate_of_requireApproval
    (asks : account.decision intent state = .requireApproval)
    (approver : account.deps.approver = true) :
    ∃ request : ApprovalRequest, request.intent = intent ∧ s.evaluate account i intent state =
      ({ s with sequence := s.sequence + 1 } : Process).become i
        (.approving intent state (verdict account s intent state) request) := by
  unfold ProtectedAccount.decision at asks
  unfold Process.evaluate
  simp only [asks, approver, not_true_eq_false, if_false]
  exact ⟨_, rfl, rfl⟩

end Verdict

/-- Where a call stands that has just been made. -/
def begun (account : ProtectedAccount) (s : Process) (action : Action) : ExecuteCall :=
  match account.deps.engine.decoders.decode action account.deps.engine.decoderContext with
  | .ok intent => .gathering intent (utcDay s.now) none none
  | .error e => .rejected e

/-! ## One call -/

/-- What follows once the result is to allow. -/
inductive Sent (account : ProtectedAccount) (day i : Nat) (intent : NormalizedIntent)
    (state : PolicyState) (result : ExecuteResult) :
    ExecuteCall → List ExecuteResult → List Submitted → Prop
  | unexecuted (unenforced : account.enforcer = none) :
      Sent account day i intent state result
        (.returned { result with
          reason := result.reason ++ " (not executed: no executor configured)".toList })
        [result] []
  | sends {enforcer : HookEnforcer} (enforced : account.enforcer = some enforcer)
      (direct : result.approvalRequest = none) :
      Sent account day i intent state result (.submitting intent result) []
        [⟨i, day, state, intent, enforcer.execute intent⟩]
  | sendsAsOwner {enforcer : HookEnforcer} {request : ApprovalRequest}
      (enforced : account.enforcer = some enforcer)
      (approved : result.approvalRequest = some request)
      (capable : enforcer.executor.sendsAsOwner = true) :
      Sent account day i intent state result (.submitting intent result) []
        [⟨i, day, state, intent, .sendAsOwner (enforcer.request intent) "0x".toList⟩]
  | refused {enforcer : HookEnforcer} {request : ApprovalRequest} {e : JsError}
      (enforced : account.enforcer = some enforcer)
      (approved : result.approvalRequest = some request)
      (incapable : enforcer.executor.sendsAsOwner = false) :
      Sent account day i intent state result (.rejected e) [] []

/-- The reply a call waits for is an error. -/
inductive Fails (i : Nat) (e : JsError) : ExecuteEvent → ExecuteCall → Prop
  | spend {intent dayUtc balance} :
      Fails i e (.spendReplies i (.error e)) (.gathering intent dayUtc none balance)
  | balance {intent dayUtc dailySpend} :
      Fails i e (.balanceReplies i (.error e)) (.gathering intent dayUtc dailySpend none)
  | approver {intent state result request} :
      Fails i e (.approverReplies i (.error e)) (.approving intent state result request)
  | executor {intent result} :
      Fails i e (.executorReplies i (.error e)) (.submitting intent result)
  | record {intent result txHash} :
      Fails i e (.recordReplies i (.error e)) (.recording intent result txHash)

/-- One event of a call: its place before and after, what is published, what is submitted. -/
inductive Turn (account : ProtectedAccount) (s : Process) (i : Nat) :
    ExecuteEvent → ExecuteCall → ExecuteCall → List ExecuteResult → List Submitted → Prop
  | spend {intent dayUtc balance} (dailySpend : Int) :
      Turn account s i (.spendReplies i (.ok dailySpend)) (.gathering intent dayUtc none balance)
        (.gathering intent dayUtc (some dailySpend) balance) [] []
  | balance {intent dayUtc dailySpend} (balance : Int) :
      Turn account s i (.balanceReplies i (.ok balance)) (.gathering intent dayUtc dailySpend none)
        (.gathering intent dayUtc dailySpend (some balance)) [] []
  | allowed {intent dayUtc dailySpend balance state new published submitted}
      (gathered : state = ⟨account.deps.policy.account, dayUtc, dailySpend, balance,
        account.deps.policy.asset⟩)
      (allows : account.decision intent state = .allow)
      (sent : Sent account (utcDay s.now) i intent state (verdict account s intent state) new
        published submitted) :
      Turn account s i (.decides i) (.gathering intent dayUtc (some dailySpend) (some balance)) new
        published submitted
  | blocked {intent dayUtc dailySpend balance state result}
      (gathered : state = ⟨account.deps.policy.account, dayUtc, dailySpend, balance,
        account.deps.policy.asset⟩)
      (refused : account.decision intent state = .block ∨
        account.decision intent state = .requireApproval ∧ account.deps.approver = false)
      (unhashed : result.txHash = none) :
      Turn account s i (.decides i) (.gathering intent dayUtc (some dailySpend) (some balance))
        (.returned result) [result] []
  | asks {intent dayUtc dailySpend balance state request}
      (gathered : state = ⟨account.deps.policy.account, dayUtc, dailySpend, balance,
        account.deps.policy.asset⟩)
      (asked : account.decision intent state = .requireApproval)
      (approver : account.deps.approver = true) (shown : request.intent = intent) :
      Turn account s i (.decides i) (.gathering intent dayUtc (some dailySpend) (some balance))
        (.approving intent state (verdict account s intent state) request) [] []
  | approved {intent state result request outcome new published submitted}
      (approves : outcome.approved = true)
      (sent : Sent account (utcDay s.now) i intent state
        { result with
          decision := .allow
          reason := "approved by ".toList ++ outcome.approvedBy
          approvalRequest := some request } new published submitted) :
      Turn account s i (.approverReplies i (.ok outcome)) (.approving intent state result request)
        new published submitted
  | declined {intent state} {result declined : ExecuteResult} {request outcome}
      (declines : outcome.approved = false) (unhashed : declined.txHash = result.txHash) :
      Turn account s i (.approverReplies i (.ok outcome)) (.approving intent state result request)
        (.returned declined) [declined] []
  | executed {intent result} (txHash : Text) :
      Turn account s i (.executorReplies i (.ok txHash)) (.submitting intent result)
        (.recording intent result txHash) [] []
  | recorded {intent result txHash} :
      Turn account s i (.recordReplies i (.ok ())) (.recording intent result txHash)
        (.returned { result with txHash := some txHash }) [{ result with txHash := some txHash }] []
  | failed {event old e} (fails : Fails i e event old) :
      Turn account s i event old (.rejected e) [] []

/-! ## One step of the process -/

/-- A call is made. -/
structure Begins (account : ProtectedAccount) (s s' : Process) (action : Action) : Prop where
  calls : s'.calls = s.calls ++ [begun account s action]
  published : s'.published = s.published
  submitted : s'.submitted = s.submitted
  now : s'.now = s.now

/-- A call takes a turn. -/
structure Takes (account : ProtectedAccount) (s s' : Process) (event : ExecuteEvent) (i : Nat)
    (old new : ExecuteCall) (published : List ExecuteResult) (submitted : List Submitted) :
    Prop where
  before : s.calls[i]? = some old
  turn : Turn account s i event old new published submitted
  calls : s'.calls = s.calls.set i new
  published : s'.published = s.published ++ published
  submitted : s'.submitted = s.submitted ++ submitted
  now : s'.now = s.now

/-- No call is concerned. -/
structure Idles (s s' : Process) (event : ExecuteEvent) : Prop where
  foreign : event.call? = none
  calls : s'.calls = s.calls
  published : s'.published = s.published
  submitted : s'.submitted = s.submitted

section Step

variable {account : ProtectedAccount} {s s' : Process} {event : ExecuteEvent} {i : Nat}
  {intent : NormalizedIntent} {state : PolicyState} {result : ExecuteResult} {old : ExecuteCall}

theorem Turn.call? {new : ExecuteCall} {published : List ExecuteResult} {submitted : List Submitted}
    (turn : Turn account s i event old new published submitted) : event.call? = some i := by
  cases turn with
  | failed fails => cases fails <;> rfl
  | _ => rfl

theorem Takes.of_become {call : ExecuteCall} (before : s.calls[i]? = some old)
    (turn : Turn account s i event old call [] []) :
    Takes account s (s.become i call) event i old call [] [] :=
  ⟨before, turn, rfl, (List.append_nil _).symm, (List.append_nil _).symm, rfl⟩

theorem Takes.of_finish (before : s.calls[i]? = some old)
    (turn : Turn account s i event old (.returned result) [result] []) :
    Takes account s (s.finish i result) event i old (.returned result) [result] [] :=
  ⟨before, turn, rfl, rfl, (List.append_nil _).symm, rfl⟩

/-- What `submit` does to the call. -/
theorem sent_of_submit : ∃ new published submitted,
    Sent account (utcDay s.now) i intent state result new published submitted ∧
      s.submit account i intent state result =
        { s with
          calls := s.calls.set i new
          published := s.published ++ published
          submitted := s.submitted ++ submitted } := by
  unfold submit
  cases enforced : account.enforcer with
  | none => exact ⟨_, _, _, .unexecuted enforced, by simp [become]⟩
  | some enforcer =>
      cases requested : result.approvalRequest with
      | none => exact ⟨_, _, _, .sends enforced requested, by simp [become]⟩
      | some request =>
          by_cases capable : enforcer.executor.sendsAsOwner = true
          · refine ⟨_, _, _, .sendsAsOwner enforced requested capable, ?_⟩
            simp [HookEnforcer.executeWithOwnerApproval, capable, become]
          · obtain ⟨e, refuses⟩ : ∃ e, enforcer.executeWithOwnerApproval intent "0x".toList =
                .error e := ⟨_, if_pos capable⟩
            rw [Bool.not_eq_true] at capable
            refine ⟨.rejected e, [], [], .refused enforced requested capable, ?_⟩
            simp only [refuses, become, List.append_nil]

/-- The evaluation is one turn, whatever the verdict. -/
theorem takes_of_evaluate {dayUtc : Nat} {dailySpend balance : Int}
    (before : s.calls[i]? = some (.gathering intent dayUtc (some dailySpend) (some balance)))
    (gathered : state = ⟨account.deps.policy.account, dayUtc, dailySpend, balance,
      account.deps.policy.asset⟩) : ∃ new published submitted,
      Takes account s (s.evaluate account i intent state) (.decides i) i
        (.gathering intent dayUtc (some dailySpend) (some balance)) new published submitted := by
  rcases decision_cases account intent state with allows | refused | ⟨asked, approver⟩
  · obtain ⟨new, published, submitted, sent, becomes⟩ := @sent_of_submit account
      { s with sequence := s.sequence + 1 } i intent state (verdict account s intent state)
    refine ⟨new, published, submitted, ?_⟩
    rw [evaluate_of_allow allows, becomes]
    exact ⟨before, .allowed gathered allows sent, rfl, rfl, rfl, rfl⟩
  · obtain ⟨result, unhashed, evaluated⟩ := @evaluate_of_refused account s i intent state refused
    rw [evaluated]
    exact ⟨_, _, _, before, .blocked gathered refused unhashed, rfl, rfl,
      (List.append_nil _).symm, rfl⟩
  · obtain ⟨request, shown, evaluated⟩ :=
      @evaluate_of_requireApproval account s i intent state asked approver
    rw [evaluated]
    exact ⟨_, _, _, before, .asks gathered asked approver shown, rfl, (List.append_nil _).symm,
      (List.append_nil _).symm, rfl⟩

theorem step_cases (stepped : step account s event = some s') :
    (∃ action, event = .execute action ∧ Begins account s s' action) ∨
      (∃ i old new published submitted,
        Takes account s s' event i old new published submitted) ∨ Idles s s' event := by
  cases event with
  | execute action =>
      obtain rfl := Option.some.inj stepped
      exact .inl ⟨action, rfl, rfl, rfl, rfl, rfl⟩
  | spendReplies i reply =>
      simp only [step] at stepped
      split at stepped
      · next intent dayUtc balance before =>
          cases reply with
          | ok dailySpend =>
              obtain rfl := Option.some.inj stepped
              exact .inr (.inl ⟨i, _, _, _, _, .of_become before (.spend dailySpend)⟩)
          | error e =>
              obtain rfl := Option.some.inj stepped
              exact .inr (.inl ⟨i, _, _, _, _, .of_become before (.failed .spend)⟩)
      · cases stepped
  | balanceReplies i reply =>
      simp only [step] at stepped
      split at stepped
      · next intent dayUtc dailySpend before =>
          cases reply with
          | ok balance =>
              obtain rfl := Option.some.inj stepped
              exact .inr (.inl ⟨i, _, _, _, _, .of_become before (.balance balance)⟩)
          | error e =>
              obtain rfl := Option.some.inj stepped
              exact .inr (.inl ⟨i, _, _, _, _, .of_become before (.failed .balance)⟩)
      · cases stepped
  | decides i =>
      simp only [step] at stepped
      split at stepped
      · next intent dayUtc dailySpend balance before =>
          obtain rfl := Option.some.inj stepped
          obtain ⟨new, published, submitted, takes⟩ := takes_of_evaluate before rfl
          exact .inr (.inl ⟨i, _, new, published, submitted, takes⟩)
      · cases stepped
  | approverReplies i reply =>
      simp only [step] at stepped
      split at stepped
      · next intent state result request before =>
          cases reply with
          | ok outcome =>
              simp only at stepped
              by_cases approves : outcome.approved = true
              · rw [if_pos approves] at stepped
                obtain rfl := Option.some.inj stepped
                obtain ⟨new, published, submitted, sent, becomes⟩ := @sent_of_submit account s i
                  intent state { result with
                    decision := .allow
                    reason := "approved by ".toList ++ outcome.approvedBy
                    approvalRequest := some request }
                rw [becomes]
                exact .inr (.inl ⟨i, _, new, published, submitted, before, .approved approves sent,
                  rfl, rfl, rfl, rfl⟩)
              · rw [if_neg approves] at stepped
                obtain rfl := Option.some.inj stepped
                rw [Bool.not_eq_true] at approves
                exact .inr (.inl ⟨i, _, _, _, _, .of_finish before (.declined approves rfl)⟩)
          | error e =>
              obtain rfl := Option.some.inj stepped
              exact .inr (.inl ⟨i, _, _, _, _, .of_become before (.failed .approver)⟩)
      · cases stepped
  | executorReplies i reply =>
      simp only [step] at stepped
      split at stepped
      · next intent result before =>
          cases reply with
          | ok txHash =>
              obtain rfl := Option.some.inj stepped
              exact .inr (.inl ⟨i, _, _, _, _, .of_become before (.executed txHash)⟩)
          | error e =>
              obtain rfl := Option.some.inj stepped
              exact .inr (.inl ⟨i, _, _, _, _, .of_become before (.failed .executor)⟩)
      · cases stepped
  | recordReplies i reply =>
      simp only [step] at stepped
      split at stepped
      · next intent result txHash before =>
          cases reply with
          | ok recorded =>
              obtain rfl := Option.some.inj stepped
              exact .inr (.inl ⟨i, _, _, _, _, before, .recorded, rfl, rfl,
                (List.append_nil _).symm, rfl⟩)
          | error e =>
              obtain rfl := Option.some.inj stepped
              exact .inr (.inl ⟨i, _, _, _, _, .of_become before (.failed .record)⟩)
      · cases stepped
  | setStatus status =>
      obtain rfl := Option.some.inj stepped
      exact .inr (.inr ⟨rfl, rfl, rfl, rfl⟩)
  | tick ms =>
      obtain rfl := Option.some.inj stepped
      exact .inr (.inr ⟨rfl, rfl, rfl, rfl⟩)

end Step

end Process

end Sdk

end AgentProof
