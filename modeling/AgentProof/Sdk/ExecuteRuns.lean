import AgentProof.Lib.Runs
import AgentProof.Sdk.ExecuteSteps

/-!
# What reaches the executor

Any number of `execute` calls, interleaved at their awaits.  Whatever is handed
to the executor was decoded from an action and judged on a state put together
from two reads: the engine allowed it, or asked for approval and got it.
Nothing else is looked at.  The daily limit is therefore only as good as the
reading of the daily spend that the verdict was based on, and the published
status, which is read once at startup, stops nothing.
-/

namespace AgentProof

namespace Sdk

open Js

variable {account : ProtectedAccount}

/-- The intent is what some action decodes to. -/
def Decoded (account : ProtectedAccount) (intent : NormalizedIntent) : Prop :=
  ∃ action, account.deps.engine.decoders.decode action account.deps.engine.decoderContext =
    .ok intent

/-- The state is put together from a day and two reads. -/
def Gathered (account : ProtectedAccount) (state : PolicyState) : Prop :=
  state.account = account.deps.policy.account ∧ state.asset = account.deps.policy.asset

/-- The verdict lets the executor be called: it allows, or it wants an approval
that can be had and acted upon. -/
def LetsThrough (account : ProtectedAccount) (intent : NormalizedIntent) (state : PolicyState) :
    Prop :=
  ∃ enforcer, account.enforcer = some enforcer ∧
    (account.decision intent state = .allow ∨
      account.decision intent state = .requireApproval ∧ account.deps.approver = true ∧
        enforcer.executor.sendsAsOwner = true)

/-- An action and a state on which the executor is called. -/
structure Executable (account : ProtectedAccount) (intent : NormalizedIntent)
    (state : PolicyState) : Prop where
  decoded : Decoded account intent
  gathered : Gathered account state
  letsThrough : LetsThrough account intent state

namespace Process

variable {s s' : Process} {i : Nat} {intent : NormalizedIntent} {state : PolicyState}
  {result : ExecuteResult}

/-! ## One step -/

/-- What is known of a call's local variables. -/
def Sound (account : ProtectedAccount) : ExecuteCall → Prop
  | .gathering intent _ _ _ => Decoded account intent
  | .approving intent state _ _ => Decoded account intent ∧ Gathered account state ∧
      account.decision intent state = .requireApproval ∧ account.deps.approver = true
  | _ => True

/-- Every call is sound, and so was everything that reached the executor. -/
structure Backed (account : ProtectedAccount) (s : Process) : Prop where
  calls : ∀ call ∈ s.calls, Sound account call
  submitted : ∀ x ∈ s.submitted, Executable account x.intent x.state

/-- What a step may do: nothing reaches the executor, or one thing does, now. -/
structure Advances (account : ProtectedAccount) (s s' : Process) : Prop where
  calls : ∀ call ∈ s'.calls, Sound account call
  submitted : s'.submitted = s.submitted ∨ ∃ x, s'.submitted = s.submitted ++ [x] ∧
    x.day = utcDay s.now ∧ Executable account x.intent x.state

theorem Advances.backed (advances : Advances account s s') (backed : Backed account s) :
    Backed account s' where
  calls := advances.calls
  submitted x mem := by
    rcases advances.submitted with same | ⟨y, more, -, executable⟩
    · exact backed.submitted x (same ▸ mem)
    · rw [more, List.mem_append, List.mem_singleton] at mem
      rcases mem with before | rfl
      · exact backed.submitted x before
      · exact executable

/-- What follows an allowing verdict reaches the executor, unless there is none, or
none for what an owner approved. -/
theorem Sent.sound {day : Nat} {new : ExecuteCall} {published : List ExecuteResult}
    {submitted : List Submitted}
    (sent : Sent account day i intent state result new published submitted)
    (decoded : Decoded account intent) (gathered : Gathered account state)
    (lets : ∀ enforcer, account.enforcer = some enforcer →
      (∀ request, result.approvalRequest = some request →
        enforcer.executor.sendsAsOwner = true) → LetsThrough account intent state) :
    Sound account new ∧ (submitted = [] ∨ ∃ x, submitted = [x] ∧ x.day = day ∧
      Executable account x.intent x.state) := by
  cases sent with
  | unexecuted => exact ⟨trivial, .inl rfl⟩
  | @sends enforcer enforced direct =>
      refine ⟨trivial, .inr ⟨_, rfl, rfl, decoded, gathered, lets enforcer enforced ?_⟩⟩
      intro request requested
      cases direct.symm.trans requested
  | @sendsAsOwner enforcer _ enforced _ capable =>
      exact ⟨trivial, .inr ⟨_, rfl, rfl, decoded, gathered, lets enforcer enforced
        fun _ _ => capable⟩⟩
  | refused => exact ⟨trivial, .inl rfl⟩

/-- A turn leaves its call sound, and hands on only what the verdict lets through. -/
theorem Turn.sound {event : ExecuteEvent} {old new : ExecuteCall} {published : List ExecuteResult}
    {submitted : List Submitted}
    (turn : Turn account s i event old new published submitted) (sound : Sound account old) :
    Sound account new ∧ (submitted = [] ∨ ∃ x, submitted = [x] ∧ x.day = utcDay s.now ∧
      Executable account x.intent x.state) := by
  cases turn with
  | spend => exact ⟨sound, .inl rfl⟩
  | balance => exact ⟨sound, .inl rfl⟩
  | allowed gathered allows sent =>
      subst gathered
      exact sent.sound sound ⟨rfl, rfl⟩ fun enforcer enforced _ => ⟨enforcer, enforced, .inl allows⟩
  | blocked => exact ⟨trivial, .inl rfl⟩
  | asks gathered asked approver =>
      subst gathered
      exact ⟨⟨sound, ⟨rfl, rfl⟩, asked, approver⟩, .inl rfl⟩
  | approved approves sent =>
      obtain ⟨decoded, gathered, asked, approver⟩ := sound
      exact sent.sound decoded gathered fun enforcer enforced owner =>
        ⟨enforcer, enforced, .inr ⟨asked, approver, owner _ rfl⟩⟩
  | declined => exact ⟨trivial, .inl rfl⟩
  | executed => exact ⟨trivial, .inl rfl⟩
  | recorded => exact ⟨trivial, .inl rfl⟩
  | failed => exact ⟨trivial, .inl rfl⟩

theorem sound_begun (action : Action) : Sound account (begun account s action) := by
  cases decoded : account.deps.engine.decoders.decode action
      account.deps.engine.decoderContext with
  | ok intent =>
      rw [begun, decoded]
      exact ⟨action, decoded⟩
  | error e =>
      rw [begun, decoded]
      trivial

theorem Backed.step {event : ExecuteEvent} (backed : Backed account s)
    (stepped : step account s event = some s') : Advances account s s' := by
  rcases step_cases stepped with
    ⟨action, -, begins⟩ | ⟨i, old, new, published, submitted, takes⟩ | idles
  · refine ⟨fun call mem => ?_, .inl begins.submitted⟩
    rw [begins.calls, List.mem_append, List.mem_singleton] at mem
    rcases mem with before | rfl
    · exact backed.calls call before
    · exact sound_begun action
  · have before := backed.calls old (List.mem_of_getElem? takes.before)
    obtain ⟨sound, sends⟩ := takes.turn.sound before
    refine ⟨fun call mem => ?_, ?_⟩
    · rw [takes.calls] at mem
      rcases List.mem_or_eq_of_mem_set mem with other | rfl
      · exact backed.calls call other
      · exact sound
    · rw [takes.submitted]
      rcases sends with rfl | ⟨x, rfl, day, executable⟩
      · exact .inl (List.append_nil _)
      · exact .inr ⟨x, rfl, day, executable⟩
  · exact ⟨idles.calls ▸ backed.calls, .inl idles.submitted⟩

/-! ## Runs -/

theorem backed_initial (now : Nat) : Backed account (initial now) :=
  ⟨fun _ mem => by simp [initial] at mem, fun _ mem => by simp [initial] at mem⟩

/-- Every run backs what reaches the executor. -/
theorem backed_of_run {Meets : Process → ExecuteEvent → Prop} {now : Nat}
    {events : List ExecuteEvent} (run : Runs.Run (step account) Meets (initial now) events s) :
    Backed account s :=
  run.invariant (fun _ _ _ backed _ stepped => (backed.step stepped).backed backed)
    (backed_initial now)

end Process

/-! ## The daily limit -/

theorem policyAmount_nonneg {key : Text} {raw : Option Text} {value : Int}
    (read : policyAmount key raw = .ok value) : 0 ≤ value := by
  cases raw with
  | none => simp [policyAmount, invalidPolicy] at read
  | some raw =>
      simp only [policyAmount, bind_eq_ok_iff, invalidPolicy, guard_eq_ok_iff,
        Except.ok.injEq] at read
      obtain ⟨amount, -, nonnegative, rfl⟩ := read
      exact not_lt.mp nonnegative

/-- A created instance enforces the policy it was created with. -/
theorem createAgentProof_eq_ok {policyHash : PolicyDocument → Text} {config : AgentProofConfig}
    {deps : Deps} (created : createAgentProof policyHash config = .ok deps) :
    resolvePolicy policyHash config.policy = .ok deps.policy ∧
      deps.engine.policies = (createEngine deps.policy config.allowUnknownSelectors).policies := by
  simp only [createAgentProof, bind_eq_ok_iff, Except.ok.injEq] at created
  obtain ⟨policy, resolved, -, -, -, -, rfl⟩ := created
  exact ⟨resolved, rfl⟩

/-- What is let through fits into the day, as far as its state knows. -/
theorem dailySpend_of_letsThrough {policy : ResolvedPolicy} {allowUnknownSelectors : Bool}
    (policies : account.deps.engine.policies =
      (createEngine policy allowUnknownSelectors).policies) {intent : NormalizedIntent}
    {state : PolicyState} (lets : LetsThrough account intent state) :
    state.dailySpend + intent.notionalUSDC ≤ policy.dailySpend := by
  obtain ⟨enforcer, -, verdict⟩ := lets
  have unblocked : account.decision intent state ≠ .block := by
    rcases verdict with allows | ⟨asks, -⟩
    · simp [allows]
    · simp [asks]
  rw [ProtectedAccount.decision, Ne, PolicyEngine.evaluate_eq_block_iff, policies] at unblocked
  by_contra beyond
  refine unblocked ⟨DailySpendPolicy policy.dailySpend, by simp [createEngine], ?_⟩
  rw [dailySpend_decision, if_neg beyond]

namespace Process

/-- Where a step calls the executor, the daily spend that the call has read is no
less than what has been submitted on the day. -/
def Informed (account : ProtectedAccount) (s : Process) (event : ExecuteEvent) : Prop :=
  ∀ s' x, step account s event = some s' → s'.submitted = s.submitted ++ [x] →
    s.submittedOn x.day ≤ x.state.dailySpend

theorem sumOn_concat (day : Nat) (log : List (Nat × Int)) (entry : Nat × Int) :
    sumOn day (log ++ [entry]) = sumOn day log + if entry.1 = day then entry.2 else 0 := by
  by_cases here : entry.1 = day <;> simp [sumOn, here]

/-- One informed step keeps within the limit. -/
theorem submittedOn_le_of_step {s s' : Process} {event : ExecuteEvent} {limit : Int}
    (backed : Backed account s)
    (fits : ∀ intent state, LetsThrough account intent state →
      state.dailySpend + intent.notionalUSDC ≤ limit)
    (within : ∀ day, s.submittedOn day ≤ limit) (informed : Informed account s event)
    (stepped : step account s event = some s') (day : Nat) : s'.submittedOn day ≤ limit := by
  rcases (backed.step stepped).submitted with same | ⟨x, more, -, executable⟩
  · rw [submittedOn, same]
    exact within day
  · have known := informed s' x stepped more
    have fit := fits x.intent x.state executable.letsThrough
    rw [submittedOn, more, List.map_append, List.map_singleton, sumOn_concat]
    change s.submittedOn day + _ ≤ limit
    rcases eq_or_ne x.day day with rfl | other
    · rw [if_pos rfl]
      omega
    · rw [if_neg other, add_zero]
      exact within day

/-- In a run of informed steps the submissions of each day stay within the
policy's daily limit. -/
theorem submittedOn_le_dailySpend {policyHash : PolicyDocument → Text} {config : AgentProofConfig}
    {deps : Deps} (created : createAgentProof policyHash config = .ok deps)
    {executor : Option Executor} {now : Nat} {events : List ExecuteEvent} {s : Process}
    (run : Runs.Run (step (deps.protect executor)) (Informed (deps.protect executor))
      (initial now) events s) (day : Nat) : s.submittedOn day ≤ deps.policy.dailySpend := by
  obtain ⟨resolved, policies⟩ := createAgentProof_eq_ok created
  have nonnegative := policyAmount_nonneg (resolves_of_resolvePolicy resolved).dailySpend
  have fits : ∀ intent state, LetsThrough (deps.protect executor) intent state →
      state.dailySpend + intent.notionalUSDC ≤ deps.policy.dailySpend :=
    fun intent state lets => dailySpend_of_letsThrough policies lets
  have keeps : ∀ s event s', Backed (deps.protect executor) s ∧
      (∀ day, s.submittedOn day ≤ deps.policy.dailySpend) → Informed (deps.protect executor) s event →
      step (deps.protect executor) s event = some s' → Backed (deps.protect executor) s' ∧
        ∀ day, s'.submittedOn day ≤ deps.policy.dailySpend :=
    fun s event s' both informed stepped => ⟨(both.1.step stepped).backed both.1,
      submittedOn_le_of_step both.1 fits both.2 informed stepped⟩
  exact (run.invariant keeps ⟨backed_initial now, fun _ => nonnegative⟩).2 day

/-! ### Two payments at once -/

/-- The state provider answers with what has been recorded on the call's day, and
the executor succeeds. -/
def isExact (s : Process) : ExecuteEvent → Bool
  | .spendReplies i reply =>
      match s.calls[i]? with
      | some (.gathering _ dayUtc _ _) => reply = .ok (s.recordedOn dayUtc)
      | _ => true
  | .executorReplies _ reply => reply.toOption.isSome
  | _ => true

/-- The submissions of a day never exceed the policy's daily spend. -/
def KeepsDailyLimit : Prop :=
  ∀ (policyHash : PolicyDocument → Text) (config : AgentProofConfig) (deps : Deps)
      (executor : Option Executor) (now : Nat) (events : List ExecuteEvent) (s : Process) (day : Nat),
    createAgentProof policyHash config = .ok deps →
    Runs.Run (step (deps.protect executor)) (fun s event => isExact s event = true) (initial now)
      events s →
    s.submittedOn day ≤ deps.policy.dailySpend

def samplePolicy : PolicyDocument where
  version := "agentproof/v1".toList
  agent := "payer.agentproof.eth".toList
  chainId := 1
  asset := ⟨addressText 0xa55e7, 6⟩
  policies := {
    maxTransaction := some "100000000".toList
    dailySpend := some "100000000".toList
    approvalThreshold := some "100000000".toList
    minBalance := some "0".toList
    allowedContracts := some [addressText 0x22]
    allowedRecipients := none }
  enforcement := ⟨addressText 0x400c, addressText 0xacc0⟩

def sampleHash : PolicyDocument → Text := fun _ => "0x01".toList

/-- The name publishes the policy and an active status; the executor is the
session key's. -/
def sampleSetup : AgentProofConfig where
  policy := samplePolicy
  identity := some ⟨fun _ => .ok "0x01".toList, fun _ => .ok "active".toList⟩
  approver := false
  enforcement := some ⟨⟨false⟩, none, none, none⟩
  decoders := none
  allowUnknownSelectors := false

/-- A transfer of `amount` to the listed payee. -/
def paymentOf (amount : Nat) : Action :=
  ⟨addressText 0xa55e7, "0xa9059cbb".toList ++ word 0x22 ++ word amount, 0⟩

/-- Two payments of 60 USDC, both judged before either is recorded. -/
def paymentsAtOnce : List ExecuteEvent :=
  [.execute (paymentOf 60000000), .execute (paymentOf 60000000), .spendReplies 0 (.ok 0),
    .balanceReplies 0 (.ok 1000000000), .spendReplies 1 (.ok 0),
    .balanceReplies 1 (.ok 1000000000),
    .decides 0, .decides 1]

theorem eq_ok_of_toOption {ε α : Type} {result : Except ε α} {value : α}
    (found : result.toOption = some value) : result = .ok value := by
  cases result with
  | ok value' => exact congrArg Except.ok (Option.some.inj found)
  | error e => simp [Except.toOption] at found

theorem paymentsAtOnce_exceed : ¬ KeepsDailyLimit := by
  intro keeps
  have ran : (createAgentProof sampleHash sampleSetup).toOption.any fun deps =>
      deps.policy.dailySpend = 100000000 ∧
        (Runs.replay (step (deps.protect none)) (fun s event => isExact s event = true)
          (initial 0) paymentsAtOnce).any fun s => s.submittedOn 0 = 120000000 := by
    decide +kernel
  obtain ⟨deps, found, state⟩ := (Option.any_eq_true _ _).mp ran
  obtain ⟨limit, replayed⟩ := of_decide_eq_true state
  obtain ⟨s, replayed, total⟩ := (Option.any_eq_true _ _).mp replayed
  have within := keeps sampleHash sampleSetup deps none 0 paymentsAtOnce s 0
    (eq_ok_of_toOption found) (Runs.run_of_replay replayed)
  rw [of_decide_eq_true total, limit] at within
  norm_num at within

/-- The check behind `Informed`, to run. -/
def informedBy (account : ProtectedAccount) (s : Process) (event : ExecuteEvent) : Bool :=
  match step account s event with
  | some s' => (s'.submitted.drop s.submitted.length).all fun x =>
      s.submittedOn x.day ≤ x.state.dailySpend
  | none => true

theorem informed_of_informedBy {s : Process} {event : ExecuteEvent}
    (checked : informedBy account s event = true) : Informed account s event := by
  intro s' x stepped more
  rw [informedBy, stepped] at checked
  simp only [more, List.drop_left, List.all_cons, List.all_nil, Bool.and_true,
    decide_eq_true_eq] at checked
  exact checked

/-- One payment waits until another has been recorded. -/
def paymentsInTurn : List ExecuteEvent :=
  [.execute (paymentOf 60000000), .spendReplies 0 (.ok 0), .balanceReplies 0 (.ok 1000000000),
    .execute (paymentOf 30000000), .balanceReplies 1 (.ok 1000000000), .decides 0,
    .executorReplies 0 (.ok "0xaa".toList), .recordReplies 0 (.ok ()),
    .spendReplies 1 (.ok 60000000), .decides 1]

theorem paymentsInTurn_within :
    ∃ deps s, createAgentProof sampleHash sampleSetup = .ok deps ∧
      Runs.Run (step (deps.protect none)) (Informed (deps.protect none)) (initial 0)
        paymentsInTurn s ∧
      s.submittedOn 0 = 90000000 ∧ s.submittedOn 0 ≤ deps.policy.dailySpend := by
  have ran : (createAgentProof sampleHash sampleSetup).toOption.any fun deps =>
      (Runs.replay (step (deps.protect none))
        (fun s event => informedBy (deps.protect none) s event = true) (initial 0)
        paymentsInTurn).any fun s => s.submittedOn 0 = 90000000 := by decide +kernel
  obtain ⟨deps, found, replayed⟩ := (Option.any_eq_true _ _).mp ran
  obtain ⟨s, replayed, total⟩ := (Option.any_eq_true _ _).mp replayed
  have created := eq_ok_of_toOption found
  have run := (Runs.run_of_replay replayed).mono fun _ _ => informed_of_informedBy
  exact ⟨deps, s, created, run, of_decide_eq_true total, submittedOn_le_dailySpend created run 0⟩

/-! ## The published status -/

/-- No call that starts while the status is not active reaches the executor
before it is active again. -/
def StopsWhileSuspended (account : ProtectedAccount) : Prop :=
  ∀ (now : Nat) (before after : List ExecuteEvent) (s s₁ s₂ : Process) (action : Action),
    Runs.Run (step account) (fun _ _ => True) (initial now) before s →
    s.status ≠ "active".toList → step account s (.execute action) = some s₁ →
    Runs.Run (step account) (fun _ event => event ≠ .setStatus "active".toList) s₁ after s₂ →
    ∀ x ∈ s₂.submitted, x.call ≠ s.calls.length

section Through

variable {s : Process} {i : Nat} {intent : NormalizedIntent} {state : PolicyState}
  {result : ExecuteResult} {enforcer : HookEnforcer}

theorem submit_calls_executor (enforced : account.enforcer = some enforcer)
    (owner : result.approvalRequest = none ∨ enforcer.executor.sendsAsOwner = true) :
    ∃ x ∈ (s.submit account i intent state result).submitted, x.call = i := by
  unfold submit
  simp only [enforced]
  cases requested : result.approvalRequest with
  | none => exact ⟨_, List.mem_append_right _ (List.mem_singleton_self _), rfl⟩
  | some request =>
      have capable := owner.resolve_left (by simp [requested])
      simp only [HookEnforcer.executeWithOwnerApproval, capable, not_true_eq_false, if_false]
      exact ⟨_, List.mem_append_right _ (List.mem_singleton_self _), rfl⟩

theorem step_of_approval {request : ApprovalRequest}
    (waiting : s.calls[i]? = some (.approving intent state result request)) :
    ∃ result', step account s (.approverReplies i (.ok ⟨true, none, []⟩)) =
      some (s.submit account i intent state result') := by
  simp only [step, waiting, if_true]
  exact ⟨_, rfl⟩

/-- A verdict that lets through leads to the executor, the approver willing. -/
theorem reaches_executor (lets : LetsThrough account intent state) (inside : i < s.calls.length) :
    ∃ after s₂, Runs.Run (step account) (fun _ event => event ≠ .setStatus "active".toList)
        (s.evaluate account i intent state) after s₂ ∧ ∃ x ∈ s₂.submitted, x.call = i := by
  obtain ⟨enforcer, enforced, allows | ⟨asks, approver, owner⟩⟩ := lets
  · rw [evaluate_of_allow allows]
    exact ⟨[], _, .nil, submit_calls_executor enforced (.inl rfl)⟩
  · obtain ⟨request, -, evaluated⟩ :=
      @evaluate_of_requireApproval account s i intent state asks approver
    rw [evaluated]
    have waiting : (become { s with sequence := s.sequence + 1 } i
        (.approving intent state (verdict account s intent state) request)).calls[i]? =
          some (.approving intent state (verdict account s intent state) request) :=
      List.getElem?_set_self inside
    obtain ⟨result', approved⟩ := step_of_approval waiting
    exact ⟨[.approverReplies i (.ok ⟨true, none, []⟩)], _, .cons nofun approved .nil,
      submit_calls_executor enforced (.inr owner)⟩

end Through

/-- What can be executed at all is executed by a suspended agent. -/
theorem not_stopsWhileSuspended {intent : NormalizedIntent} {state : PolicyState}
    (executable : Executable account intent state) : ¬ StopsWhileSuspended account := by
  intro stops
  obtain ⟨⟨action, decodes⟩, ⟨owner, asset⟩, lets⟩ := executable
  obtain ⟨day, at_day⟩ : ∃ now, utcDay now = state.dayUtc :=
    ⟨state.dayUtc * 86400 * 1000, by unfold utcDay; omega⟩
  have gathered : state = ⟨account.deps.policy.account, utcDay day, state.dailySpend,
      state.balance, account.deps.policy.asset⟩ := by
    rw [← owner, ← asset, at_day]
  let suspended : Process := { initial day with status := "suspended".toList }
  have begun : step account suspended (.execute action) =
      some { suspended with calls := [.gathering intent (utcDay day) none none] } := by
    simp only [step, decodes]
    rfl
  let judged : Process :=
    { suspended with
      calls := [.gathering intent (utcDay day) (some state.dailySpend) (some state.balance)] }
  obtain ⟨after, s₂, ran, x, mem, call⟩ := @reaches_executor account judged 0 intent state lets
    (by simp [judged])
  have decides : step account judged (.decides 0) = some (judged.evaluate account 0 intent state) := by
    rw [gathered]
    rfl
  have inactive : "suspended".toList ≠ "active".toList := by decide
  exact stops day [.setStatus "suspended".toList]
    (.spendReplies 0 (.ok state.dailySpend) :: .balanceReplies 0 (.ok state.balance) ::
      .decides 0 :: after) suspended _ s₂ action (.cons trivial rfl .nil) inactive begun
    (.cons (by simp) rfl (.cons (by simp) rfl (.cons (by simp) decides ran))) x mem call

/-- An instance stops while suspended exactly if it can never execute anything. -/
theorem stopsWhileSuspended_iff :
    StopsWhileSuspended account ↔ ¬ ∃ intent state, Executable account intent state := by
  constructor
  · rintro stops ⟨intent, state, executable⟩
    exact not_stopsWhileSuspended executable stops
  · intro none now before after s s₁ s₂ action ran suspended started ran' x mem
    have kept : Backed account s₁ :=
      ((backed_of_run ran).step started).backed (backed_of_run ran)
    have backed : Backed account s₂ :=
      ran'.invariant (fun _ _ _ backed _ stepped => (backed.step stepped).backed backed) kept
    exact absurd ⟨x.intent, x.state, backed.submitted x mem⟩ none

/-- A payment that is fine is made by an agent that has been suspended. -/
theorem suspendedAgent_executes :
    ¬ ∀ (policyHash : PolicyDocument → Text) (config : AgentProofConfig) (deps : Deps)
        (executor : Option Executor), config.identity.isSome = true →
      createAgentProof policyHash config = .ok deps →
      StopsWhileSuspended (deps.protect executor) := by
  intro stops
  have judged : (createAgentProof sampleHash sampleSetup).toOption.any fun deps =>
      (deps.protect none).enforcer.isSome ∧
        (deps.engine.decoders.decode (paymentOf 60000000)
          deps.engine.decoderContext).toOption.any fun intent =>
            (deps.protect none).decision intent
              ⟨deps.policy.account, 0, 0, 1000000000, deps.policy.asset⟩ = .allow := by
    decide +kernel
  obtain ⟨deps, found, state⟩ := (Option.any_eq_true _ _).mp judged
  obtain ⟨enforced, decoded⟩ := of_decide_eq_true state
  obtain ⟨enforcer, enforced⟩ := Option.isSome_iff_exists.mp enforced
  obtain ⟨intent, decoded, allows⟩ := (Option.any_eq_true _ _).mp decoded
  have decodes : Decoded (deps.protect none) intent :=
    ⟨paymentOf 60000000, eq_ok_of_toOption decoded⟩
  exact not_stopsWhileSuspended ⟨decodes, ⟨rfl, rfl⟩, enforcer, enforced,
    .inl (of_decide_eq_true allows)⟩ (stops sampleHash sampleSetup deps none rfl
      (eq_ok_of_toOption found))

end Process

end Sdk

end AgentProof
