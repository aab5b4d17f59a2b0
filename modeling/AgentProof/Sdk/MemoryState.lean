import AgentProof.Lib.OrderedMap
import AgentProof.Sdk.ExecuteAuthority
import AgentProof.Sdk.ExecuteSteps
import AgentProof.Sdk.Unbounded

/-!
# The state provider in memory

`state/MemoryStateProvider.ts`, and an agent that runs on it.  The provider
keeps the executions it is told of, but answers for the daily spend from a map
that only its test hooks write: each decision of a run is made as if nothing had
been spent.
-/

namespace AgentProof

namespace Sdk

open Js

/-! ## `state/MemoryStateProvider.ts` -/

structure MemoryExecution where
  account : Text
  intent : NormalizedIntent
  txHash : Text

structure MemoryStateProvider where
  spend : OrderedMap Text Int
  balances : OrderedMap Text Int
  executions : List MemoryExecution

namespace MemoryStateProvider

def create (initialBalances : List (Text × Int)) : MemoryStateProvider where
  spend := .empty
  balances := initialBalances.foldl (fun m (key, value) => m.set (toLowerCase key) value) .empty
  executions := []

def getDailySpend (p : MemoryStateProvider) (account : Text) (dayUtc : Nat) : Int :=
  (p.spend.get (toLowerCase account ++ ":".toList ++ toDecimal dayUtc)).getD 0

def getBalance (p : MemoryStateProvider) (account asset : Text) : Int :=
  (p.balances.get (toLowerCase account ++ ":".toList ++ toLowerCase asset)).getD 0

def recordExecution (p : MemoryStateProvider) (account : Text) (intent : NormalizedIntent)
    (txHash : Text) : MemoryStateProvider :=
  { p with executions := p.executions ++ [⟨account, intent, txHash⟩] }

end MemoryStateProvider

/-! ## An agent on it -/

structure MemoryAgent where
  process : Process
  memory : MemoryStateProvider

/-- What a call that returned a transaction hash was for. -/
def paidBy : ExecuteCall → Int
  | .returned result => if result.txHash.isSome then result.intent.notionalUSDC else 0
  | _ => 0

namespace MemoryAgent

def initial (now : Nat) (initialBalances : List (Text × Int)) : MemoryAgent :=
  ⟨.initial now, .create initialBalances⟩

/-- The execution is recorded once the executor has answered. -/
def remember (account : ProtectedAccount) (agent : MemoryAgent) :
    ExecuteEvent → MemoryStateProvider
  | .executorReplies i (.ok txHash) =>
      match agent.process.calls[i]? with
      | some (.submitting intent _) =>
          agent.memory.recordExecution account.deps.policy.account intent txHash
      | _ => agent.memory
  | _ => agent.memory

def step (account : ProtectedAccount) (agent : MemoryAgent) (event : ExecuteEvent) :
    Option MemoryAgent :=
  (agent.process.step account event).map fun process => ⟨process, agent.remember account event⟩

/-- A call starts when all others are settled; the reads are the provider's, and the approver
approves, the executor and the bookkeeping succeed; the day does not end. -/
def sequential (account : ProtectedAccount) (agent : MemoryAgent) : ExecuteEvent → Bool
  | .execute _ => agent.process.calls.all ExecuteCall.settled
  | .spendReplies i reply =>
      match agent.process.calls[i]? with
      | some (.gathering _ dayUtc _ _) =>
          reply = .ok (agent.memory.getDailySpend account.deps.policy.account dayUtc)
      | _ => false
  | .balanceReplies _ reply =>
      reply = .ok (agent.memory.getBalance account.deps.policy.account account.deps.policy.asset)
  | .approverReplies _ reply => reply.toOption.any fun outcome => outcome.approved
  | .executorReplies _ reply => reply.toOption.isSome
  | .recordReplies _ reply => reply.toOption.isSome
  | .tick ms => utcDay (agent.process.now + ms) = utcDay agent.process.now
  | .decides _ | .setStatus _ => true

/-- The sum of the notionals of the calls that returned a transaction hash. -/
def paid (agent : MemoryAgent) : Int := (agent.process.calls.map paidBy).sum

/-- A call of positive notional is made while no other has been paid. -/
def First (account : ProtectedAccount) (agent : MemoryAgent) (event : ExecuteEvent) : Prop :=
  ∀ action, event = .execute action → (∀ call ∈ agent.process.calls, paidBy call ≤ 0) ∨
    ∀ intent, account.deps.engine.decoders.decode action account.deps.engine.decoderContext =
      .ok intent → intent.notionalUSDC ≤ 0

end MemoryAgent

/-! ## What one call is decided on -/

/-- The intent was let through on a day without spend and with the balance. -/
def PassedOn (account : ProtectedAccount) (balance : Int) (intent : NormalizedIntent) : Prop :=
  ∃ state : PolicyState, state.dailySpend = 0 ∧ state.balance = balance ∧
    LetsThrough account intent state

/-- What is known of a call whose reads are those. -/
def KnownOf (account : ProtectedAccount) (balance : Int) : ExecuteCall → Prop
  | .gathering _ _ spent left => (∀ v, spent = some v → v = 0) ∧ ∀ v, left = some v → v = balance
  | .approving intent state result _ => result.intent = intent ∧ result.txHash = none ∧
      state.dailySpend = 0 ∧ state.balance = balance ∧
      account.decision intent state = .requireApproval ∧ account.deps.approver = true
  | .submitting intent result | .recording intent result _ =>
      result.intent = intent ∧ result.txHash = none ∧ PassedOn account balance intent
  | .returned result => result.txHash.isSome → PassedOn account balance result.intent
  | .rejected _ => True

/-- What a call is for, until it ends without a transaction. -/
def wantedBy : ExecuteCall → Int
  | .gathering intent _ _ _ | .approving intent _ _ _ | .submitting intent _
  | .recording intent _ _ => intent.notionalUSDC
  | .returned result => if result.txHash.isSome then result.intent.notionalUSDC else 0
  | .rejected _ => 0

namespace Process

section Turns

variable {account : ProtectedAccount} {s : Process} {event : ExecuteEvent} {i day : Nat}
  {old new : ExecuteCall} {published : List ExecuteResult} {submitted : List Submitted}
  {balance : Int} {intent : NormalizedIntent} {state : PolicyState} {result : ExecuteResult}

/-- A call that ends without a transaction is nobody's concern. -/
theorem of_unhashed (unhashed : result.txHash = none) :
    KnownOf account balance (.returned result) ∧ wantedBy (.returned result) = 0 := by
  have nothing : ¬ result.txHash.isSome = true := by
    rw [unhashed]
    decide
  exact ⟨fun hashed => absurd hashed nothing, if_neg nothing⟩

theorem Sent.knownOf (sent : Sent account day i intent state result new published submitted)
    (same : result.intent = intent) (unhashed : result.txHash = none)
    (spent : state.dailySpend = 0) (left : state.balance = balance)
    (lets : ∀ enforcer, account.enforcer = some enforcer →
      (∀ request, result.approvalRequest = some request →
        enforcer.executor.sendsAsOwner = true) → LetsThrough account intent state) :
    KnownOf account balance new := by
  cases sent with
  | unexecuted unenforced => exact (of_unhashed unhashed).1
  | sends enforced direct =>
      refine ⟨same, unhashed, state, spent, left, lets _ enforced fun request approved => ?_⟩
      rw [direct] at approved
      cases approved
  | sendsAsOwner enforced approved capable =>
      exact ⟨same, unhashed, state, spent, left, lets _ enforced fun _ _ => capable⟩
  | refused => trivial

theorem Sent.wantedBy_eq (sent : Sent account day i intent state result new published submitted)
    (unhashed : result.txHash = none) : wantedBy new = intent.notionalUSDC ∨ wantedBy new = 0 := by
  cases sent with
  | unexecuted unenforced => exact .inr (@of_unhashed account 0 _ unhashed).2
  | sends => exact .inl rfl
  | sendsAsOwner => exact .inl rfl
  | refused => exact .inr rfl

/-- A turn keeps what is known of a call, and what the call is for or makes it nothing. -/
theorem Turn.knownOf (turn : Turn account s i event old new published submitted)
    (known : KnownOf account balance old)
    (spends : ∀ v, event = .spendReplies i (.ok v) → v = 0)
    (leaves : ∀ v, event = .balanceReplies i (.ok v) → v = balance) :
    KnownOf account balance new ∧ (wantedBy new = wantedBy old ∨ wantedBy new = 0) := by
  cases turn with
  | spend dailySpend =>
      refine ⟨⟨fun v read => ?_, known.2⟩, .inl rfl⟩
      cases read
      exact spends _ rfl
  | balance balance =>
      refine ⟨⟨known.1, fun v read => ?_⟩, .inl rfl⟩
      cases read
      exact leaves _ rfl
  | allowed gathered allows sent =>
      subst gathered
      refine ⟨sent.knownOf rfl rfl (known.1 _ rfl) (known.2 _ rfl) fun enforcer enforced _ => ?_,
        sent.wantedBy_eq rfl⟩
      exact ⟨enforcer, enforced, .inl allows⟩
  | blocked gathered refused unhashed =>
      have none_wanted := @of_unhashed account balance _ unhashed
      exact ⟨none_wanted.1, .inr none_wanted.2⟩
  | asks gathered asked approver shown =>
      subst gathered
      exact ⟨⟨rfl, rfl, known.1 _ rfl, known.2 _ rfl, asked, approver⟩, .inl rfl⟩
  | approved approves sent =>
      obtain ⟨same, unhashed, spent, left, asked, approver⟩ := known
      refine ⟨sent.knownOf same unhashed spent left fun enforcer enforced capable => ?_,
        sent.wantedBy_eq unhashed⟩
      exact ⟨enforcer, enforced, .inr ⟨asked, approver, capable _ rfl⟩⟩
  | declined declines unhashed =>
      obtain ⟨-, unhashed', -⟩ := known
      have none_wanted := @of_unhashed account balance _ (unhashed.trans unhashed')
      exact ⟨none_wanted.1, .inr none_wanted.2⟩
  | executed txHash => exact ⟨known, .inl rfl⟩
  | recorded =>
      obtain ⟨same, -, passed⟩ := known
      refine ⟨fun _ => ?_, .inl ?_⟩
      · exact same ▸ passed
      · exact congrArg NormalizedIntent.notionalUSDC same
  | failed fails => exact ⟨trivial, .inr rfl⟩

end Turns

end Process

namespace MemoryAgent

/-! ## Runs -/

/-- The provider answers as at the start, and every call is known of. -/
structure Steady (account : ProtectedAccount) (initialBalances : List (Text × Int))
    (agent : MemoryAgent) : Prop where
  spend : agent.memory.spend = .empty
  balances : agent.memory.balances = (MemoryStateProvider.create initialBalances).balances
  known : ∀ call ∈ agent.process.calls, KnownOf account
    ((MemoryStateProvider.create initialBalances).getBalance account.deps.policy.account
      account.deps.policy.asset) call

section Runs

variable {account : ProtectedAccount} {initialBalances : List (Text × Int)}
  {agent agent' : MemoryAgent} {event : ExecuteEvent} {events : List ExecuteEvent} {now : Nat}

theorem remember_spend : (agent.remember account event).spend = agent.memory.spend := by
  unfold remember
  split
  · split
    · rfl
    · rfl
  · rfl

theorem remember_balances : (agent.remember account event).balances = agent.memory.balances := by
  unfold remember
  split
  · split
    · rfl
    · rfl
  · rfl

/-- The daily spend is never anything but nothing. -/
theorem Steady.getDailySpend (steady : Steady account initialBalances agent) (owner : Text)
    (dayUtc : Nat) : agent.memory.getDailySpend owner dayUtc = 0 := by
  rw [MemoryStateProvider.getDailySpend, steady.spend]
  rfl

theorem Steady.getBalance (steady : Steady account initialBalances agent) (owner asset : Text) :
    agent.memory.getBalance owner asset =
      (MemoryStateProvider.create initialBalances).getBalance owner asset := by
  rw [MemoryStateProvider.getBalance, steady.balances]
  rfl

theorem steady_initial : Steady account initialBalances (initial now initialBalances) where
  spend := rfl
  balances := rfl
  known call mem := by cases mem

theorem Steady.turn {process : Process} {i : Nat} {old new : ExecuteCall}
    {published : List ExecuteResult} {submitted : List Submitted}
    (steady : Steady account initialBalances agent)
    (answers : sequential account agent event = true)
    (takes : Process.Takes account agent.process process event i old new published submitted) :
    KnownOf account ((MemoryStateProvider.create initialBalances).getBalance
        account.deps.policy.account account.deps.policy.asset) new ∧
      (wantedBy new = wantedBy old ∨ wantedBy new = 0) := by
  refine takes.turn.knownOf (steady.known old (List.mem_of_getElem? takes.before)) ?_ ?_
  · rintro v rfl
    rw [sequential] at answers
    split at answers
    · next intent dayUtc spent left at_i =>
        have read := Except.ok.inj (of_decide_eq_true answers)
        rw [read, steady.getDailySpend]
    · cases answers
  · rintro v rfl
    have read := Except.ok.inj (of_decide_eq_true answers)
    rw [read, steady.getBalance]

theorem Steady.step (steady : Steady account initialBalances agent)
    (answers : sequential account agent event = true)
    (stepped : step account agent event = some agent') :
    Steady account initialBalances agent' := by
  obtain ⟨process, steps, rfl⟩ := Option.map_eq_some_iff.mp stepped
  refine ⟨remember_spend.trans steady.spend, remember_balances.trans steady.balances, ?_⟩
  change ∀ call ∈ process.calls, _
  rcases Process.step_cases steps with ⟨action, -, begins⟩ | ⟨i, old, new, _, _, takes⟩ | idles
  · rw [begins.calls]
    intro call mem
    rcases List.mem_append.mp mem with before | last
    · exact steady.known call before
    · rw [List.mem_singleton.mp last, Process.begun]
      split
      · exact ⟨fun v read => (by cases read), fun v read => (by cases read)⟩
      · trivial
  · rw [takes.calls]
    intro call mem
    rcases List.mem_or_eq_of_mem_set mem with before | rfl
    · exact steady.known call before
    · exact (steady.turn answers takes).1
  · rw [idles.calls]
    exact steady.known

theorem steady_of_run {Meets : MemoryAgent → ExecuteEvent → Prop}
    (answers : ∀ agent event, Meets agent event → sequential account agent event = true)
    (run : Runs.Run (step account) Meets (initial now initialBalances) events agent) :
    Steady account initialBalances agent :=
  run.invariant (fun _ _ _ steady meets stepped => steady.step (answers _ _ meets) stepped)
    steady_initial

/-! ## One payment -/

/-- At most one call is for a positive amount. -/
def Alone (agent : MemoryAgent) : Prop :=
  agent.process.calls.countP (fun call => 0 < wantedBy call) ≤ 1

theorem wantedBy_of_settled {call : ExecuteCall} (settled : call.settled = true) :
    wantedBy call = paidBy call := by
  cases call with
  | returned result => rfl
  | rejected e => rfl
  | _ => cases settled

theorem Steady.alone_step (steady : Steady account initialBalances agent)
    (answers : sequential account agent event = true) (first : First account agent event)
    (stepped : MemoryAgent.step account agent event = some agent') (alone : Alone agent) :
    Alone agent' := by
  obtain ⟨process, steps, rfl⟩ := Option.map_eq_some_iff.mp stepped
  unfold Alone at alone ⊢
  change process.calls.countP _ ≤ 1
  rcases Process.step_cases steps with ⟨action, rfl, begins⟩ | ⟨i, old, new, _, _, takes⟩ | idles
  · rw [begins.calls, List.countP_append, List.countP_singleton]
    rcases first action rfl with unpaid | nothing
    · have idle : agent.process.calls.countP (fun call => 0 < wantedBy call) = 0 := by
        rw [List.countP_eq_zero]
        intro call mem
        rw [wantedBy_of_settled (List.all_eq_true.mp answers call mem), decide_eq_true_eq, not_lt]
        exact unpaid call mem
      rw [idle]
      split_ifs <;> omega
    · have unwanted : ¬ 0 < wantedBy (Process.begun account agent.process action) := by
        rw [Process.begun, not_lt]
        split
        · next intent decoded => exact nothing intent decoded
        · exact le_rfl
      rw [if_neg (by simpa using unwanted), Nat.add_zero]
      exact alone
  · obtain ⟨inside, at_i⟩ := List.getElem?_eq_some_iff.mp takes.before
    rw [takes.calls, List.countP_set inside, at_i]
    have less : 0 < wantedBy new → 0 < wantedBy old := by
      rcases (steady.turn answers takes).2 with same | none
      · rw [same]
        exact id
      · rw [none]
        exact fun never => absurd never (lt_irrefl 0)
    by_cases wanted : 0 < wantedBy new
    · have counted : 1 ≤ agent.process.calls.countP (fun call => 0 < wantedBy call) :=
        List.countP_pos_iff.mpr ⟨old, List.mem_of_getElem? takes.before, by simpa using less wanted⟩
      simp only [wanted, less wanted, decide_true, if_true]
      omega
    · simp only [wanted, decide_false, Bool.false_eq_true, if_false]
      omega
  · rw [idles.calls]
    exact alone

/-- A sum with at most one positive summand. -/
theorem sum_le_of_countP_le_one {amounts : List Int} {limit : Int} (nonneg : 0 ≤ limit)
    (each : ∀ amount ∈ amounts, amount ≤ limit)
    (one : amounts.countP (fun amount => 0 < amount) ≤ 1) : amounts.sum ≤ limit := by
  induction amounts with
  | nil => exact nonneg
  | cons amount rest ih =>
      obtain ⟨here, later⟩ := List.forall_mem_cons.mp each
      rw [List.countP_cons] at one
      rw [List.sum_cons]
      by_cases positive : 0 < amount
      · have none : rest.countP (fun amount => 0 < amount) = 0 := by
          simp only [positive, decide_true, if_true] at one
          omega
        have small : rest.sum ≤ 0 := by
          have bound := List.sum_le_card_nsmul rest 0 fun amount mem => by
            simpa using List.countP_eq_zero.mp none amount mem
          rwa [smul_zero] at bound
        omega
      · simp only [positive, decide_false, Bool.false_eq_true, if_false] at one
        have rest_le := ih later one
        omega

/-- What a call paid was let through. -/
theorem Steady.passedOn (steady : Steady account initialBalances agent) {call : ExecuteCall}
    (mem : call ∈ agent.process.calls) (paid : 0 < paidBy call) :
    ∃ intent, paidBy call = intent.notionalUSDC ∧ PassedOn account
      ((MemoryStateProvider.create initialBalances).getBalance account.deps.policy.account
        account.deps.policy.asset) intent := by
  have known := steady.known call mem
  cases call with
  | returned result =>
      by_cases hashed : result.txHash.isSome = true
      · exact ⟨result.intent, if_pos hashed, known hashed⟩
      · have nothing : paidBy (.returned result) = 0 := if_neg hashed
        exact absurd paid (by rw [nothing]; exact lt_irrefl 0)
  | _ => exact absurd paid (lt_irrefl 0)

theorem paid_le_of_each {limit : Int} (nonneg : 0 ≤ limit) (alone : Alone agent)
    (each : ∀ call ∈ agent.process.calls, paidBy call ≤ limit) : agent.paid ≤ limit := by
  refine sum_le_of_countP_le_one nonneg ?_ ?_
  · intro amount mem
    obtain ⟨call, listed, rfl⟩ := List.mem_map.mp mem
    exact each call listed
  · rw [List.countP_map]
    refine (List.countP_mono_left fun call _ paid => ?_).trans alone
    rw [Function.comp_apply, decide_eq_true_eq] at paid
    rw [decide_eq_true_eq]
    cases call with
    | returned result => exact paid
    | _ => exact absurd paid (lt_irrefl 0)

end Runs

/-! ## The same payment again -/

/-- From the agent, its calls untouched, one more call can be brought to such a place. -/
def Reaches (account : ProtectedAccount) (initialBalances : List (Text × Int)) (start : MemoryAgent)
    (Place : ExecuteCall → Prop) : Prop :=
  ∃ events agent call,
    Runs.Run (step account) (fun agent event => sequential account agent event = true) start events
        agent ∧
      Steady account initialBalances agent ∧ agent.process.now = start.process.now ∧
      agent.process.calls = start.process.calls ++ [call] ∧ Place call

section Again

variable {account : ProtectedAccount} {initialBalances : List (Text × Int)} {start : MemoryAgent}
  {Place Next : ExecuteCall → Prop} {intent : NormalizedIntent} {action : Action}

/-- What an accepted event of a call does is a turn of it. -/
theorem takes_of_call {s s' : Process} {event : ExecuteEvent} {i : Nat} (mine : event.call? = some i)
    (stepped : s.step account event = some s') :
    ∃ old new published submitted,
      Process.Takes account s s' event i old new published submitted := by
  rcases Process.step_cases stepped with
    ⟨action, rfl, -⟩ | ⟨j, old, new, published, submitted, takes⟩ | idles
  · cases mine
  · rw [takes.turn.call?] at mine
    cases mine
    exact ⟨old, new, published, submitted, takes⟩
  · rw [idles.foreign] at mine
    cases mine

/-- One more event of the call. -/
theorem Reaches.turn (reaches : Reaches account initialBalances start Place)
    (event : ExecuteEvent) (mine : event.call? = some start.process.calls.length)
    (accepted : ∀ (agent : MemoryAgent) (call : ExecuteCall), Place call →
      Steady account initialBalances agent →
      agent.process.calls[start.process.calls.length]? = some call →
      sequential account agent event = true ∧
        ∃ s', agent.process.step account event = some s')
    (leads : ∀ (s : Process) (old new : ExecuteCall) (published : List ExecuteResult)
      (submitted : List Submitted), Place old →
      Process.Turn account s start.process.calls.length event old new published submitted →
      Next new) : Reaches account initialBalances start Next := by
  obtain ⟨events, agent, call, run, steady, now, calls, place⟩ := reaches
  have at_last : agent.process.calls[start.process.calls.length]? = some call := by
    rw [calls, List.getElem?_concat_length]
  obtain ⟨answers, s', steps⟩ := accepted agent call place steady at_last
  obtain ⟨old, new, published, submitted, takes⟩ := takes_of_call mine steps
  obtain rfl : call = old := Option.some.inj (at_last.symm.trans takes.before)
  have stepped : step account agent event = some ⟨s', agent.remember account event⟩ :=
    Option.map_eq_some_iff.mpr ⟨s', steps, rfl⟩
  refine ⟨events ++ [event], _, new, run.concat answers stepped, steady.step answers stepped,
    takes.now.trans now, ?_, leads agent.process call new published submitted place takes.turn⟩
  change s'.calls = _
  rw [takes.calls, calls, List.set_append_right _ _ le_rfl, Nat.sub_self, List.set_cons_zero]

/-- What the provider answers, and the state it makes. -/
def stateOf (account : ProtectedAccount) (initialBalances : List (Text × Int)) (dayUtc : Nat) :
    PolicyState :=
  ⟨account.deps.policy.account, dayUtc, 0,
    (MemoryStateProvider.create initialBalances).getBalance account.deps.policy.account
      account.deps.policy.asset, account.deps.policy.asset⟩

/-- A call that has been handed to the executor for the intent. -/
def IsSubmitting (intent : NormalizedIntent) (call : ExecuteCall) : Prop :=
  ∃ result, call = .submitting intent result ∧ result.intent = intent

/-- A call that waits for an approval of the intent. -/
def IsApproving (intent : NormalizedIntent) (call : ExecuteCall) : Prop :=
  ∃ state result request, call = .approving intent state result request ∧ result.intent = intent

/-- The call is made and its state is read. -/
theorem reaches_gathered (steady : Steady account initialBalances start)
    (idle : start.process.calls.all ExecuteCall.settled = true)
    (decoded : account.deps.engine.decoders.decode action account.deps.engine.decoderContext =
      .ok intent) :
    Reaches account initialBalances start fun call =>
      call = .gathering intent (utcDay start.process.now) (some 0)
        (some (stateOf account initialBalances 0).balance) := by
  have begins : Reaches account initialBalances start fun call =>
      call = .gathering intent (utcDay start.process.now) none none := by
    have stepped : step account start (.execute action) =
        some ⟨{ start.process with calls := start.process.calls ++
          [.gathering intent (utcDay start.process.now) none none] }, start.memory⟩ := by
      simp only [step, Process.step, decoded, Option.map_some, remember]
    have answers : sequential account start (.execute action) = true := idle
    exact ⟨[.execute action], _, _, .cons answers stepped .nil, steady.step answers stepped, rfl,
      rfl, rfl⟩
  have spent : Reaches account initialBalances start fun call =>
      call = .gathering intent (utcDay start.process.now) (some 0) none := by
    refine begins.turn (.spendReplies start.process.calls.length (.ok 0)) rfl ?_ ?_
    · rintro agent call rfl steady at_last
      refine ⟨?_, ?_⟩
      · simp only [sequential, at_last, steady.getDailySpend, decide_true]
      · simp only [Process.step, at_last]
        exact ⟨_, rfl⟩
    · rintro s old new published submitted rfl turn
      cases turn with
      | spend dailySpend => rfl
      | failed fails => cases fails
  refine spent.turn (.balanceReplies start.process.calls.length
    (.ok (stateOf account initialBalances 0).balance)) rfl ?_ ?_
  · rintro agent call rfl steady at_last
    refine ⟨?_, ?_⟩
    · simp only [sequential, steady.getBalance, stateOf, decide_true]
    · simp only [Process.step, at_last]
      exact ⟨_, rfl⟩
  · rintro s old new published submitted rfl turn
    cases turn with
    | balance balance => rfl
    | failed fails => cases fails

/-- What follows an allowing verdict is a submission, with an executor that sends for the
owner where it has to. -/
theorem IsSubmitting.of_sent {enforcer : HookEnforcer} (enforced : account.enforcer = some enforcer)
    {day i : Nat} {state : PolicyState} {result : ExecuteResult} {new : ExecuteCall}
    {published : List ExecuteResult} {submitted : List Submitted}
    (sent : Process.Sent account day i intent state result new published submitted)
    (same : result.intent = intent)
    (owner : result.approvalRequest ≠ none → enforcer.executor.sendsAsOwner = true) :
    IsSubmitting intent new := by
  cases sent with
  | unexecuted unenforced =>
      rw [enforced] at unenforced
      cases unenforced
  | sends => exact ⟨result, rfl, same⟩
  | sendsAsOwner => exact ⟨result, rfl, same⟩
  | refused enforced' approved incapable =>
      rw [enforced] at enforced'
      cases enforced'
      rw [owner (by rw [approved]; simp)] at incapable
      cases incapable

/-- The verdict is on the state that was read. -/
theorem reaches_decided (steady : Steady account initialBalances start)
    (idle : start.process.calls.all ExecuteCall.settled = true)
    (decoded : account.deps.engine.decoders.decode action account.deps.engine.decoderContext =
      .ok intent) {Next : ExecuteCall → Prop}
    (leads : ∀ (s : Process) (new : ExecuteCall) (published : List ExecuteResult)
      (submitted : List Submitted), Process.Turn account s start.process.calls.length
        (.decides start.process.calls.length) (.gathering intent (utcDay start.process.now)
          (some 0) (some (stateOf account initialBalances 0).balance)) new published submitted →
      Next new) : Reaches account initialBalances start Next := by
  refine (reaches_gathered steady idle decoded).turn (.decides start.process.calls.length) rfl
    ?_ ?_
  · rintro agent call rfl steady at_last
    refine ⟨rfl, ?_⟩
    simp only [Process.step, at_last]
    exact ⟨_, rfl⟩
  · rintro s old new published submitted rfl turn
    exact leads s new published submitted turn

/-- What is let through is submitted, perhaps after an approval. -/
theorem reaches_submitting (steady : Steady account initialBalances start)
    (idle : start.process.calls.all ExecuteCall.settled = true)
    (decoded : account.deps.engine.decoders.decode action account.deps.engine.decoderContext =
      .ok intent)
    (lets : LetsThrough account intent
      (stateOf account initialBalances (utcDay start.process.now))) :
    Reaches account initialBalances start (IsSubmitting intent) := by
  obtain ⟨enforcer, enforced, verdict⟩ := lets
  rcases verdict with allows | ⟨asks, approver, capable⟩
  · refine reaches_decided steady idle decoded fun s new published submitted turn => ?_
    cases turn with
    | allowed gathered allowed sent => exact .of_sent enforced sent rfl fun asked => absurd rfl asked
    | blocked gathered refused unhashed =>
        subst gathered
        rcases refused with blocks | ⟨asks, -⟩
        · exact absurd (allows.symm.trans blocks) (by decide)
        · exact absurd (allows.symm.trans asks) (by decide)
    | asks gathered asked approver shown =>
        subst gathered
        exact absurd (allows.symm.trans asked) (by decide)
    | failed fails => cases fails
  · have waits : Reaches account initialBalances start (IsApproving intent) := by
      refine reaches_decided steady idle decoded fun s new published submitted turn => ?_
      cases turn with
      | allowed gathered allowed sent =>
          subst gathered
          exact absurd (asks.symm.trans allowed) (by decide)
      | blocked gathered refused unhashed =>
          subst gathered
          rcases refused with blocks | ⟨-, alone⟩
          · exact absurd (asks.symm.trans blocks) (by decide)
          · rw [approver] at alone
            cases alone
      | asks gathered asked approver shown => exact ⟨_, _, _, rfl, rfl⟩
      | failed fails => cases fails
    refine waits.turn (.approverReplies start.process.calls.length (.ok ⟨true, none, []⟩)) rfl ?_ ?_
    · rintro agent call ⟨state, result, request, rfl, -⟩ steady at_last
      refine ⟨rfl, ?_⟩
      simp only [Process.step, at_last, if_true]
      exact ⟨_, rfl⟩
    · rintro s old new published submitted ⟨state, result, request, rfl, same⟩ turn
      cases turn with
      | approved approves sent => exact .of_sent enforced sent same fun _ => capable
      | declined declines unhashed => cases declines
      | failed fails => cases fails

/-- A call that has been let through returns a transaction hash. -/
theorem reaches_paid (steady : Steady account initialBalances start)
    (idle : start.process.calls.all ExecuteCall.settled = true)
    (decoded : account.deps.engine.decoders.decode action account.deps.engine.decoderContext =
      .ok intent)
    (lets : LetsThrough account intent
      (stateOf account initialBalances (utcDay start.process.now))) :
    Reaches account initialBalances start fun call =>
      call.settled = true ∧ paidBy call = intent.notionalUSDC := by
  have answered : Reaches account initialBalances start fun call =>
      ∃ result txHash, call = .recording intent result txHash ∧ result.intent = intent := by
    refine (reaches_submitting steady idle decoded lets).turn
      (.executorReplies start.process.calls.length (.ok [])) rfl ?_ ?_
    · rintro agent call ⟨result, rfl, -⟩ steady at_last
      refine ⟨rfl, ?_⟩
      simp only [Process.step, at_last]
      exact ⟨_, rfl⟩
    · rintro s old new published submitted ⟨result, rfl, same⟩ turn
      cases turn with
      | executed txHash => exact ⟨result, _, rfl, same⟩
      | failed fails => cases fails
  refine answered.turn (.recordReplies start.process.calls.length (.ok ())) rfl ?_ ?_
  · rintro agent call ⟨result, txHash, rfl, -⟩ steady at_last
    refine ⟨rfl, ?_⟩
    simp only [Process.step, at_last]
    exact ⟨_, rfl⟩
  · rintro s old new published submitted ⟨result, txHash, rfl, same⟩ turn
    cases turn with
    | recorded => exact ⟨rfl, congrArg NormalizedIntent.notionalUSDC same⟩
    | failed fails => cases fails

/-- Nothing keeps a call that is let through once from being let through any number of times. -/
theorem paid_repeatedly {now : Nat}
    (decoded : account.deps.engine.decoders.decode action account.deps.engine.decoderContext =
      .ok intent)
    (lets : LetsThrough account intent (stateOf account initialBalances (utcDay now))) (n : Nat) :
    ∃ events agent,
      Runs.Run (step account) (fun agent event => sequential account agent event = true)
          (initial now initialBalances) events agent ∧
        Steady account initialBalances agent ∧ agent.process.now = now ∧
        agent.process.calls.all ExecuteCall.settled = true ∧
        agent.paid = n * intent.notionalUSDC := by
  induction n with
  | zero => exact ⟨[], _, .nil, steady_initial, rfl, rfl, by simp [paid, initial, Process.initial]⟩
  | succ n ih =>
      obtain ⟨events, agent, run, steady, here, idle, paid_n⟩ := ih
      rw [← here] at lets
      obtain ⟨more, agent', call, run', steady', now', calls, settled, pays⟩ :=
        reaches_paid steady idle decoded lets
      refine ⟨events ++ more, agent', run.append run', steady', now'.trans here, ?_, ?_⟩
      · rw [calls, List.all_append, idle, List.all_cons, settled]
        rfl
      · rw [paid, calls, List.map_append, List.sum_append, ← paid, paid_n, List.map_singleton,
          List.sum_singleton, pays]
        push_cast
        ring

end Again

/-! ## The daily limit -/

/-- Nothing of positive notional is let through on a day without spend: there is no executor, or
nothing is left above the reserve, or all of it needs an owner whom the executor cannot send for. -/
def NeverPays (account : ProtectedAccount) (balance : Int) : Prop :=
  account.enforcer = none ∨ balance ≤ account.deps.policy.minBalance ∨
    account.deps.policy.approvalThreshold ≤ 1 ∧
      ∀ enforcer, account.enforcer = some enforcer → enforcer.executor.sendsAsOwner = false

/-- The asset is told to transfer one unit to itself. -/
def selfTransfer (asset : Address) : Action where
  toAddress := addressText asset
  data := bytesToHex (Token.encodeCall ExecutionLib.transferSelector [asset.setWidth 256, 1])
  value := 0

theorem decode_selfTransfer (asset : Address) (ctx : DecoderContext) :
    createDefaultRegistry.decode (selfTransfer asset) ctx =
      .ok (transferIntent (selfTransfer asset) ctx asset asset 1) := by
  have target : isAddress (selfTransfer asset).toAddress = true := isAddress_addressText asset
  have owner : addressOf (selfTransfer asset).toAddress = asset := addressOf_addressText asset
  have read := @decode_transfer _ asset 1 (selfTransfer asset)
    (isTransfer_encodeCall asset 1) target rfl ctx
  rw [owner] at read
  exact read

section Limit

variable {policyHash : PolicyDocument → Text} {config : AgentProofConfig} {deps : Deps}
  {executor : Option Executor} {initialBalances : List (Text × Int)} {agent : MemoryAgent}
  {events : List ExecuteEvent} {now : Nat} {balance : Int} {intent : NormalizedIntent}

/-- A created instance has the engine of its policy and its decoders. -/
theorem engine_of_createAgentProof (created : createAgentProof policyHash config = .ok deps) :
    deps.approver = config.approver ∧
      deps.engine = { createEngine deps.policy config.allowUnknownSelectors with
        decoders := config.decoders.getD createDefaultRegistry } := by
  simp only [createAgentProof, bind_eq_ok_iff, Except.ok.injEq] at created
  obtain ⟨policy, -, -, -, -, -, rfl⟩ := created
  exact ⟨rfl, rfl⟩

/-- What is let through on a day without spend fits into the limit. -/
theorem notional_le_of_passedOn (created : createAgentProof policyHash config = .ok deps)
    (passed : PassedOn (deps.protect executor) balance intent) :
    intent.notionalUSDC ≤ deps.policy.dailySpend := by
  obtain ⟨state, spent, -, lets⟩ := passed
  have fits := dailySpend_of_letsThrough (createAgentProof_eq_ok created).2 lets
  rwa [spent, zero_add] at fits

theorem paid_le_dailySpend (created : createAgentProof policyHash config = .ok deps)
    (run : Runs.Run (step (deps.protect executor)) (fun agent event =>
      sequential (deps.protect executor) agent event = true ∧
        First (deps.protect executor) agent event) (initial now initialBalances) events agent) :
    agent.paid ≤ deps.policy.dailySpend := by
  have nonneg : 0 ≤ deps.policy.dailySpend :=
    policyAmount_nonneg (resolves_of_resolvePolicy (createAgentProof_eq_ok created).1).dailySpend
  have kept (agent : MemoryAgent) (event : ExecuteEvent) (agent' : MemoryAgent)
      (both : Steady (deps.protect executor) initialBalances agent ∧ Alone agent)
      (meets : sequential (deps.protect executor) agent event = true ∧
        First (deps.protect executor) agent event)
      (stepped : step (deps.protect executor) agent event = some agent') :
      Steady (deps.protect executor) initialBalances agent' ∧ Alone agent' :=
    ⟨both.1.step meets.1 stepped, both.1.alone_step meets.1 meets.2 stepped both.2⟩
  have both := run.invariant kept ⟨steady_initial, Nat.zero_le 1⟩
  refine paid_le_of_each nonneg both.2 fun call mem => ?_
  by_cases paid : 0 < paidBy call
  · obtain ⟨intent, amount, passed⟩ := both.1.passedOn mem paid
    rw [amount]
    exact notional_le_of_passedOn created passed
  · omega

theorem notional_le_zero (created : createAgentProof policyHash config = .ok deps)
    (never : NeverPays (deps.protect executor) balance)
    (passed : PassedOn (deps.protect executor) balance intent) : intent.notionalUSDC ≤ 0 := by
  obtain ⟨state, -, rfl, enforcer, enforced, verdict⟩ := passed
  have policies := (createAgentProof_eq_ok created).2
  have unblocked : (deps.protect executor).decision intent state ≠ .block := by
    rcases verdict with allows | ⟨asks, -⟩
    · rw [allows]
      decide
    · rw [asks]
      decide
  have passes : deps.policy.Passes config.allowUnknownSelectors intent state := by
    rw [ProtectedAccount.decision, Deps.protect, policies, Ne,
      evaluate_createEngine_eq_block_iff, not_not] at unblocked
    exact unblocked
  rcases never with unenforced | poor | ⟨threshold, incapable⟩
  · rw [enforced] at unenforced
    cases unenforced
  · have floor := passes.floor
    change state.balance ≤ deps.policy.minBalance at poor
    omega
  · rcases verdict with allows | ⟨-, -, capable⟩
    · rw [ProtectedAccount.decision, Deps.protect, policies, PolicyEngine.evaluate_eq_allow_iff]
        at allows
      have below := allows (ApprovalThresholdPolicy deps.policy.approvalThreshold)
        (by simp [createEngine])
      change deps.policy.approvalThreshold ≤ 1 at threshold
      rw [approvalThreshold_decision] at below
      split_ifs at below with small
      omega
    · rw [incapable enforcer enforced] at capable
      cases capable

/-- Otherwise one unit can be sent. -/
theorem letsThrough_selfTransfer (created : createAgentProof policyHash config = .ok deps)
    (approves : config.approver = true) (decoders : config.decoders = none)
    (pays : ¬ NeverPays (deps.protect executor)
      (stateOf (deps.protect executor) initialBalances 0).balance) (dayUtc : Nat) :
    ∃ action intent, (deps.protect executor).deps.engine.decoders.decode action
        (deps.protect executor).deps.engine.decoderContext = .ok intent ∧
      intent.notionalUSDC = 1 ∧ LetsThrough (deps.protect executor) intent
        (stateOf (deps.protect executor) initialBalances dayUtc) := by
  obtain ⟨resolved, policies⟩ := createAgentProof_eq_ok created
  obtain ⟨approver, engine⟩ := engine_of_createAgentProof created
  obtain ⟨ordered, asset, tracked, listed⟩ := limits_of_resolvePolicy resolved
  have limits := (resolves_of_resolvePolicy resolved).limits
  have whole := policyAmount_nonneg (resolves_of_resolvePolicy resolved).maxTransaction
  simp only [checkLimits, invalidPolicy, guard_eq_ok_iff] at limits
  rw [NeverPays, not_or, not_or, not_le] at pays
  obtain ⟨present, rich, sends⟩ := pays
  obtain ⟨enforcer, enforced⟩ := Option.ne_none_iff_exists'.mp present
  set state := stateOf (deps.protect executor) initialBalances dayUtc with gathered
  have decoded := decode_selfTransfer asset ⟨deps.policy.account, deps.policy.asset⟩
  have notional : (transferIntent (selfTransfer asset) ⟨deps.policy.account, deps.policy.asset⟩
      asset asset 1).notionalUSDC = 1 := if_pos tracked.symm
  set intent := transferIntent (selfTransfer asset) ⟨deps.policy.account, deps.policy.asset⟩
    asset asset 1 with read
  refine ⟨selfTransfer asset, intent, ?_, notional, enforcer, enforced, ?_⟩
  · change deps.engine.decoders.decode _ deps.engine.decoderContext = _
    rw [engine, decoders]
    exact decoded
  have passes : deps.policy.Passes config.allowUnknownSelectors intent state := by
    refine ⟨⟨fun unknown => (by cases unknown), listed, fun _ named _ => ?_⟩, ?_, ?_, ?_⟩
    · cases named
      exact .inr listed
    · rw [notional]
      omega
    · rw [notional]
      change deps.policy.minBalance < state.balance at rich
      omega
    · rw [notional]
      change (0 : Int) + 1 ≤ deps.policy.dailySpend
      omega
  have unblocked : (deps.protect executor).decision intent state ≠ .block := by
    rw [ProtectedAccount.decision, Deps.protect, policies, Ne, evaluate_createEngine_eq_block_iff,
      not_not]
    exact passes
  by_cases capable : enforcer.executor.sendsAsOwner = true
  · cases verdict : (deps.protect executor).decision intent state with
    | allow => exact .inl rfl
    | block => exact absurd verdict unblocked
    | requireApproval => exact .inr ⟨rfl, approver.trans approves, capable⟩
  · refine .inl ?_
    have threshold : 1 < deps.policy.approvalThreshold := by
      by_contra low
      refine sends ⟨not_lt.mp low, fun enforcer' enforced' => ?_⟩
      rw [enforced] at enforced'
      cases enforced'
      rwa [Bool.not_eq_true] at capable
    rw [ProtectedAccount.decision, Deps.protect, policies, createEngine_policies,
      evaluate_transfer_eq_allow_iff tracked]
    refine ⟨⟨listed, fun _ => .inr listed, ?_, ?_, ?_⟩, threshold⟩
    · exact (le_of_eq notional.symm).trans passes.ceiling
    · have floor := passes.floor
      rw [notional] at floor
      exact floor
    · have daily := passes.daily
      rw [notional] at daily
      exact daily

/-- Where nothing positive is let through, nothing is paid. -/
theorem paid_le_zero (created : createAgentProof policyHash config = .ok deps)
    (never : NeverPays (deps.protect executor)
      (stateOf (deps.protect executor) initialBalances 0).balance)
    (steady : Steady (deps.protect executor) initialBalances agent) : agent.paid ≤ 0 := by
  have bound := List.sum_le_card_nsmul (agent.process.calls.map paidBy) 0 fun amount mem => by
    obtain ⟨call, listed, rfl⟩ := List.mem_map.mp mem
    by_contra paid
    obtain ⟨intent, same, passed⟩ := steady.passedOn listed (not_le.mp paid)
    exact paid (same ▸ notional_le_zero created never passed)
  rwa [smul_zero] at bound

/-- In a run of calls one after the other the transactions of the day stay within the daily limit,
if each call for a positive amount is made while nothing has been paid; and the runs of an instance
with the default decoders all do so exactly when it never pays at all. -/
theorem memory_dailySpend_iff (created : createAgentProof policyHash config = .ok deps)
    (approves : config.approver = true) (executor : Option Executor)
    (initialBalances : List (Text × Int)) (now : Nat) :
    (∀ events agent, Runs.Run (step (deps.protect executor)) (fun agent event =>
        sequential (deps.protect executor) agent event = true ∧
          First (deps.protect executor) agent event) (initial now initialBalances) events agent →
      agent.paid ≤ deps.policy.dailySpend) ∧
    (config.decoders = none →
      ((∀ events agent, Runs.Run (step (deps.protect executor)) (fun agent event =>
          sequential (deps.protect executor) agent event = true) (initial now initialBalances)
          events agent → agent.paid ≤ deps.policy.dailySpend) ↔
        NeverPays (deps.protect executor)
          ((MemoryStateProvider.create initialBalances).getBalance deps.policy.account
            deps.policy.asset))) := by
  have nonneg : 0 ≤ deps.policy.dailySpend :=
    policyAmount_nonneg (resolves_of_resolvePolicy (createAgentProof_eq_ok created).1).dailySpend
  refine ⟨fun events agent run => paid_le_dailySpend created run, fun decoders =>
    ⟨fun within => ?_, fun never events agent run => ?_⟩⟩
  · by_contra pays
    obtain ⟨action, intent, decoded, one, lets⟩ := letsThrough_selfTransfer created approves
      decoders pays (utcDay now)
    obtain ⟨events, agent, run, -, -, -, paid⟩ :=
      paid_repeatedly decoded lets (deps.policy.dailySpend.toNat + 1)
    have limited := within events agent run
    rw [paid, one] at limited
    push_cast at limited
    omega
  · exact (paid_le_zero created never (steady_of_run (fun _ _ answers => answers) run)).trans nonneg

end Limit

/-! ### Two payments one after the other -/

open Process (paymentOf sampleHash sampleOwnerSetup eq_ok_of_toOption)

/-- One payment, from its call to its record. -/
def paymentBy (call amount : Nat) : List ExecuteEvent :=
  [.execute (paymentOf amount), .spendReplies call (.ok 0), .balanceReplies call (.ok 1000000000),
    .decides call, .executorReplies call (.ok "0xaa".toList), .recordReplies call (.ok ())]

def sampleBalances : List (Text × Int) :=
  [(addressText 0xacc0 ++ ":".toList ++ addressText 0xa55e7, 1000000000)]

theorem first_of_unpaid {account : ProtectedAccount} {agent : MemoryAgent} {event : ExecuteEvent}
    (unpaid : agent.process.calls.all (fun call => paidBy call ≤ 0) = true) :
    First account agent event :=
  fun _ _ => .inl fun call mem => of_decide_eq_true (List.all_eq_true.mp unpaid call mem)

theorem memory_dailySpend_paymentBy : ∃ deps agent,
    createAgentProof sampleHash sampleOwnerSetup = .ok deps ∧
      Runs.Run (step (deps.protect none)) (fun agent event =>
        sequential (deps.protect none) agent event = true ∧
          First (deps.protect none) agent event) (initial 0 sampleBalances)
        (paymentBy 0 60000000) agent ∧
      agent.paid = 60000000 ∧ agent.paid ≤ deps.policy.dailySpend := by
  have ran : (createAgentProof sampleHash sampleOwnerSetup).toOption.any fun deps =>
      (Runs.replay (step (deps.protect none)) (fun agent event =>
        sequential (deps.protect none) agent event = true ∧
          agent.process.calls.all (fun call => paidBy call ≤ 0) = true) (initial 0 sampleBalances)
        (paymentBy 0 60000000)).any fun agent => agent.paid = 60000000 := by decide +kernel
  obtain ⟨deps, found, replayed⟩ := (Option.any_eq_true _ _).mp ran
  obtain ⟨agent, replayed, paid⟩ := (Option.any_eq_true _ _).mp replayed
  have created := eq_ok_of_toOption found
  have first (agent : MemoryAgent) (event : ExecuteEvent)
      (meets : sequential (deps.protect none) agent event = true ∧
        agent.process.calls.all (fun call => paidBy call ≤ 0) = true) :
      sequential (deps.protect none) agent event = true ∧
        First (deps.protect none) agent event := ⟨meets.1, first_of_unpaid meets.2⟩
  have run := (Runs.run_of_replay replayed).mono first
  exact ⟨deps, agent, created, run, of_decide_eq_true paid,
    (memory_dailySpend_iff created rfl none sampleBalances 0).1 _ agent run⟩

/-- The second is decided as if the first had not been made. -/
theorem memory_dailySpend_exceeded : ∃ deps agent,
    createAgentProof sampleHash sampleOwnerSetup = .ok deps ∧
      Runs.Run (step (deps.protect none)) (fun agent event =>
        sequential (deps.protect none) agent event = true) (initial 0 sampleBalances)
        (paymentBy 0 60000000 ++ paymentBy 1 60000000) agent ∧
      deps.policy.dailySpend < agent.paid := by
  have ran : (createAgentProof sampleHash sampleOwnerSetup).toOption.any fun deps =>
      (Runs.replay (step (deps.protect none)) (fun agent event =>
        sequential (deps.protect none) agent event = true) (initial 0 sampleBalances)
        (paymentBy 0 60000000 ++ paymentBy 1 60000000)).any fun agent =>
          deps.policy.dailySpend < agent.paid := by decide +kernel
  obtain ⟨deps, found, replayed⟩ := (Option.any_eq_true _ _).mp ran
  obtain ⟨agent, replayed, exceeds⟩ := (Option.any_eq_true _ _).mp replayed
  exact ⟨deps, agent, eq_ok_of_toOption found, Runs.run_of_replay replayed,
    of_decide_eq_true exceeds⟩

end MemoryAgent

end Sdk

end AgentProof
