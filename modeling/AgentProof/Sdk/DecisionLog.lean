import AgentProof.Sdk.ExecuteRuns

/-!
# One record for each decision

A call publishes its decision where it returns.  A call that is rejected after
its decision has published nothing: the executor refused it, or accepted it and
the bookkeeping failed, or a human approved what the executor cannot send.
-/

namespace AgentProof

namespace Sdk

open Js

/-! ## Who publishes -/

/-- The process, and whose event each publication came with. -/
structure Logged where
  process : Process
  log : List (Option Nat)

namespace Logged

def initial (now : Nat) : Logged := ⟨.initial now, []⟩

def step (account : ProtectedAccount) (s : Logged) (event : ExecuteEvent) : Option Logged :=
  (s.process.step account event).map fun process =>
    ⟨process, s.log ++ List.replicate (process.published.length - s.process.published.length)
      event.call?⟩

/-- How often the call has published. -/
def times (s : Logged) (i : Nat) : Nat := s.log.count (some i)

end Logged

namespace Process

/-- `check` on the answers to its two reads: what it returns, and the process after it. -/
def check (account : ProtectedAccount) (s : Process) (action : Action)
    (dailySpend balance : Except JsError Int) : Except JsError ExecuteResult × Process :=
  let checked := do
    let intent ← account.deps.engine.decoders.decode action account.deps.engine.decoderContext
    let dailySpend ← dailySpend
    let balance ← balance
    .ok (verdict account s intent ⟨account.deps.policy.account, utcDay s.now, dailySpend, balance,
      account.deps.policy.asset⟩)
  (checked, match checked with
    | .ok result => { s with
        sequence := s.sequence + 1
        published := s.published ++ [result] }
    | .error _ => s)

/-! ## The claims of a run -/

/-- The state is read and the approver answers. -/
def resolves : ExecuteEvent → Bool
  | .spendReplies _ (.error _) | .balanceReplies _ (.error _) | .approverReplies _ (.error _) => false
  | _ => true

section Claims

variable (account : ProtectedAccount) (i : Nat)

/-- After the event the decision of call `i` is not published. -/
inductive Loses : ExecuteEvent → Prop
  | executor (e : JsError) : Loses (.executorReplies i (.error e))
  | record (e : JsError) : Loses (.recordReplies i (.error e))
  | owner {outcome : ApprovalOutcome} {enforcer : HookEnforcer} (approved : outcome.approved = true)
      (enforced : account.enforcer = some enforcer)
      (incapable : enforcer.executor.sendsAsOwner = false) :
      Loses (.approverReplies i (.ok outcome))

def Lost (events : List ExecuteEvent) : Prop := ∃ event ∈ events, Loses account i event

/-- What a call has published, by where it stands. -/
def Tells (events : List ExecuteEvent) (times : Nat) : ExecuteCall → Prop
  | .gathering _ _ _ _ => times = 0 ∧ ¬ Lost account i events ∧ .decides i ∉ events
  | .approving _ _ _ _ | .submitting _ _ | .recording _ _ _ => times = 0 ∧ ¬ Lost account i events
  | .returned _ => times = 1 ∧ ¬ Lost account i events
  | .rejected _ => times = 0 ∧ (Lost account i events ∨ .decides i ∉ events)

end Claims

section Turns

variable {account : ProtectedAccount} {s : Process} {event : ExecuteEvent} {i : Nat}
  {events : List ExecuteEvent} {times : Nat} {old new : ExecuteCall}
  {published : List ExecuteResult} {submitted : List Submitted}

theorem Loses.call? (loses : Loses account i event) : event.call? = some i := by
  cases loses <;> rfl

theorem lost_concat_iff :
    Lost account i (events ++ [event]) ↔ Lost account i events ∨ Loses account i event := by
  simp only [Lost, List.mem_append, List.mem_singleton, or_and_right, exists_or, exists_eq_left]

theorem not_lost_concat (kept : ¬ Lost account i events) (spares : ¬ Loses account i event) :
    ¬ Lost account i (events ++ [event]) := by
  rw [lost_concat_iff, not_or]
  exact ⟨kept, spares⟩

theorem decides_not_mem_concat (undecided : .decides i ∉ events) (other : event ≠ .decides i) :
    .decides i ∉ events ++ [event] := by
  rw [List.mem_append, List.mem_singleton, not_or]
  exact ⟨undecided, other.symm⟩

/-- An event of another call tells nothing of this one. -/
theorem Tells.concat {call : ExecuteCall} (tells : Tells account i events times call)
    (other : event.call? ≠ some i) : Tells account i (events ++ [event]) times call := by
  have spares : ¬ Loses account i event := fun loses => other loses.call?
  have undecides : event ≠ .decides i := by
    rintro rfl
    exact other rfl
  cases call with
  | gathering intent dayUtc dailySpend balance =>
      obtain ⟨none, kept, undecided⟩ := tells
      exact ⟨none, not_lost_concat kept spares, decides_not_mem_concat undecided undecides⟩
  | approving intent state result request => exact ⟨tells.1, not_lost_concat tells.2 spares⟩
  | submitting intent result => exact ⟨tells.1, not_lost_concat tells.2 spares⟩
  | recording intent result txHash => exact ⟨tells.1, not_lost_concat tells.2 spares⟩
  | returned result => exact ⟨tells.1, not_lost_concat tells.2 spares⟩
  | rejected e =>
      refine ⟨tells.1, tells.2.imp (fun lost => lost_concat_iff.mpr (.inl lost)) ?_⟩
      exact fun undecided => decides_not_mem_concat undecided undecides

/-- What a turn publishes, and when nothing will be published any more. -/
theorem Tells.turn (tells : Tells account i events times old)
    (turn : Turn account s i event old new published submitted) (answers : resolves event = true) :
    Tells account i (events ++ [event]) (times + published.length) new := by
  cases turn with
  | spend dailySpend =>
      obtain ⟨none, kept, undecided⟩ := tells
      exact ⟨none, not_lost_concat kept (by intro loses; cases loses),
        decides_not_mem_concat undecided (by simp)⟩
  | balance balance =>
      obtain ⟨none, kept, undecided⟩ := tells
      exact ⟨none, not_lost_concat kept (by intro loses; cases loses),
        decides_not_mem_concat undecided (by simp)⟩
  | allowed gathered allows sent =>
      obtain ⟨none, kept, -⟩ := tells
      have kept' := @not_lost_concat _ (.decides i) _ _ kept (by intro loses; cases loses)
      cases sent with
      | unexecuted unenforced => exact ⟨by rw [none]; rfl, kept'⟩
      | sends enforced direct => exact ⟨none, kept'⟩
      | sendsAsOwner enforced approved capable => cases approved
      | refused enforced approved incapable => cases approved
  | blocked gathered refused unhashed =>
      obtain ⟨none, kept, -⟩ := tells
      exact ⟨by rw [none]; rfl, not_lost_concat kept (by intro loses; cases loses)⟩
  | asks gathered asked approver shown =>
      obtain ⟨none, kept, -⟩ := tells
      exact ⟨none, not_lost_concat kept (by intro loses; cases loses)⟩
  | approved approves sent =>
      obtain ⟨none, kept⟩ := tells
      cases sent with
      | unexecuted unenforced =>
          refine ⟨by rw [none]; rfl, not_lost_concat kept fun loses => ?_⟩
          cases loses with
          | owner _ enforced _ =>
              rw [unenforced] at enforced
              cases enforced
      | sends enforced direct => cases direct
      | sendsAsOwner enforced _ capable =>
          refine ⟨none, not_lost_concat kept fun loses => ?_⟩
          cases loses with
          | owner _ enforced' incapable =>
              rw [enforced] at enforced'
              cases enforced'
              rw [capable] at incapable
              cases incapable
      | refused enforced _ incapable =>
          exact ⟨none, .inl (lost_concat_iff.mpr (.inr (.owner approves enforced incapable)))⟩
  | declined declines unhashed =>
      obtain ⟨none, kept⟩ := tells
      refine ⟨by rw [none]; rfl, not_lost_concat kept fun loses => ?_⟩
      cases loses with
      | owner approved _ _ =>
          rw [declines] at approved
          cases approved
  | executed txHash =>
      obtain ⟨none, kept⟩ := tells
      exact ⟨none, not_lost_concat kept (by intro loses; cases loses)⟩
  | recorded =>
      obtain ⟨none, kept⟩ := tells
      exact ⟨by rw [none]; rfl, not_lost_concat kept (by intro loses; cases loses)⟩
  | failed fails =>
      cases fails with
      | spend => cases answers
      | balance => cases answers
      | approver => cases answers
      | executor => exact ⟨tells.1, .inl (lost_concat_iff.mpr (.inr (.executor _)))⟩
      | record => exact ⟨tells.1, .inl (lost_concat_iff.mpr (.inr (.record _)))⟩

end Turns

/-! ## Runs -/

/-- The log tells of every call what its place says. -/
structure Accounted (account : ProtectedAccount) (events : List ExecuteEvent) (s : Logged) :
    Prop where
  tells : ∀ i call, s.process.calls[i]? = some call → Tells account i events (s.times i) call
  begun : ∀ event ∈ events, ∀ i, event.call? = some i → i < s.process.calls.length
  unborn : ∀ i, s.process.calls.length ≤ i → s.times i = 0

section Runs

variable {account : ProtectedAccount} {s s' : Logged} {event : ExecuteEvent}
  {events : List ExecuteEvent} {now : Nat}

theorem accounted_initial : Accounted account [] (Logged.initial now) where
  tells i call at_i := by simp [Logged.initial, initial] at at_i
  begun event mem := by cases mem
  unborn i _ := rfl

theorem times_append {i n : Nat} {publisher : Option Nat} {process : Process} :
    (⟨process, s.log ++ List.replicate n publisher⟩ : Logged).times i =
      s.times i + if publisher = some i then n else 0 := by
  rw [Logged.times, Logged.times, List.count_append, List.count_replicate]
  simp only [beq_iff_eq]

/-- A call that has just been made has published nothing, and lost nothing. -/
theorem Accounted.begun_tells (accounted : Accounted account events s) (action : Action) :
    Tells account s.process.calls.length (events ++ [.execute action]) 0
      (Process.begun account s.process action) := by
  have silent (event : ExecuteEvent) (mem : event ∈ events) :
      event.call? ≠ some s.process.calls.length :=
    fun mine => lt_irrefl _ (accounted.begun event mem _ mine)
  have undecided : .decides s.process.calls.length ∉ events ++ [.execute action] :=
    decides_not_mem_concat (fun mem => silent _ mem rfl) (by simp)
  unfold Process.begun
  split
  · refine ⟨rfl, not_lost_concat ?_ (by intro loses; cases loses), undecided⟩
    rintro ⟨event, mem, loses⟩
    exact silent event mem loses.call?
  · exact ⟨rfl, .inr undecided⟩

theorem Accounted.step (accounted : Accounted account events s) (answers : resolves event = true)
    (stepped : Logged.step account s event = some s') :
    Accounted account (events ++ [event]) s' := by
  obtain ⟨process, steps, rfl⟩ := Option.map_eq_some_iff.mp stepped
  rcases step_cases steps with ⟨action, rfl, begins⟩ |
    ⟨i, old, new, published, submitted, takes⟩ | idles
  · have times (i : Nat) : (⟨process, s.log ++ List.replicate (process.published.length -
        s.process.published.length) none⟩ : Logged).times i = s.times i := by
      rw [times_append, if_neg (by simp), Nat.add_zero]
    constructor
    · intro i call at_i
      change process.calls[i]? = some call at at_i
      rw [begins.calls, List.getElem?_append] at at_i
      rw [ExecuteEvent.call?, times]
      split_ifs at at_i with inside
      · exact (accounted.tells i call at_i).concat (by simp [ExecuteEvent.call?])
      · obtain ⟨zero, same⟩ := List.getElem?_eq_some_iff.mp at_i
        rw [List.length_singleton] at zero
        obtain rfl : i = s.process.calls.length := by omega
        rw [accounted.unborn _ le_rfl]
        simp only [Nat.sub_self, List.getElem_cons_zero] at same
        exact same ▸ accounted.begun_tells action
    · intro event mem i mine
      change i < process.calls.length
      rw [begins.calls, List.length_append]
      rcases List.mem_append.mp mem with before | last
      · exact Nat.lt_add_right _ (accounted.begun event before i mine)
      · rw [List.mem_singleton.mp last] at mine
        cases mine
    · intro i outside
      change process.calls.length ≤ i at outside
      rw [begins.calls, List.length_append] at outside
      rw [ExecuteEvent.call?, times]
      exact accounted.unborn i (by omega)
  · have inside : i < s.process.calls.length := (List.getElem?_eq_some_iff.mp takes.before).1
    have mine : event.call? = some i := takes.turn.call?
    have length : process.calls.length = s.process.calls.length := by
      rw [takes.calls, List.length_set]
    have added : process.published.length - s.process.published.length = published.length := by
      rw [takes.published, List.length_append, Nat.add_sub_cancel_left]
    constructor
    · intro j call at_j
      change process.calls[j]? = some call at at_j
      rw [times_append, added, mine]
      rcases eq_or_ne j i with rfl | other
      · rw [takes.calls, List.getElem?_set_self inside] at at_j
        rw [if_pos rfl]
        exact Option.some.inj at_j ▸ (accounted.tells j old takes.before).turn takes.turn answers
      · rw [takes.calls, List.getElem?_set_ne other.symm] at at_j
        rw [if_neg (by simpa using other.symm), Nat.add_zero]
        exact (accounted.tells j call at_j).concat (by rw [mine]; simpa using other.symm)
    · intro event' mem j theirs
      change j < process.calls.length
      rw [length]
      rcases List.mem_append.mp mem with before | last
      · exact accounted.begun event' before j theirs
      · rw [List.mem_singleton.mp last, mine] at theirs
        cases theirs
        exact inside
    · intro j outside
      change process.calls.length ≤ j at outside
      rw [length] at outside
      have other : i ≠ j := by omega
      rw [times_append, mine, if_neg (by simpa using other), Nat.add_zero]
      exact accounted.unborn j outside
  · have foreign := idles.foreign
    constructor
    · intro i call at_i
      change process.calls[i]? = some call at at_i
      rw [idles.calls] at at_i
      rw [times_append, foreign, if_neg (by simp), Nat.add_zero]
      exact (accounted.tells i call at_i).concat (by simp [foreign])
    · intro event' mem i mine
      change i < process.calls.length
      rw [idles.calls]
      rcases List.mem_append.mp mem with before | last
      · exact accounted.begun event' before i mine
      · rw [List.mem_singleton.mp last, foreign] at mine
        cases mine
    · intro i outside
      change process.calls.length ≤ i at outside
      rw [idles.calls] at outside
      rw [times_append, foreign, if_neg (by simp), Nat.add_zero]
      exact accounted.unborn i outside

theorem accounted_of_run
    (run : Runs.Run (Logged.step account) (fun _ event => resolves event = true) (Logged.initial now)
      events s) : Accounted account events s :=
  run.history accounted_initial fun _ _ _ _ _ accounted answers stepped =>
    accounted.step answers stepped

/-- A check publishes what it returns. -/
theorem check_publishes {s : Process} {action : Action} {dailySpend balance : Int}
    {intent : NormalizedIntent}
    (decoded : account.deps.engine.decoders.decode action account.deps.engine.decoderContext =
      .ok intent) :
    ∃ result, (s.check account action (.ok dailySpend) (.ok balance)).1 = .ok result ∧
      (s.check account action (.ok dailySpend) (.ok balance)).2.published =
        s.published ++ [result] := by
  simp only [check, decoded, bind, Except.bind]
  exact ⟨_, rfl, rfl⟩

/-- What is settled after its decision was published once, or lost. -/
theorem Tells.once_iff {i times : Nat} {call : ExecuteCall}
    (tells : Tells account i events times call) (decided : .decides i ∈ events)
    (settled : call.settled = true) : times = 1 ↔ ¬ Lost account i events := by
  cases call with
  | gathering => cases settled
  | approving => cases settled
  | submitting => cases settled
  | recording => cases settled
  | returned result => exact iff_of_true tells.1 tells.2
  | rejected e =>
      obtain ⟨none, lost | undecided⟩ := tells
      · exact iff_of_false (by omega) (not_not.mpr lost)
      · exact absurd decided undecided

theorem Tells.none_of_pending {i times : Nat} {call : ExecuteCall}
    (tells : Tells account i events times call) (pending : call.settled = false) : times = 0 := by
  cases call with
  | returned => cases pending
  | rejected => cases pending
  | _ => exact tells.1

/-- A call that decided and settled has published its decision once, exactly when neither the
executor nor the bookkeeping rejected and no human approved what the executor cannot send; before
it settles it has published nothing, and a check always publishes what it returns. -/
theorem decision_published_once_iff (account : ProtectedAccount) :
    (∀ now events s, Runs.Run (Logged.step account) (fun _ event => resolves event = true)
        (Logged.initial now) events s → ∀ i call, s.process.calls[i]? = some call →
      (call.settled = false → s.times i = 0) ∧
        (.decides i ∈ events → call.settled = true →
          (s.times i = 1 ↔ ¬ Lost account i events))) ∧
    ∀ (s : Process) (action : Action) (dailySpend balance : Int) (intent : NormalizedIntent),
      account.deps.engine.decoders.decode action account.deps.engine.decoderContext = .ok intent →
      ∃ result, (s.check account action (.ok dailySpend) (.ok balance)).1 = .ok result ∧
        (s.check account action (.ok dailySpend) (.ok balance)).2.published =
          s.published ++ [result] := by
  constructor
  · intro now events s run i call at_i
    have tells := (accounted_of_run run).tells i call at_i
    exact ⟨tells.none_of_pending, tells.once_iff⟩
  · intro s action dailySpend balance intent decoded
    exact check_publishes decoded

end Runs

/-! ### A payment, recorded and not -/

/-- A payment is allowed and executed, and its execution is to be recorded. -/
def executedPayment (reply : Except JsError Unit) : List ExecuteEvent :=
  [.execute (paymentOf 60000000), .spendReplies 0 (.ok 0), .balanceReplies 0 (.ok 1000000000),
    .decides 0, .executorReplies 0 (.ok "0xaa".toList), .recordReplies 0 reply]

/-- How often the payment has been published once it is settled. -/
def publications (account : ProtectedAccount) (reply : Except JsError Unit) : Option Nat :=
  match Runs.replay (Logged.step account) (fun _ event => resolves event = true)
      (Logged.initial 0) (executedPayment reply) with
  | some s =>
      match s.process.calls[0]? with
      | some call => if call.settled then some (s.times 0) else none
      | none => none
  | none => none

theorem run_of_publications {account : ProtectedAccount} {reply : Except JsError Unit} {n : Nat}
    (counted : publications account reply = some n) : ∃ s call,
    Runs.Run (Logged.step account) (fun _ event => resolves event = true) (Logged.initial 0)
        (executedPayment reply) s ∧
      s.process.calls[0]? = some call ∧ call.settled = true ∧ s.times 0 = n := by
  unfold publications at counted
  split at counted
  · next s replayed =>
      split at counted
      · next call at_0 =>
          split_ifs at counted with settled
          exact ⟨s, call, Runs.run_of_replay replayed, at_0, settled, Option.some.inj counted⟩
      · cases counted
  · cases counted

theorem decision_published_once_executedPayment : ∃ deps s,
    createAgentProof sampleHash sampleSetup = .ok deps ∧
      Runs.Run (Logged.step (deps.protect none)) (fun _ event => resolves event = true)
        (Logged.initial 0) (executedPayment (.ok ())) s ∧
      s.times 0 = 1 ∧ ¬ Lost (deps.protect none) 0 (executedPayment (.ok ())) := by
  have ran : (createAgentProof sampleHash sampleSetup).toOption.any fun deps =>
      publications (deps.protect none) (.ok ()) = some 1 := by decide +kernel
  obtain ⟨deps, found, counted⟩ := (Option.any_eq_true _ _).mp ran
  obtain ⟨s, call, run, at_0, settled, once⟩ := run_of_publications (of_decide_eq_true counted)
  have recorded := ((decision_published_once_iff (deps.protect none)).1 0 _ s run 0 call at_0).2
    (by simp [executedPayment]) settled
  exact ⟨deps, s, eq_ok_of_toOption found, run, once, recorded.mp once⟩

/-- The executor has accepted the payment, its bookkeeping fails, and nobody ever hears of it. -/
theorem decision_not_published_executedPayment : ∃ deps s call,
    createAgentProof sampleHash sampleSetup = .ok deps ∧
      Runs.Run (Logged.step (deps.protect none)) (fun _ event => resolves event = true)
        (Logged.initial 0) (executedPayment (thrown "down".toList)) s ∧
      .decides 0 ∈ executedPayment (thrown "down".toList) ∧
      .executorReplies 0 (.ok "0xaa".toList) ∈ executedPayment (thrown "down".toList) ∧
      s.process.calls[0]? = some call ∧ call.settled = true ∧ s.times 0 = 0 := by
  have ran : (createAgentProof sampleHash sampleSetup).toOption.any fun deps =>
      publications (deps.protect none) (thrown "down".toList) = some 0 := by decide +kernel
  obtain ⟨deps, found, counted⟩ := (Option.any_eq_true _ _).mp ran
  obtain ⟨s, call, run, at_0, settled, never⟩ := run_of_publications (of_decide_eq_true counted)
  exact ⟨deps, s, call, eq_ok_of_toOption found, run, by simp [executedPayment],
    by simp [executedPayment], at_0, settled, never⟩

end Process

end Sdk

end AgentProof
