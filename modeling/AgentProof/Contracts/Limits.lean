import AgentProof.Contracts.World

/-!
# Limits over whole runs

While an account stays installed, every execution of it keeps the
per-operation ceiling and the reserve, and the executions of one day together
keep the daily limit.  The stored window is a bucketed limiter
(`BucketLimit.Covers`) of the outflow measured over the account's top-level
executions.  Nested executions and forged `postCheck` calls are charges the
account of top-level outflow does not count, so they only tighten the limit.
-/

namespace AgentProof

open AgentPolicyHook PolicyLib

/-- The worlds a successful execution started from and ended in. -/
structure Receipt where
  pre : World
  post : World

/-- The executions of an account that ran inside no other execution of it. -/
def topLevel (account : Address) (log : List Entry) : List Receipt :=
  log.filterMap fun
    | .bracket b pre post nested _ =>
        if b.account = account ∧ nested = false then some ⟨pre, post⟩ else none
    | .act _ _ => none

namespace Receipt

variable (asset account : Address) (r : Receipt)

/-- How much less of the asset the account holds afterwards. -/
def outflow : Nat := r.pre.balance asset account - r.post.balance asset account

/-- The UTC day the execution's `preCheck` ran on. -/
def utcDay : Nat := r.pre.timestamp / 86400

/-- The day the hook records, a 64-bit word. -/
def day : Nat := (dayOf r.pre.timestamp).toNat

end Receipt

/-- The outflow of the top-level executions, by recorded day. -/
def outflowOn (asset account : Address) (log : List Entry) (day : Nat) : Nat :=
  (((topLevel account log).filter fun r => r.day = day).map (Receipt.outflow asset account)).sum

/-- A log entry is a successful `onUninstall` by the account. -/
def isUninstall (account : Address) : Entry → Bool
  | .act (.hook sender .onUninstall) _ => sender = account
  | _ => false

/-! ## Logs -/

section Logs

variable {asset account : Address} {log : List Entry}

@[simp] theorem topLevel_append (log' : List Entry) :
    topLevel account (log ++ log') = topLevel account log ++ topLevel account log' :=
  List.filterMap_append

theorem topLevel_bracket {b : Execution} {pre post : World} {nested : Bool} {events : List Event} :
    topLevel account [.bracket b pre post nested events] =
      if b.account = account ∧ nested = false then [⟨pre, post⟩] else [] := by
  simp only [topLevel, List.filterMap_cons, List.filterMap_nil]
  split_ifs with counted <;> simp

/-- An entry that is no top-level execution leaves the account of outflow as it was. -/
theorem outflowOn_append_of_nil {log' : List Entry} (none : topLevel account log' = []) :
    outflowOn asset account (log ++ log') = outflowOn asset account log := by
  funext day
  simp [outflowOn, none]

/-- A top-level execution adds its outflow to its own day. -/
theorem outflowOn_append_of_singleton {log' : List Entry} {r : Receipt}
    (one : topLevel account log' = [r]) :
    outflowOn asset account (log ++ log') =
      Function.update (outflowOn asset account log) r.day
        (outflowOn asset account log r.day + r.outflow asset account) := by
  funext day
  rcases eq_or_ne day r.day with same | other
  · subst same
    simp [outflowOn, one]
  · simp [outflowOn, one, Function.update_of_ne other, other.symm]

/-- The executions of one UTC day are among those of one recorded day. -/
theorem outflow_utcDay_le (day : Nat) :
    (((topLevel account log).filter fun r => r.utcDay = day).map
        (Receipt.outflow asset account)).sum ≤
      outflowOn asset account log (BitVec.ofNat 64 day).toNat := by
  refine List.Sublist.sum_le_sum (List.Sublist.map _ ?_) fun _ _ => zero_le
  refine List.monotone_filter_right _ fun r onDay => ?_
  have same : r.utcDay = day := of_decide_eq_true onDay
  exact decide_eq_true (by rw [← same]; rfl)

end Logs

/-! ## One check -/

/-- What a successful `postCheck` establishes against the balance it was
handed, and how it charges the window. -/
theorem postCheck_measures {s s' : Storage} {balanceOf : Address → Address → Uint256}
    {sender target : Address} {balanceBefore : Uint256} {today : Uint64} {hookData : Bytes}
    {events : List Event}
    (checked : AgentPolicyHook.postCheck s balanceOf sender hookData = .ok (s', events))
    (decoded : decodeHookData hookData = .ok (balanceBefore, today, target)) :
    let c := s.config sender
    let balanceAfter := (balanceOf c.asset sender).toNat
    balanceBefore.toNat ≤ balanceAfter + c.maxTransaction.toNat ∧
      c.minBalance.toNat ≤ balanceAfter ∧
      (balanceBefore.toNat - balanceAfter = 0 ∧ s' = s ∨
        BucketLimit.Charge c.dailyLimit.toNat (s.window sender).bucket today.toNat
          (balanceBefore.toNat - balanceAfter) (s'.window sender).bucket) := by
  obtain ⟨-, balanceBefore', today', target', decoded', floor, outcome⟩ :=
    postCheck_eq_ok_iff.mp checked
  rw [decoded, Except.ok.injEq, Prod.mk.injEq, Prod.mk.injEq] at decoded'
  obtain ⟨rfl, rfl, rfl⟩ := decoded'
  dsimp only
  generalize balanceOf (s.config sender).asset sender = balanceAfter at floor outcome ⊢
  refine ⟨?_, BitVec.le_def.mp floor, ?_⟩
  · rcases outcome with ⟨held, -, -⟩ | ⟨fell, next, applied, -, -⟩
    · exact (BitVec.le_def.mp held).trans (Nat.le_add_right _ _)
    · have ceiling : balanceBefore - balanceAfter ≤ (s.config sender).maxTransaction :=
        (applySpend_eq_ok_iff.mp applied).2.1
      bv_omega
  · rcases outcome with ⟨held, same, -⟩ | ⟨fell, next, applied, rfl, -⟩
    · exact .inl ⟨Nat.sub_eq_zero_of_le (BitVec.le_def.mp held), same⟩
    · have difference : (balanceBefore - balanceAfter).toNat =
          balanceBefore.toNat - balanceAfter.toNat := by bv_omega
      have charge := applySpend_charge applied
      rw [difference] at charge
      refine .inr ?_
      simp only [Function.update_self]
      exact charge

/-! ## The invariant -/

/-- What holds of an account that stays installed with `c`, after any run. -/
structure Limited (account : Address) (c : Config) (w : World) (log : List Entry) : Prop where
  config : w.hook.config account = c
  covers : BucketLimit.Covers c.dailyLimit.toNat (w.hook.window account).bucket
    (outflowOn c.asset account log)
  ceiling : ∀ r ∈ topLevel account log,
    r.pre.balance c.asset account ≤ r.post.balance c.asset account + c.maxTransaction.toNat
  floor : ∀ r ∈ topLevel account log, c.minBalance.toNat ≤ r.post.balance c.asset account

section Steps

variable {account : Address} {c : Config} {w : World} {log log' : List Entry}

theorem Limited.of_sameFor (limited : Limited account c w log) {w' : World}
    (same : SameFor account w.hook w'.hook) (none : topLevel account log' = []) :
    Limited account c w' (log ++ log') where
  config := same.config.trans limited.config
  covers := by
    rw [same.window, outflowOn_append_of_nil none]
    exact limited.covers
  ceiling r mem := limited.ceiling r (by simpa [none] using mem)
  floor r mem := limited.floor r (by simpa [none] using mem)

/-- A `postCheck` that closes no top-level execution: nested in one, or forged. -/
theorem Limited.postCheck (limited : Limited account c w log) {balanceOf : Address → Address → Uint256}
    {hookData : Bytes} {s' : Storage} {events : List Event} {w' : World}
    (checked : AgentPolicyHook.postCheck w.hook balanceOf account hookData = .ok (s', events))
    (hook : w'.hook = s') (none : topLevel account log' = []) :
    Limited account c w' (log ++ log') := by
  obtain ⟨-, balanceBefore, today, target, decoded, -, -⟩ := postCheck_eq_ok_iff.mp checked
  obtain ⟨-, -, outcome⟩ := postCheck_measures checked decoded
  have frame := postCheck_frame checked
  refine ⟨?_, ?_, fun r mem => limited.ceiling r (by simpa [none] using mem),
    fun r mem => limited.floor r (by simpa [none] using mem)⟩
  · rw [hook, frame.1, limited.config]
  · rw [hook, outflowOn_append_of_nil none]
    rcases outcome with ⟨-, rfl⟩ | charge
    · exact limited.covers
    · rw [limited.config] at charge
      exact limited.covers.charge_uncounted charge

/-- The `postCheck` of a top-level execution charges what the execution moved. -/
theorem Limited.execution (limited : Limited account c w log) {pre : World} {target : Address}
    {s' : Storage} {events : List Event}
    (checked : AgentPolicyHook.postCheck w.hook w.balanceOf account
      (encodeHookData (pre.balanceOf c.asset account) (dayOf pre.timestamp) target) =
        .ok (s', events))
    (one : topLevel account log' = [⟨pre, { w with hook := s' }⟩]) :
    Limited account c { w with hook := s' } (log ++ log') := by
  obtain ⟨ceiling, floor, outcome⟩ :=
    postCheck_measures checked (decodeHookData_encodeHookData _ _ _)
  have frame := postCheck_frame checked
  simp only [limited.config, World.toNat_balanceOf] at ceiling floor outcome
  refine ⟨?_, ?_, fun r mem => ?_, fun r mem => ?_⟩
  · exact (congrFun frame.1 account).trans limited.config
  · rw [outflowOn_append_of_singleton one]
    rcases outcome with ⟨none, rfl⟩ | charge
    · have zero : Receipt.outflow c.asset account ⟨pre, w⟩ = 0 := none
      rw [zero, Nat.add_zero, Function.update_eq_self]
      exact limited.covers
    · exact limited.covers.charge_counted charge
  · rw [topLevel_append, one, List.mem_append, List.mem_singleton] at mem
    rcases mem with earlier | rfl
    · exact limited.ceiling r earlier
    · exact ceiling
  · rw [topLevel_append, one, List.mem_append, List.mem_singleton] at mem
    rcases mem with earlier | rfl
    · exact limited.floor r earlier
    · exact floor

end Steps

/-- Every step of a run keeps the limits, as long as the account is not
uninstalled. -/
theorem limited_keeps (account : Address) {c : Config} (installed : c.installed = true) :
    Transaction.Keeps system (fun e => isUninstall account e = false) (Limited account c) where
  act {w log action w' events} limited acted stays := by
    cases action with
    | token effect =>
        obtain ⟨tokens, -, rfl, -⟩ := World.act_token_eq_ok acted
        exact limited.of_sameFor .rfl rfl
    | hook sender call =>
        obtain ⟨s', called, rfl⟩ := World.act_hook_eq_ok acted
        rcases eq_or_ne account sender with rfl | other
        · cases call with
          | onInstall data =>
              have fresh := (onInstall_eq_ok_iff.mp called).1
              rw [limited.config, installed] at fresh
              simp at fresh
          | onUninstall => simp [isUninstall] at stays
          | preCheck msgData =>
              simp only [World.callHook, bind_eq_ok_iff, Except.ok.injEq, Prod.mk.injEq] at called
              obtain ⟨-, -, rfl, -⟩ := called
              exact limited.of_sameFor .rfl rfl
          | postCheck hookData => exact limited.postCheck called rfl rfl
        · exact limited.of_sameFor (callHook_frame called other) rfl
  bracket {w log b hookData w₁ inner w' nested events} start entered limited clock left _ := by
    obtain ⟨s', checked, rfl⟩ := World.postCheck_eq_ok left
    by_cases own : b.account = account
    · subst own
      cases nested with
      | true => exact limited.postCheck checked rfl (by simp [topLevel_bracket])
      | false =>
          obtain ⟨-, target, _, -, -, -, handed⟩ := preCheck_eq_ok_iff.mp entered
          rw [handed, start.config] at checked
          exact limited.execution checked (by simp [topLevel_bracket])
    · obtain ⟨config, allowed, window⟩ := postCheck_frame checked
      exact limited.of_sameFor
        ⟨congrFun config _, window _ (Ne.symm own), congrFun allowed _⟩
        (by simp [topLevel_bracket, own])
  tick {w log seconds} limited := ⟨limited.config, limited.covers, limited.ceiling, limited.floor⟩

/-- The limits of an installed account, over every run in which it is not
uninstalled, from any state whatsoever of the hook, the tokens and the clock. -/
theorem limits_over_runs {account : Address} {c : Config} {w : World} {steps : List Step}
    (config : w.hook.config account = c) (installed : c.installed = true)
    (stays : ∀ e ∈ (run steps w).2, isUninstall account e = false) :
    (∀ r ∈ topLevel account (run steps w).2,
      r.pre.balance c.asset account ≤ r.post.balance c.asset account + c.maxTransaction.toNat) ∧
    (∀ r ∈ topLevel account (run steps w).2,
      c.minBalance.toNat ≤ r.post.balance c.asset account) ∧
    ∀ day, (((topLevel account (run steps w).2).filter fun r => r.utcDay = day).map
      (Receipt.outflow c.asset account)).sum ≤ c.dailyLimit.toNat := by
  have start : Limited account c w [] := {
    config := config
    covers := .empty _ _
    ceiling := fun r mem => by simp [topLevel] at mem
    floor := fun r mem => by simp [topLevel] at mem }
  have limited := (limited_keeps account installed).run steps start stays
  rw [List.nil_append] at limited
  exact ⟨limited.ceiling, limited.floor, fun day =>
    (outflow_utcDay_le day).trans (limited.covers.within _)⟩

/-- Two days of spending by the sample account, the second with an execution
that is refused. -/
def sampleSpending : List Step :=
  let pay (amount : Uint256) : Step :=
    let calldata := Token.encodeCall ExecutionLib.transferSelector [0x22, amount]
    .tx (executeToken ⟨sampleAccount, tokenMsgData sampleAsset calldata⟩ sampleAsset calldata)
  [pay 100, pay 60, .tick 86400, pay 101, pay 30]

/-- The three accepted payments stay within the limits. -/
theorem sampleSpending_limits :
    let log := (run sampleSpending sampleWorld).2
    (∀ r ∈ topLevel sampleAccount log,
      r.pre.balance sampleAsset sampleAccount ≤ r.post.balance sampleAsset sampleAccount + 100) ∧
    (∀ r ∈ topLevel sampleAccount log, 10 ≤ r.post.balance sampleAsset sampleAccount) ∧
    ∀ day, (((topLevel sampleAccount log).filter fun r => r.utcDay = day).map
      (Receipt.outflow sampleAsset sampleAccount)).sum ≤ 500 :=
  @limits_over_runs sampleAccount sampleConfig sampleWorld sampleSpending (by decide +kernel) rfl
    (by decide +kernel)

example : (topLevel sampleAccount (run sampleSpending sampleWorld).2).map
    (Receipt.outflow sampleAsset sampleAccount) = [100, 60, 30] := by decide +kernel

end AgentProof
