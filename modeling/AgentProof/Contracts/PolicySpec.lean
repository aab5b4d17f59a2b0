import AgentProof.Contracts.Limits

/-!
# The harnesses of the model checker

`PolicySpec.sol` and `PolicySpecBroken.sol`: the spending core on its own, called
with any arguments, with the assertions that the model checker is asked about.  The
first never fails an assertion, and the windows it reaches are those the hook reaches
in an account that stays installed.  The second fails its assertion wherever its limit
leaves room for one more unit, and after how many calls is told.
-/

namespace AgentProof

namespace PolicySpec

open PolicyLib

/-- Why a call fails. -/
inductive Fault
  | required
  | refused
  | arithmetic
  | assertion
  deriving DecidableEq, Repr

def assert (p : Prop) [Decidable p] : Except Fault Unit :=
  if p then .ok () else .error .assertion

section Calls

variable {S A : Type} (call : S → A → Except Fault S)

/-- A call that fails changes nothing. -/
def attempt (s : S) (a : A) : S :=
  match call s a with
  | .ok s' => s'
  | .error _ => s

def after (s : S) (calls : List A) : S := calls.foldl (attempt call) s

@[simp] theorem after_concat (s : S) (calls : List A) (a : A) :
    after call s (calls ++ [a]) = attempt call (after call s calls) a := by
  rw [after, List.foldl_append]
  rfl

variable {call} in
/-- Where every call returns, none is passed over. -/
theorem after_of_foldlM {s t : S} {calls : List A} (returns : calls.foldlM call s = .ok t) :
    after call s calls = t := by
  induction calls generalizing s with
  | nil => exact Except.ok.inj returns
  | cons a rest ih =>
      rw [List.foldlM_cons] at returns
      cases first : call s a with
      | error fault =>
          rw [first] at returns
          cases returns
      | ok s' =>
          rw [first] at returns
          rw [after, List.foldl_cons, attempt, first]
          exact ih returns

end Calls

/-- An amount and the day it is spent on. -/
abbrev Spend := Uint256 × Uint64

/-! ## The harness -/

structure Spec where
  day : Uint64
  spent : Uint256
  maxTransaction : Uint256
  dailyLimit : Uint256
  deriving DecidableEq, Repr

def Spec.window (s : Spec) : Window := ⟨s.day, s.spent⟩
def Spec.limits (s : Spec) : Limits := ⟨s.maxTransaction, s.dailyLimit⟩

/-- The constructor. -/
def create (maxTx daily : Uint256) : Except Fault Spec :=
  if ¬ maxTx > 0 then .error .required
  else if ¬ daily ≥ maxTx then .error .required
  else .ok ⟨0, 0, maxTx, daily⟩

def step (s : Spec) (spend : Spend) : Except Fault Spec :=
  match evaluate s.day s.spent s.maxTransaction s.dailyLimit spend.1 spend.2 with
  | (.allow, nextDay, nextSpent) => do
      let s' := { s with day := nextDay, spent := nextSpent }
      assert (spend.1 ≤ s'.maxTransaction)
      assert (s'.spent ≤ s'.dailyLimit)
      assert (s'.day ≥ s.day)
      assert (s'.day = spend.2)
      .ok s'
  | (_, nextDay, nextSpent) => do
      assert (nextSpent = s.spent)
      assert (nextDay = s.day)
      .ok s

/-- Refused, the core gives back what it was given. -/
theorem evaluate_refused {day today nextDay : Uint64}
    {spent maxTransaction dailyLimit amount nextSpent : Uint256} {decision : Decision}
    (evaluated : evaluate day spent maxTransaction dailyLimit amount today =
      (decision, nextDay, nextSpent)) (refused : decision ≠ .allow) :
    nextDay = day ∧ nextSpent = spent := by
  unfold evaluate at evaluated
  dsimp only at evaluated
  split_ifs at evaluated
  all_goals
    cases evaluated
    first
      | exact ⟨rfl, rfl⟩
      | exact absurd rfl refused

/-- An applied spend, with the core's verdict and what the assertions ask of it. -/
theorem allowed_of_applySpend {s : Spec} {spend : Spend} {next : Window}
    (applied : applySpend s.window s.limits spend.1 spend.2 = .ok next) :
    evaluate s.day s.spent s.maxTransaction s.dailyLimit spend.1 spend.2 =
        (.allow, next.day, next.spent) ∧
      spend.1 ≤ s.maxTransaction ∧ next.spent ≤ s.dailyLimit ∧ s.day ≤ next.day ∧
      next.day = spend.2 := by
  obtain ⟨forward, small, within, rfl⟩ := applySpend_eq_ok_iff.mp applied
  have limit := s.dailyLimit.isLt
  have total : (s.window.base spend.2 + spend.1).toNat =
      (s.window.base spend.2).toNat + spend.1.toNat := by
    have bounded : (s.window.base spend.2).toNat + spend.1.toNat ≤ s.dailyLimit.toNat := within
    rw [BitVec.toNat_add, Nat.mod_eq_of_lt (by omega)]
  refine ⟨?_, small, ?_, forward, rfl⟩
  · exact (evaluate_eq_allow_iff (w := s.window)).mpr ⟨forward, small, within, rfl, rfl⟩
  · rw [BitVec.le_def, total]
    exact within

/-- No call fails, and a call does to the window what the hook's library does. -/
theorem step_eq (s : Spec) (spend : Spend) :
    step s spend = .ok (match applySpend s.window s.limits spend.1 spend.2 with
      | .ok next => { s with day := next.day, spent := next.spent }
      | .error _ => s) := by
  cases applied : applySpend s.window s.limits spend.1 spend.2 with
  | ok next =>
      obtain ⟨evaluated, small, within, forward, today⟩ := allowed_of_applySpend applied
      have later : s.day ≤ spend.2 := today ▸ forward
      rw [step, evaluated]
      simp [assert, small, within, later, today, bind, Except.bind]
  | error e =>
      obtain ⟨decision, nextDay, nextSpent, evaluated⟩ : ∃ decision nextDay nextSpent,
          evaluate s.day s.spent s.maxTransaction s.dailyLimit spend.1 spend.2 =
            (decision, nextDay, nextSpent) := ⟨_, _, _, rfl⟩
      have refused : decision ≠ .allow := by
        rintro rfl
        have allowed := (evaluate_eq_allow_iff (w := s.window)).mp evaluated
        have fine := (applySpend_eq_ok_iff (l := s.limits)).mpr
          ⟨allowed.1, allowed.2.1, allowed.2.2.1, rfl⟩
        rw [applied] at fine
        cases fine
      obtain ⟨rfl, rfl⟩ := evaluate_refused evaluated refused
      rw [step, evaluated]
      cases decision with
      | allow => exact absurd rfl refused
      | _ => simp [assert, bind, Except.bind]

/-- Whatever it is called with, and in whatever order, the harness fails no assertion. -/
theorem step_ne_error (s : Spec) (spend : Spend) (fault : Fault) : step s spend ≠ .error fault := by
  rw [step_eq]
  nofun

/-! ## The hook's windows -/

section Hook

open AgentPolicyHook

variable {account : Address} {c : Config} {w : World}

/-- The harness with the limits of an account. -/
def ofConfig (c : Config) : Spec := ⟨0, 0, c.maxTransaction, c.dailyLimit⟩

/-- The calls spend something. -/
def Spends (calls : List Spend) : Prop := ∀ spend ∈ calls, spend.1 ≠ 0

theorem attempt_step (s : Spec) (spend : Spend) :
    attempt step s spend = match applySpend s.window s.limits spend.1 spend.2 with
      | .ok next => { s with day := next.day, spent := next.spent }
      | .error _ => s := by
  rw [attempt, step_eq]

/-- The limits of a harness are set once. -/
theorem limits_after (s : Spec) (calls : List Spend) : (after step s calls).limits = s.limits := by
  induction calls using List.reverseRecOn with
  | nil => rfl
  | append_singleton calls spend ih =>
      rw [after_concat, attempt_step]
      split
      · exact ih
      · exact ih

/-- The window of the account is one that the harness reaches. -/
structure Reached (account : Address) (c : Config) (w : World) : Prop where
  config : w.hook.config account = c
  window : ∃ calls, Spends calls ∧
    (after step (ofConfig c) calls).window = w.hook.window account

theorem Reached.of_sameFor (reached : Reached account c w) {w' : World}
    (same : SameFor account w.hook w'.hook) : Reached account c w' := by
  obtain ⟨calls, spends, window⟩ := reached.window
  exact ⟨same.config.trans reached.config, calls, spends, window.trans same.window.symm⟩

/-- A check after an execution is a call of the harness, or none. -/
theorem Reached.postCheck (reached : Reached account c w)
    {balanceOf : Address → Address → Uint256} {hookData : Bytes} {s' : Storage}
    {events : List Event} {w' : World}
    (checked : AgentPolicyHook.postCheck w.hook balanceOf account hookData = .ok (s', events))
    (hook : w'.hook = s') : Reached account c w' := by
  have frame := postCheck_frame checked
  obtain ⟨calls, spends, window⟩ := reached.window
  obtain ⟨-, balanceBefore, today, target, -, -, outcome⟩ := postCheck_eq_ok_iff.mp checked
  refine ⟨by rw [hook, frame.1, reached.config], ?_⟩
  rcases outcome with ⟨-, rfl, -⟩ | ⟨fell, next, applied, rfl, -⟩
  · exact ⟨calls, spends, by rw [hook, window]⟩
  · rw [reached.config] at fell applied
    generalize balanceOf c.asset account = balanceAfter at fell applied
    refine ⟨calls ++ [(balanceBefore - balanceAfter, today)], ?_, ?_⟩
    · refine List.forall_mem_append.mpr ⟨spends, ?_⟩
      rw [List.forall_mem_singleton]
      show balanceBefore - balanceAfter ≠ 0
      bv_omega
    · have same : (after step (ofConfig c) calls).limits = c.limits := limits_after _ calls
      rw [after_concat, attempt_step, window, same, applied, hook]
      simp [Spec.window]

theorem reached_keeps (installed : c.installed = true) :
    Transaction.Keeps system (fun e => isUninstall account e = false)
      (fun w _ => Reached account c w) where
  act {w log action w' events} reached acted stays := by
    cases action with
    | token effect =>
        obtain ⟨tokens, -, rfl, -⟩ := World.act_token_eq_ok acted
        exact reached.of_sameFor .rfl
    | hook sender call =>
        obtain ⟨s', called, rfl⟩ := World.act_hook_eq_ok acted
        rcases eq_or_ne account sender with rfl | other
        · cases call with
          | onInstall data =>
              have fresh := (onInstall_eq_ok_iff.mp called).1
              rw [reached.config, installed] at fresh
              cases fresh
          | onUninstall => simp [isUninstall] at stays
          | preCheck msgData =>
              simp only [World.callHook, bind_eq_ok_iff, Except.ok.injEq, Prod.mk.injEq] at called
              obtain ⟨-, -, rfl, -⟩ := called
              exact reached.of_sameFor .rfl
          | postCheck hookData => exact reached.postCheck called rfl
        · exact reached.of_sameFor (callHook_frame called other)
  bracket {w log b hookData w₁ inner w' nested events} _ _ reached _ left _ := by
    obtain ⟨s', checked, rfl⟩ := World.postCheck_eq_ok left
    rcases eq_or_ne b.account account with rfl | other
    · exact reached.postCheck checked rfl
    · obtain ⟨config, allowed, window⟩ := postCheck_frame checked
      exact reached.of_sameFor
        ⟨congrFun config _, window _ (Ne.symm other), congrFun allowed _⟩
  tick {w log seconds} reached := ⟨reached.config, reached.window⟩

/-- The account's balance is set to the floor. -/
def floorTokens (account : Address) (c : Config) (tokens : Address → Erc20) : Address → Erc20 :=
  Function.update tokens c.asset (.issued account c.minBalance.toNat c.minBalance.isLt)

/-- The account forges a check that measures the spend. -/
def forge (account : Address) (c : Config) (spend : Spend) : List Step :=
  [.tx (.act (.token fun tokens => .ok (floorTokens account c tokens))),
    .tx (.act (.hook account (.postCheck (encodeHookData (c.minBalance + spend.1) spend.2 0))))]

theorem balanceOf_floorTokens (w : World) (account : Address) (c : Config) :
    ({ w with tokens := floorTokens account c w.tokens } : World).balanceOf c.asset account =
      c.minBalance := by
  refine BitVec.eq_of_toNat_eq ?_
  rw [World.toNat_balanceOf, World.balance]
  dsimp only [floorTokens]
  rw [Function.update_self]
  exact if_pos rfl

/-- Two actions that succeed, each a transaction of its own. -/
theorem run_acts {a b : Action} {w₁ w₂ : World} {events events' : List Event}
    (first : w.act a = .ok (w₁, events)) (second : w₁.act b = .ok (w₂, events')) :
    run [.tx (.act a), .tx (.act b)] w = (w₂, [.act a events, .act b events']) := by
  simp [run, Transaction.run, Transaction.Step.run, Transaction.Call.run, system, first, second]

theorem forge_spends {spend : Spend} {next : Window} (installed : c.installed = true)
    (config : w.hook.config account = c) (something : spend.1 ≠ 0)
    (fits : c.minBalance.toNat + spend.1.toNat < 2 ^ 256)
    (applied : applySpend (w.hook.window account) c.limits spend.1 spend.2 = .ok next) :
    (∀ e ∈ (run (forge account c spend) w).2, isUninstall account e = false) ∧
      (run (forge account c spend) w).1.hook.config account = c ∧
      (run (forge account c spend) w).1.hook.window account = next := by
  have balance := balanceOf_floorTokens w account c
  have difference : c.minBalance + spend.1 - c.minBalance = spend.1 := by bv_omega
  have fell : c.minBalance < c.minBalance + spend.1 := by bv_omega
  have checked : AgentPolicyHook.postCheck w.hook
      ({ w with tokens := floorTokens account c w.tokens } : World).balanceOf account
      (encodeHookData (c.minBalance + spend.1) spend.2 0) =
        .ok ({ w.hook with window := Function.update w.hook.window account next },
          [.spendRecorded account 0 spend.1 next.spent spend.2]) := by
    refine postCheck_eq_ok_iff.mpr ⟨by rw [config, installed], _, _, _,
      decodeHookData_encodeHookData _ _ _, ?_, .inr ⟨?_, next, ?_, rfl, ?_⟩⟩
    · rw [config, balance]
      exact BitVec.le_refl _
    · rw [config, balance]
      exact fell
    · rw [config, balance, difference]
      exact applied
    · rw [config, balance, difference]
  have charges : World.act (.hook account (.postCheck (encodeHookData (c.minBalance + spend.1)
      spend.2 0))) { w with tokens := floorTokens account c w.tokens } =
        .ok (⟨{ w.hook with window := Function.update w.hook.window account next },
          floorTokens account c w.tokens, w.timestamp⟩,
          [.spendRecorded account 0 spend.1 next.spent spend.2]) := by
    rw [World.act, World.callHook, checked]
    rfl
  rw [forge, run_acts rfl charges]
  refine ⟨?_, config, Function.update_self _ _ _⟩
  simp [isUninstall]

/-- What the harness reaches by calls that spend, the hook reaches. -/
theorem hook_reaches (installed : c.installed = true) (config : w.hook.config account = c)
    (fresh : w.hook.window account = .zero)
    (room : c.minBalance.toNat + c.maxTransaction.toNat < 2 ^ 256) {calls : List Spend}
    (spends : Spends calls) :
    ∃ steps, (∀ e ∈ (run steps w).2, isUninstall account e = false) ∧
      (run steps w).1.hook.config account = c ∧
      (run steps w).1.hook.window account = (after step (ofConfig c) calls).window := by
  induction calls using List.reverseRecOn with
  | nil => exact ⟨[], by simp [run, Transaction.run], config, fresh⟩
  | append_singleton calls spend ih =>
      obtain ⟨earlier, last⟩ := List.forall_mem_append.mp spends
      obtain ⟨steps, stays, config', window⟩ := ih earlier
      have limits : (after step (ofConfig c) calls).limits = c.limits := limits_after _ calls
      rw [after_concat, attempt_step, ← window, limits]
      cases applied : applySpend ((run steps w).1.hook.window account) c.limits spend.1 spend.2 with
      | error e => exact ⟨steps, stays, config', window⟩
      | ok next =>
          have small : spend.1.toNat ≤ c.maxTransaction.toNat :=
            BitVec.le_def.mp (applySpend_eq_ok_iff.mp applied).2.1
          obtain ⟨still, config'', charged⟩ := forge_spends installed config'
            (last spend List.mem_cons_self) (by omega) applied
          refine ⟨steps ++ forge account c spend, ?_, ?_, ?_⟩
          · rw [run, Transaction.run_append]
            exact List.forall_mem_append.mpr ⟨stays, still⟩
          · rw [run, Transaction.run_append]
            exact config''
          · rw [run, Transaction.run_append]
            exact charged

theorem eq_ofConfig {spec : Spec} (made : create c.maxTransaction c.dailyLimit = .ok spec) :
    spec = ofConfig c := by
  unfold create at made
  split_ifs at made
  exact (Except.ok.inj made).symm

/-- A harness with the limits of an account fails no assertion, and the windows of an
account that stays installed are those the harness reaches by calls that spend. -/
theorem harness_covers_hook {spec : Spec}
    (made : create c.maxTransaction c.dailyLimit = .ok spec) (installed : c.installed = true)
    (config : w.hook.config account = c) (fresh : w.hook.window account = .zero)
    (room : c.minBalance.toNat + c.maxTransaction.toNat < 2 ^ 256) :
    (∀ calls spend, step (after step spec calls) spend ≠ .error .assertion) ∧
      ∀ window : Window,
        (∃ steps, (∀ e ∈ (run steps w).2, isUninstall account e = false) ∧
            (run steps w).1.hook.window account = window) ↔
          ∃ calls, Spends calls ∧ (after step spec calls).window = window := by
  obtain rfl := eq_ofConfig made
  refine ⟨fun calls spend => step_ne_error _ spend _, fun window => ?_⟩
  constructor
  · rintro ⟨steps, stays, rfl⟩
    have start : Reached account c w := ⟨config, [], nofun, fresh.symm⟩
    exact ((reached_keeps installed).run_state steps start stays).window
  · rintro ⟨calls, spends, rfl⟩
    obtain ⟨steps, stays, -, reached⟩ := hook_reaches installed config fresh room spends
    exact ⟨steps, stays, reached⟩

theorem harness_covers_hook_sampleWorld : ∃ steps,
    (∀ e ∈ (run steps sampleWorld).2, isUninstall sampleAccount e = false) ∧
      (run steps sampleWorld).1.hook.window sampleAccount = ⟨7, 150⟩ := by
  have made : create sampleConfig.maxTransaction sampleConfig.dailyLimit =
      .ok ⟨0, 0, 100, 500⟩ := by decide
  have config : sampleWorld.hook.config sampleAccount = sampleConfig := by decide +kernel
  have covers := harness_covers_hook made rfl config (by decide +kernel) (by decide)
  refine (covers.2 ⟨7, 150⟩).mpr ⟨[(100, 7), (101, 7), (50, 7)], ?_, by decide +kernel⟩
  simp [Spends]

end Hook

/-! ## The harness that fails -/

namespace Broken

structure Spec where
  window : Window
  maxTransaction : Uint256
  dailyLimit : Uint256
  deriving DecidableEq, Repr

def create (maxTx daily : Uint256) : Except Fault Spec :=
  if ¬ (maxTx > 0 ∧ daily ≥ maxTx) then .error .required else .ok ⟨.zero, maxTx, daily⟩

/-- `a + b`, which panics on overflow. -/
def add (a b : Uint256) : Except Fault Uint256 := (checkedAdd a b).mapError fun _ => .arithmetic

def step (s : Spec) (spend : Spend) : Except Fault Spec :=
  if spend.2 < s.window.day then .error .required
  else if spend.1 > s.maxTransaction then .error .refused
  else do
    -- the amounts of earlier days are never taken off
    let wouldBe ← add s.window.spent spend.1
    let bound ← add s.dailyLimit 1
    if wouldBe > bound then .error .refused
    else do
      let s' := { s with window := ⟨spend.2, wouldBe⟩ }
      assert (s'.window.spent ≤ s'.dailyLimit)
      .ok s'

variable {s s' : Spec} {spend : Spend} {maxTx daily : Uint256}

theorem add_eq {a b : Uint256} :
    add a b = if a.toNat + b.toNat < 2 ^ 256 then .ok (a + b) else .error .arithmetic := by
  unfold add checkedAdd
  split_ifs <;> rfl

/-- What the call asks before its assertion. -/
def Goes (s : Spec) (spend : Spend) : Prop :=
  s.window.day ≤ spend.2 ∧ spend.1.toNat ≤ s.maxTransaction.toNat ∧
    s.window.spent.toNat + spend.1.toNat < 2 ^ 256 ∧ s.dailyLimit.toNat + 1 < 2 ^ 256 ∧
      s.window.spent.toNat + spend.1.toNat ≤ s.dailyLimit.toNat + 1

instance : Decidable (Goes s spend) := inferInstanceAs (Decidable (_ ∧ _))

theorem toNat_limit_add_one (room : s.dailyLimit.toNat + 1 < 2 ^ 256) :
    (s.dailyLimit + 1).toNat = s.dailyLimit.toNat + 1 :=
  BitVec.toNat_add_of_lt room

theorem step_of_goes (goes : Goes s spend) :
    step s spend =
      if s.window.spent.toNat + spend.1.toNat ≤ s.dailyLimit.toNat then
        .ok { s with window := ⟨spend.2, s.window.spent + spend.1⟩ }
      else .error .assertion := by
  obtain ⟨forward, small, fits, room, within⟩ := goes
  have total : (s.window.spent + spend.1).toNat = s.window.spent.toNat + spend.1.toNat :=
    BitVec.toNat_add_of_lt fits
  have below : ¬ s.window.spent + spend.1 > s.dailyLimit + 1 := by
    rw [gt_iff_lt, BitVec.lt_def, total, toNat_limit_add_one room]
    omega
  have one : (1 : Uint256).toNat = 1 := rfl
  rw [step, if_neg (BitVec.not_lt.mpr forward), if_neg (by rw [gt_iff_lt, BitVec.lt_def]; omega),
    add_eq, if_pos fits, add_eq, one, if_pos room]
  simp only [bind, Except.bind, if_neg below, assert, BitVec.le_def, total]
  split_ifs <;> rfl

theorem step_of_not_goes (stops : ¬ Goes s spend) :
    ∃ fault, fault ≠ .assertion ∧ step s spend = .error fault := by
  have one : (1 : Uint256).toNat = 1 := rfl
  have differs : Fault.required ≠ .assertion ∧ Fault.refused ≠ .assertion ∧
      Fault.arithmetic ≠ .assertion := by decide
  unfold step
  rw [add_eq, add_eq, one]
  split_ifs with backwards large fits room room
  · exact ⟨.required, differs.1, rfl⟩
  · exact ⟨.refused, differs.2.1, rfl⟩
  · have above : s.window.spent + spend.1 > s.dailyLimit + 1 := by
      by_contra within
      rw [gt_iff_lt, BitVec.lt_def, toNat_limit_add_one room, BitVec.toNat_add_of_lt fits] at within
      rw [gt_iff_lt, BitVec.lt_def] at large
      exact stops ⟨BitVec.not_lt.mp backwards, by omega, fits, room, by omega⟩
    refine ⟨.refused, differs.2.1, ?_⟩
    simp only [bind, Except.bind, if_pos above]
  · exact ⟨.arithmetic, differs.2.2, rfl⟩
  · exact ⟨.arithmetic, differs.2.2, rfl⟩
  · exact ⟨.arithmetic, differs.2.2, rfl⟩

theorem attempt_eq : attempt step s spend =
    if Goes s spend ∧ s.window.spent.toNat + spend.1.toNat ≤ s.dailyLimit.toNat then
      { s with window := ⟨spend.2, s.window.spent + spend.1⟩ }
    else s := by
  rw [attempt]
  by_cases goes : Goes s spend
  · rw [step_of_goes goes]
    split_ifs with within both
    · rfl
    · exact absurd ⟨goes, within⟩ both
    · exact absurd (by assumption : Goes s spend ∧ _).2 within
    · rfl
  · obtain ⟨fault, -, stopped⟩ := step_of_not_goes goes
    rw [stopped, if_neg fun both => goes both.1]

/-- The assertion fails where the sum is the limit and one. -/
theorem fails_iff : step s spend = .error .assertion ↔
    Goes s spend ∧ s.window.spent.toNat + spend.1.toNat = s.dailyLimit.toNat + 1 := by
  by_cases goes : Goes s spend
  · rw [step_of_goes goes]
    have within := goes.2.2.2.2
    split_ifs with fine
    · refine ⟨nofun, fun both => ?_⟩
      omega
    · exact ⟨fun _ => ⟨goes, by omega⟩, fun _ => rfl⟩
  · obtain ⟨fault, other, stopped⟩ := step_of_not_goes goes
    rw [stopped]
    exact ⟨fun same => absurd (Except.error.inj same) other, fun both => absurd both.1 goes⟩

/-! ### How long it takes -/

/-- What stands after `n` calls: no more than the limit, and no more than `n` times the
largest amount. -/
structure Bounded (maxTx daily : Uint256) (n : Nat) (s : Spec) : Prop where
  maxTransaction : s.maxTransaction = maxTx
  dailyLimit : s.dailyLimit = daily
  limit : s.window.spent.toNat ≤ daily.toNat
  calls : s.window.spent.toNat ≤ n * maxTx.toNat

theorem bounded_after (made : create maxTx daily = .ok s) (calls : List Spend) :
    Bounded maxTx daily calls.length (after step s calls) := by
  unfold create at made
  split_ifs at made
  obtain rfl := Except.ok.inj made
  induction calls using List.reverseRecOn with
  | nil => exact ⟨rfl, rfl, Nat.zero_le _, Nat.zero_le _⟩
  | append_singleton calls spend ih =>
      obtain ⟨max, limit, below, slow⟩ := ih
      have more : (calls ++ [spend]).length * maxTx.toNat =
          calls.length * maxTx.toNat + maxTx.toNat := by
        rw [List.length_append, List.length_singleton, Nat.add_mul, Nat.one_mul]
      rw [after_concat, attempt_eq]
      generalize after step ⟨.zero, maxTx, daily⟩ calls = t at max limit below slow
      split_ifs with accepted
      · obtain ⟨⟨-, small, fits, -, -⟩, within⟩ := accepted
        rw [max] at small
        rw [limit] at within
        have total : (t.window.spent + spend.1).toNat = t.window.spent.toNat + spend.1.toNat :=
          BitVec.toNat_add_of_lt fits
        exact ⟨max, limit, total ▸ within, by rw [more]; dsimp only; omega⟩
      · exact ⟨max, limit, below, by omega⟩

/-- An amount of at most so many units. -/
theorem toNat_amount {n : Nat} {bound : Uint256} (small : n ≤ bound.toNat) :
    (BitVec.ofNat 256 n).toNat = n :=
  (BitVec.toNat_ofNat n 256).trans (Nat.mod_eq_of_lt (by omega))

/-- Calls on the first day that spend as much as they may, and all return. -/
theorem fastest (made : create maxTx daily = .ok s) (room : daily.toNat + 1 < 2 ^ 256) (n : Nat) :
    ∃ (calls : List Spend) (t : Spec), calls.length = n ∧ calls.foldlM step s = .ok t ∧
      t.window.day = 0 ∧ t.window.spent.toNat = min daily.toNat (n * maxTx.toNat) := by
  induction n with
  | zero =>
      unfold create at made
      split_ifs at made
      obtain rfl := Except.ok.inj made
      exact ⟨[], _, rfl, rfl, rfl, by simp [Window.zero]⟩
  | succ n ih =>
      obtain ⟨calls, t, length, returns, day, spent⟩ := ih
      obtain ⟨max, limit, below, -⟩ := bounded_after made calls
      rw [after_of_foldlM returns] at max limit below
      have more : (n + 1) * maxTx.toNat = n * maxTx.toNat + maxTx.toNat := by
        rw [Nat.add_mul, Nat.one_mul]
      have amount : (BitVec.ofNat 256 (min maxTx.toNat (daily.toNat - t.window.spent.toNat))).toNat =
          min maxTx.toNat (daily.toNat - t.window.spent.toNat) := toNat_amount (min_le_left _ _)
      generalize BitVec.ofNat 256 (min maxTx.toNat (daily.toNat - t.window.spent.toNat)) = next
        at amount
      have within : t.window.spent.toNat + next.toNat ≤ daily.toNat := by omega
      have goes : Goes t (next, 0) := by
        refine ⟨by rw [day]; exact BitVec.le_refl _, ?_, ?_, ?_, ?_⟩
        · rw [max, amount]
          exact min_le_left _ _
        · dsimp only
          omega
        · rw [limit]
          exact room
        · rw [limit]
          exact within.trans (Nat.le_succ _)
      have total : (t.window.spent + next).toNat = t.window.spent.toNat + next.toNat :=
        BitVec.toNat_add_of_lt (by omega)
      refine ⟨calls ++ [(next, 0)], { t with window := ⟨0, t.window.spent + next⟩ },
        by rw [List.length_append, length]; rfl, ?_, rfl, ?_⟩
      · rw [List.foldlM_append, returns]
        change [(next, 0)].foldlM step t = _
        rw [List.foldlM_cons, step_of_goes goes, if_pos (limit.symm ▸ within)]
        rfl
      · dsimp only
        omega

theorem bound_of_fails (made : create maxTx daily = .ok s) {calls : List Spend}
    (fails : step (after step s calls) spend = .error .assertion) :
    daily.toNat + 1 < 2 ^ 256 ∧ daily.toNat + 1 ≤ (calls.length + 1) * maxTx.toNat := by
  obtain ⟨max, limit, -, slow⟩ := bounded_after made calls
  obtain ⟨⟨-, small, -, room, -⟩, exceeds⟩ := fails_iff.mp fails
  rw [max] at small
  rw [limit] at room exceeds
  rw [Nat.add_mul, Nat.one_mul]
  exact ⟨room, by omega⟩

theorem fails_of_enough (made : create maxTx daily = .ok s) {n : Nat}
    (room : daily.toNat + 1 < 2 ^ 256) (enough : daily.toNat + 1 ≤ n * maxTx.toNat) :
    ∃ (calls : List Spend) (spend : Spend) (t : Spec), calls.length + 1 = n ∧
      calls.foldlM step s = .ok t ∧ step t spend = .error .assertion := by
  obtain ⟨m, rfl⟩ : ∃ m, n = m + 1 := by
    refine Nat.exists_eq_succ_of_ne_zero fun none => ?_
    rw [none, Nat.zero_mul] at enough
    omega
  obtain ⟨calls, t, length, returns, day, spent⟩ := fastest made room m
  obtain ⟨max, limit, below, -⟩ := bounded_after made calls
  rw [after_of_foldlM returns] at max limit below
  rw [Nat.add_mul, Nat.one_mul] at enough
  have positive : 0 < maxTx.toNat := by
    unfold create at made
    split_ifs at made with sound
    exact BitVec.lt_def.mp sound.1
  have small : daily.toNat + 1 - t.window.spent.toNat ≤ maxTx.toNat := by omega
  have amount := toNat_amount small
  refine ⟨calls, (BitVec.ofNat 256 (daily.toNat + 1 - t.window.spent.toNat), 0), t,
    by rw [length], returns, fails_iff.mpr ⟨⟨?_, ?_, ?_, ?_, ?_⟩, ?_⟩⟩
  · rw [day]
    exact BitVec.le_refl _
  · rw [max, amount]
    exact small
  · rw [amount]
    omega
  · rw [limit]
    exact room
  · rw [limit, amount]
    omega
  · rw [limit, amount]
    omega

/-- The assertion fails in the last of `n` calls exactly where one more than the limit is a
word, and no more than `n` times the largest amount; and then it fails after calls that all
return. -/
theorem violated_iff (made : create maxTx daily = .ok s) (n : Nat) :
    ((∃ (calls : List Spend) (spend : Spend), calls.length + 1 = n ∧
        step (after step s calls) spend = .error .assertion) ↔
      daily.toNat + 1 < 2 ^ 256 ∧ daily.toNat + 1 ≤ n * maxTx.toNat) ∧
    ((∃ (calls : List Spend) (spend : Spend) (t : Spec), calls.length + 1 = n ∧
        calls.foldlM step s = .ok t ∧ step t spend = .error .assertion) ↔
      daily.toNat + 1 < 2 ^ 256 ∧ daily.toNat + 1 ≤ n * maxTx.toNat) := by
  have bounds (fails : ∃ (calls : List Spend) (spend : Spend), calls.length + 1 = n ∧
      step (after step s calls) spend = .error .assertion) :
      daily.toNat + 1 < 2 ^ 256 ∧ daily.toNat + 1 ≤ n * maxTx.toNat := by
    obtain ⟨calls, spend, rfl, fails⟩ := fails
    exact bound_of_fails made fails
  have passed (fails : ∃ (calls : List Spend) (spend : Spend) (t : Spec), calls.length + 1 = n ∧
      calls.foldlM step s = .ok t ∧ step t spend = .error .assertion) :
      ∃ (calls : List Spend) (spend : Spend), calls.length + 1 = n ∧
        step (after step s calls) spend = .error .assertion := by
    obtain ⟨calls, spend, t, length, returns, fails⟩ := fails
    exact ⟨calls, spend, length, (after_of_foldlM returns).symm ▸ fails⟩
  have enough (bound : daily.toNat + 1 < 2 ^ 256 ∧ daily.toNat + 1 ≤ n * maxTx.toNat) :=
    fails_of_enough made bound.1 bound.2
  exact ⟨⟨bounds, fun bound => passed (enough bound)⟩, fun fails => bounds (passed fails), enough⟩

/-- With 5 a call and 12 a day, the third call is the first that can fail. -/
theorem violated_iff_three : (∃ (calls : List Spend) (spend : Spend) (t : Spec),
      calls.length + 1 = 3 ∧ calls.foldlM step ⟨.zero, 5, 12⟩ = .ok t ∧
        step t spend = .error .assertion) ∧
    ¬ ∃ calls spend, calls.length + 1 = 2 ∧
      step (after step ⟨.zero, 5, 12⟩ calls) spend = .error .assertion := by
  have made : create 5 12 = .ok ⟨.zero, 5, 12⟩ := by decide
  refine ⟨(violated_iff made 3).2.mpr (by decide), fun fails => ?_⟩
  exact absurd ((violated_iff made 2).1.mp fails) (by decide)

end Broken

end PolicySpec

end AgentProof
