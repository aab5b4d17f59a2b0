import AgentProof.Contracts.Limits

/-!
# What is left of the day

`remainingToday` beside `applySpend`.  The view saturates and looks at no
ceiling and no clock; the spend is guarded.  They say the same of every window
whose total is within the limit and whose day has come, and these are the only
windows of an account that acts through installs, uninstalls and executions.
-/

namespace AgentProof

open AgentPolicyHook PolicyLib

/-! ## One window -/

namespace PolicyLib

variable {w next : Window} {l : Limits} {amount : Uint256} {today : Uint64}

theorem Window.base_le (w : Window) (today : Uint64) : (w.base today).toNat ≤ w.spent.toNat := by
  unfold Window.base
  split_ifs
  · exact le_rfl
  · exact Nat.zero_le _

@[simp] theorem Window.base_mk_self (today : Uint64) (spent : Uint256) :
    Window.base ⟨today, spent⟩ today = spent := if_pos rfl

/-- As natural numbers the view is a truncated difference. -/
theorem toNat_remainingToday (w : Window) (l : Limits) (today : Uint64) :
    (remainingToday w l today).toNat = l.dailyLimit.toNat - (w.base today).toNat := by
  simp only [remainingToday, ge_iff_le, BitVec.le_def]
  split_ifs with spent
  · exact (Nat.sub_eq_zero_of_le spent).symm
  · rw [BitVec.toNat_sub_of_le (BitVec.le_def.mpr (by omega))]

/-- The total is within the limit, and the window is not of a later day. -/
structure Window.Sound (w : Window) (l : Limits) (today : Uint64) : Prop where
  within : w.spent.toNat ≤ l.dailyLimit.toNat
  forward : w.day ≤ today

theorem Window.Sound.applySpend_iff (sound : w.Sound l today) :
    (∃ next, applySpend w l amount today = .ok next) ↔
      amount ≤ l.maxTransaction ∧ amount ≤ remainingToday w l today := by
  have base := (w.base_le today).trans sound.within
  rw [BitVec.le_def (y := remainingToday w l today), toNat_remainingToday]
  constructor
  · rintro ⟨next, applied⟩
    obtain ⟨-, ceiling, within, -⟩ := applySpend_eq_ok_iff.mp applied
    exact ⟨ceiling, by omega⟩
  · rintro ⟨ceiling, left⟩
    exact ⟨_, applySpend_eq_ok_iff.mpr ⟨sound.forward, ceiling, by omega, rfl⟩⟩

/-- A spend is taken off what is left. -/
theorem remainingToday_of_applySpend (applied : applySpend w l amount today = .ok next) :
    (remainingToday next l today).toNat + amount.toNat = (remainingToday w l today).toNat := by
  obtain ⟨-, -, within, rfl⟩ := applySpend_eq_ok_iff.mp applied
  have limit := l.dailyLimit.isLt
  rw [toNat_remainingToday, toNat_remainingToday, Window.base_mk_self, BitVec.toNat_add,
    Nat.mod_eq_of_lt (by omega)]
  omega

end PolicyLib

/-! ## Every reachable window -/

/-- In the log entry the account calls `postCheck` outside an execution. -/
def isPostCheck (account : Address) : Entry → Bool
  | .act (.hook sender (.postCheck _)) _ => sender = account
  | _ => false

/-- The stored window of the account under the stored policy. -/
structure WithinLimit (account : Address) (w : World) : Prop where
  within : (w.hook.window account).spent.toNat ≤ (w.hook.config account).dailyLimit.toNat
  forward : (w.hook.window account).day.toNat ≤ w.timestamp / 86400
  /-- A new install finds no total of an earlier one. -/
  cleared : (w.hook.config account).installed = false → w.hook.window account = .zero

namespace WithinLimit

variable {account : Address} {w w' : World}

theorem of_sameFor (kept : WithinLimit account w) (same : SameFor account w.hook w'.hook)
    (clock : w.timestamp ≤ w'.timestamp) : WithinLimit account w' where
  within := by
    rw [same.window, same.config]
    exact kept.within
  forward := by
    rw [same.window]
    exact kept.forward.trans (Nat.div_le_div_right clock)
  cleared := by
    rw [same.window, same.config]
    exact kept.cleared

/-- The account's own calls, but for a `postCheck` of its own making. -/
theorem callHook (kept : WithinLimit account w) {call : HookCall} {s' : Storage}
    {events : List Event} (called : w.callHook account call = .ok (s', events))
    (genuine : isPostCheck account (.act (.hook account call) events) = false) :
    WithinLimit account { w with hook := s' } := by
  cases call with
  | onInstall data =>
      obtain ⟨fresh, c, targets, -, rfl, -⟩ := onInstall_eq_ok_iff.mp called
      have empty := kept.cleared fresh
      refine ⟨?_, kept.forward, fun absent => ?_⟩
      · simp only [empty]
        exact Nat.zero_le _
      · simp at absent
  | onUninstall =>
      simp only [World.callHook, onUninstall, Except.ok.injEq, Prod.mk.injEq] at called
      obtain ⟨rfl, -⟩ := called
      refine ⟨?_, ?_, fun _ => ?_⟩
      · simp [Window.zero]
      · simp [Window.zero]
      · simp
  | preCheck msgData =>
      simp only [World.callHook, bind_eq_ok_iff, Except.ok.injEq, Prod.mk.injEq] at called
      obtain ⟨-, -, rfl, -⟩ := called
      exact kept
  | postCheck hookData => simp [isPostCheck] at genuine

/-- The end of an execution charges the day it began on, which is still the current one. -/
theorem execution (kept : WithinLimit account w) {pre : World} {target : Address}
    {balanceBefore : Uint256} {s' : Storage} {events : List Event}
    (clock : w.timestamp = pre.timestamp)
    (checked : AgentPolicyHook.postCheck w.hook w.balanceOf account
      (encodeHookData balanceBefore (dayOf pre.timestamp) target) = .ok (s', events)) :
    WithinLimit account { w with hook := s' } := by
  obtain ⟨installed, _, today, _, decoded, -, outcome⟩ := postCheck_eq_ok_iff.mp checked
  rw [decodeHookData_encodeHookData, Except.ok.injEq, Prod.mk.injEq, Prod.mk.injEq] at decoded
  obtain ⟨rfl, rfl, rfl⟩ := decoded
  rcases outcome with ⟨-, rfl, -⟩ | ⟨-, next, applied, rfl, -⟩
  · exact kept
  · obtain ⟨-, -, within, rfl⟩ := applySpend_eq_ok_iff.mp applied
    change _ ≤ (w.hook.config account).dailyLimit.toNat at within
    have limit := (w.hook.config account).dailyLimit.isLt
    refine ⟨?_, ?_, fun absent => ?_⟩
    · simp only [Function.update_self]
      rw [BitVec.toNat_add, Nat.mod_eq_of_lt (by omega)]
      exact within
    · simp only [Function.update_self, dayOf, BitVec.toNat_ofNat]
      rw [clock]
      exact Nat.mod_le _ _
    · rw [installed] at absent
      cases absent

end WithinLimit

/-- Every step keeps the window sound, unless the account calls `postCheck` itself. -/
theorem withinLimit_keeps (account : Address) :
    Transaction.Keeps system (fun e => isPostCheck account e = false)
      (fun w _ => WithinLimit account w) where
  act {w log action w' events} kept acted genuine := by
    cases action with
    | token effect =>
        obtain ⟨tokens, -, rfl, -⟩ := World.act_token_eq_ok acted
        exact kept.of_sameFor .rfl le_rfl
    | hook sender call =>
        obtain ⟨s', called, rfl⟩ := World.act_hook_eq_ok acted
        rcases eq_or_ne account sender with rfl | other
        · exact kept.callHook called genuine
        · exact kept.of_sameFor (callHook_frame called other) le_rfl
  bracket {w log b hookData w₁ inner w' nested events} _ entered kept clock left _ := by
    obtain ⟨s', checked, rfl⟩ := World.postCheck_eq_ok left
    by_cases own : b.account = account
    · subst own
      obtain ⟨-, target, _, -, -, -, handed⟩ := preCheck_eq_ok_iff.mp entered
      rw [handed] at checked
      exact kept.execution clock checked
    · obtain ⟨config, allowed, window⟩ := postCheck_frame checked
      exact kept.of_sameFor ⟨congrFun config _, window _ (Ne.symm own), congrFun allowed _⟩ le_rfl
  tick {w log seconds} kept := kept.of_sameFor .rfl (Nat.le_add_right _ _)

theorem withinLimit_deployed (account : Address) (tokens : Address → Erc20) (timestamp : Nat) :
    WithinLimit account (.deployed tokens timestamp) where
  within := Nat.zero_le _
  forward := Nat.zero_le _
  cleared _ := rfl

/-- On the day of any timestamp from the last one on, as long as days fit their 64-bit field. -/
theorem WithinLimit.sound {account : Address} {w : World} {later : Nat}
    (kept : WithinLimit account w) (forward : w.timestamp ≤ later) (fits : later / 86400 < 2 ^ 64) :
    (w.hook.window account).Sound (w.hook.config account).limits (dayOf later) where
  within := kept.within
  forward := by
    rw [BitVec.le_def, dayOf, BitVec.toNat_ofNat, Nat.mod_eq_of_lt fits]
    exact kept.forward.trans (Nat.div_le_div_right forward)

/-- After any run of installs, uninstalls and executions, and at any timestamp from then on (a
block's is a 64-bit number, so its day is one), a spend is applied to the stored window exactly when
it is within the ceiling and within `remainingToday`, and takes exactly its amount off it. -/
theorem remainingToday_truthful {account : Address} {tokens : Address → Erc20}
    {timestamp later : Nat} {steps : List Step}
    (genuine : ∀ e ∈ (run steps (.deployed tokens timestamp)).2, isPostCheck account e = false)
    (forward : (run steps (.deployed tokens timestamp)).1.timestamp ≤ later)
    (fits : later / 86400 < 2 ^ 64) :
    let s := (run steps (.deployed tokens timestamp)).1.hook
    let c := s.config account
    ∀ amount,
      ((∃ next, applySpend (s.window account) c.limits amount (dayOf later) = .ok next) ↔
        amount ≤ c.maxTransaction ∧ amount ≤ AgentPolicyHook.remainingToday s account later) ∧
      ∀ next, applySpend (s.window account) c.limits amount (dayOf later) = .ok next →
        let s' := { s with window := Function.update s.window account next }
        (AgentPolicyHook.remainingToday s' account later).toNat + amount.toNat =
          (AgentPolicyHook.remainingToday s account later).toNat := by
  intro s c amount
  have kept : WithinLimit account (run steps (.deployed tokens timestamp)).1 :=
    (withinLimit_keeps account).run_state steps (withinLimit_deployed account tokens timestamp)
      genuine
  refine ⟨(kept.sound forward fits).applySpend_iff, fun next applied => ?_⟩
  have taken := remainingToday_of_applySpend applied
  simp only [AgentPolicyHook.remainingToday, Function.update_self]
  exact taken

/-- The sample account installs, spends on two days, uninstalls and installs again. -/
def sampleReinstall : List Step :=
  hookCalls [(sampleAccount, .onInstall (encodeInstallData sampleConfig [sampleAsset, 0x22]))] ++
    sampleSpending ++
    hookCalls [(sampleAccount, .onUninstall),
      (sampleAccount, .onInstall (encodeInstallData { sampleConfig with dailyLimit := 120 }
        [sampleAsset, 0x22]))] ++
    sampleSpending

/-- After a payment of 30 under the new limit of 120 there are 90 left, so that 90 can be spent. -/
theorem remainingToday_truthful_sampleReinstall :
    let s := (run sampleReinstall (.deployed sampleTokens 0)).1.hook
    ∃ next, applySpend (s.window sampleAccount) (s.config sampleAccount).limits 90 (dayOf 172800) =
        .ok next ∧
      (AgentPolicyHook.remainingToday
        { s with window := Function.update s.window sampleAccount next } sampleAccount
          172800).toNat + 90 =
        (AgentPolicyHook.remainingToday s sampleAccount 172800).toNat := by
  obtain ⟨genuine, forward, left⟩ :
      let ended := run sampleReinstall (.deployed sampleTokens 0)
      (∀ e ∈ ended.2, isPostCheck sampleAccount e = false) ∧ ended.1.timestamp ≤ 172800 ∧
        (90 ≤ (ended.1.hook.config sampleAccount).maxTransaction ∧
          90 ≤ AgentPolicyHook.remainingToday ended.1.hook sampleAccount 172800) := by
    decide +kernel
  have truthful := @remainingToday_truthful sampleAccount sampleTokens 0 172800 sampleReinstall
    genuine forward (by decide) 90
  obtain ⟨next, applied⟩ := truthful.1.mpr left
  exact ⟨next, applied, truthful.2 next applied⟩

end AgentProof
