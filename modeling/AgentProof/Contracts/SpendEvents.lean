import AgentProof.Contracts.World

/-!
# The events of an account's spending

What the events of a hook say about an account that acts through executions
only, from the hook's deployment on.  Each recorded day total is the sum of the
account's recorded amounts of that day so far, the stored window is the last
day's total, and nothing is recorded before the account has installed.
-/

namespace AgentProof

open AgentPolicyHook PolicyLib

def eventsOf (log : List Entry) : List Event :=
  log.flatMap fun
    | .act _ events => events
    | .bracket _ _ _ _ events => events

/-- The amount an event records for the account on the day. -/
def amountOn (account : Address) (day : Uint64) : Event → Option Nat
  | .spendRecorded sender _ amount _ today =>
      if sender = account ∧ today = day then some amount.toNat else none
  | _ => none

/-- The amounts recorded for the account on the day, in order. -/
def amountsOn (account : Address) (day : Uint64) (es : List Event) : List Nat :=
  es.filterMap (amountOn account day)

/-- An event records a spend of the account. -/
def isSpendOf (account : Address) : Event → Bool
  | .spendRecorded sender _ _ _ _ => sender = account
  | _ => false

def isInstallOf (account : Address) : Event → Bool
  | .policyInstalled sender _ _ => sender = account
  | _ => false

/-- In the log entry the account gets past its executions: it uninstalls, or
calls `postCheck` directly. -/
def bypasses (account : Address) : Entry → Bool
  | .act (.hook sender .onUninstall) _ => sender = account
  | .act (.hook sender (.postCheck _)) _ => sender = account
  | _ => false

/-- Every spend of the account states the sum of its day and follows an install. -/
def Recorded (account : Address) (es : List Event) : Prop :=
  ∀ i target amount total day, es[i]? = some (.spendRecorded account target amount total day) →
    total.toNat = (amountsOn account day (es.take i)).sum + amount.toNat ∧
      (es.take i).any (isInstallOf account) = true

section Events

variable {account : Address} {es more : List Event} {day : Uint64}

@[simp] theorem eventsOf_append (log log' : List Entry) :
    eventsOf (log ++ log') = eventsOf log ++ eventsOf log' := List.flatMap_append

@[simp] theorem eventsOf_act (action : Action) (events : List Event) :
    eventsOf [.act action events] = events := by simp [eventsOf]

@[simp] theorem eventsOf_bracket (b : Execution) (pre post : World) (nested : Bool)
    (events : List Event) : eventsOf [.bracket b pre post nested events] = events := by
  simp [eventsOf]

@[simp] theorem amountsOn_append :
    amountsOn account day (es ++ more) = amountsOn account day es ++ amountsOn account day more :=
  List.filterMap_append

@[simp] theorem amountsOn_spend (target : Address) (amount total : Uint256) (today : Uint64) :
    amountsOn account day [.spendRecorded account target amount total today] =
      if today = day then [amount.toNat] else [] := by
  by_cases same : today = day <;> simp [amountsOn, amountOn, same]

/-- Events that are no spends of the account add nothing to any day. -/
theorem amountsOn_eq_nil (silent : ∀ e ∈ more, isSpendOf account e = false) :
    amountsOn account day more = [] := by
  rw [amountsOn, List.filterMap_eq_nil_iff]
  intro e mem
  have other := silent e mem
  cases e with
  | spendRecorded sender target amount total today =>
      have stranger : sender ≠ account := by simpa [isSpendOf] using other
      simp [amountOn, stranger]
  | _ => rfl

theorem Recorded.append_silent (recorded : Recorded account es)
    (silent : ∀ e ∈ more, isSpendOf account e = false) : Recorded account (es ++ more) := by
  intro i target amount total day at_i
  rcases Nat.lt_or_ge i es.length with inside | beyond
  · rw [List.getElem?_append_left inside] at at_i
    rw [List.take_append_of_le_length (by omega)]
    exact recorded i target amount total day at_i
  · rw [List.getElem?_append_right beyond] at at_i
    have spend := silent _ (List.mem_of_getElem? at_i)
    simp [isSpendOf] at spend

theorem Recorded.append_spend (recorded : Recorded account es) {target : Address}
    {amount total : Uint256} (sum : total.toNat = (amountsOn account day es).sum + amount.toNat)
    (installed : es.any (isInstallOf account) = true) :
    Recorded account (es ++ [.spendRecorded account target amount total day]) := by
  intro i target' amount' total' day' at_i
  rcases Nat.lt_or_ge i es.length with inside | beyond
  · rw [List.getElem?_append_left inside] at at_i
    rw [List.take_append_of_le_length (by omega)]
    exact recorded i target' amount' total' day' at_i
  · rw [List.getElem?_append_right beyond, List.getElem?_singleton] at at_i
    split at at_i
    · next last =>
        have whole : i = es.length := by omega
        rw [Option.some.injEq, Event.spendRecorded.injEq] at at_i
        obtain ⟨-, -, rfl, rfl, rfl⟩ := at_i
        rw [whole, List.take_left]
        exact ⟨sum, installed⟩
    · simp at at_i

/-- A prefix of a recorded list is recorded. -/
theorem Recorded.of_append (recorded : Recorded account (es ++ more)) : Recorded account es := by
  intro i target amount total day at_i
  have inside : i < es.length := (List.getElem?_eq_some_iff.mp at_i).1
  have whole := recorded i target amount total day
    (by rw [List.getElem?_append_left inside]; exact at_i)
  rwa [List.take_append_of_le_length (by omega)] at whole

/-- The last event of a recorded list. -/
theorem Recorded.last {target : Address} {amount total : Uint256}
    (recorded : Recorded account (es ++ [.spendRecorded account target amount total day])) :
    total.toNat = (amountsOn account day es).sum + amount.toNat ∧
      es.any (isInstallOf account) = true := by
  have last := recorded es.length target amount total day (by simp)
  rwa [List.take_left] at last

end Events

/-! ## The invariant -/

/-- The stored window beside the events. -/
structure Tracks (account : Address) (w : World) (es : List Event) : Prop where
  recorded : Recorded account es
  current : (amountsOn account (w.hook.window account).day es).sum =
    (w.hook.window account).spent.toNat
  later : ∀ day, (w.hook.window account).day < day → amountsOn account day es = []
  forward : (w.hook.window account).day.toNat ≤ w.timestamp / 86400
  installed : (w.hook.config account).installed = true → es.any (isInstallOf account) = true

/-- `postCheck` of one account records no spend of another. -/
theorem spends_of_postCheck {s s' : Storage} {balanceOf : Address → Address → Uint256}
    {account sender : Address} {hookData : Bytes} {events : List Event}
    (checked : AgentPolicyHook.postCheck s balanceOf sender hookData = .ok (s', events))
    (other : account ≠ sender) : ∀ e ∈ events, isSpendOf account e = false := by
  obtain ⟨-, _, _, _, -, -, ⟨-, -, rfl⟩ | ⟨-, _, -, -, rfl⟩⟩ := postCheck_eq_ok_iff.mp checked
  · simp
  · simp [isSpendOf, Ne.symm other]

section Steps

variable {account : Address} {w w' : World} {es more : List Event}

/-- A step that neither spends nor touches the account's storage. -/
theorem Tracks.append_silent (tracks : Tracks account w es)
    (silent : ∀ e ∈ more, isSpendOf account e = false)
    (window : w'.hook.window account = w.hook.window account)
    (clock : w.timestamp ≤ w'.timestamp)
    (installed : (w'.hook.config account).installed = true →
      (w.hook.config account).installed = true ∨ more.any (isInstallOf account) = true) :
    Tracks account w' (es ++ more) where
  recorded := tracks.recorded.append_silent silent
  current := by rw [window, amountsOn_append, amountsOn_eq_nil silent, List.append_nil,
    tracks.current]
  later day after := by
    rw [window] at after
    rw [amountsOn_append, amountsOn_eq_nil silent, List.append_nil, tracks.later day after]
  forward := by
    rw [window]
    exact tracks.forward.trans (Nat.div_le_div_right clock)
  installed now := by
    rw [List.any_append, Bool.or_eq_true]
    exact (installed now).imp_left tracks.installed

/-- The account's own execution records its spend in the window and the events. -/
theorem Tracks.execution (tracks : Tracks account w es) {pre : World} {b : Execution}
    {hookData : Bytes} (own : b.account = account) (entered : pre.preCheck b = .ok hookData)
    (clock : w.timestamp = pre.timestamp) (left : w.postCheck b hookData = .ok (w', more)) :
    Tracks account w' (es ++ more) := by
  subst own
  obtain ⟨hook, checked, rfl⟩ := World.postCheck_eq_ok left
  obtain ⟨-, target, -, -, -, -, handed⟩ := preCheck_eq_ok_iff.mp entered
  obtain ⟨installed, _, today, _, decoded, -, outcome⟩ := postCheck_eq_ok_iff.mp checked
  rw [handed, decodeHookData_encodeHookData, Except.ok.injEq, Prod.mk.injEq,
    Prod.mk.injEq] at decoded
  obtain ⟨rfl, rfl, rfl⟩ := decoded
  rcases outcome with ⟨-, rfl, rfl⟩ | ⟨-, next, applied, rfl, rfl⟩
  · rw [List.append_nil]
    exact tracks
  · obtain ⟨forward, -, within, rfl⟩ := applySpend_eq_ok_iff.mp applied
    have base : (amountsOn b.account (dayOf pre.timestamp) es).sum =
        ((w.hook.window b.account).base (dayOf pre.timestamp)).toNat := by
      rw [Window.base]
      split_ifs with same
      · rw [← same, tracks.current]
      · have after : (w.hook.window b.account).day < dayOf pre.timestamp := by bv_omega
        rw [tracks.later _ after]
        rfl
    generalize pre.balanceOf _ b.account - w.balanceOf _ b.account = amount at within ⊢
    have sum : ((w.hook.window b.account).base (dayOf pre.timestamp) + amount).toNat =
        (amountsOn b.account (dayOf pre.timestamp) es).sum + amount.toNat := by
      have limit := (w.hook.config b.account).limits.dailyLimit.isLt
      rw [base, BitVec.toNat_add, Nat.mod_eq_of_lt (by omega)]
    refine ⟨?_, ?_, fun day after => ?_, ?_, fun _ => ?_⟩
    · exact tracks.recorded.append_spend sum (tracks.installed installed)
    · simp only [Function.update_self, amountsOn_append, amountsOn_spend, if_true, sum,
        List.sum_append, List.sum_singleton]
    · simp only [Function.update_self] at after
      have other : dayOf pre.timestamp ≠ day := by bv_omega
      rw [amountsOn_append, amountsOn_spend, if_neg other, List.append_nil]
      exact tracks.later day (by bv_omega)
    · simp only [Function.update_self, dayOf, BitVec.toNat_ofNat, clock]
      exact Nat.mod_le _ _
    · rw [List.any_append, tracks.installed installed, Bool.true_or]

/-- A call of the hook that is no bypass. -/
theorem Tracks.callHook (tracks : Tracks account w es) {sender : Address} {call : HookCall}
    {hook : Storage} (called : w.callHook sender call = .ok (hook, more))
    (allowed : bypasses account (.act (.hook sender call) more) = false) :
    Tracks account { w with hook := hook } (es ++ more) := by
  cases call with
  | onInstall data =>
      obtain ⟨-, c, targets, -, rfl, rfl⟩ := onInstall_eq_ok_iff.mp called
      refine tracks.append_silent (fun e mem => ?_) rfl le_rfl fun now => ?_
      · rcases List.mem_append.mp mem with target | last
        · obtain ⟨t, -, rfl⟩ := List.mem_map.mp target
          rfl
        · rw [List.mem_singleton] at last
          rw [last]
          rfl
      · rcases eq_or_ne account sender with rfl | other
        · exact .inr (by simp [isInstallOf])
        · refine .inl ?_
          simpa [Function.update_of_ne other] using now
  | onUninstall =>
      simp only [World.callHook, onUninstall, Except.ok.injEq, Prod.mk.injEq] at called
      obtain ⟨rfl, rfl⟩ := called
      have other : account ≠ sender := by
        rintro rfl
        simp [bypasses] at allowed
      refine tracks.append_silent (by simp [isSpendOf]) (Function.update_of_ne other _ _) le_rfl
        fun now => .inl ?_
      simpa [Function.update_of_ne other] using now
  | preCheck msgData =>
      simp only [World.callHook, bind_eq_ok_iff, Except.ok.injEq, Prod.mk.injEq] at called
      obtain ⟨-, -, rfl, rfl⟩ := called
      rwa [List.append_nil]
  | postCheck hookData =>
      have other : account ≠ sender := by
        rintro rfl
        simp [bypasses] at allowed
      have frame := callHook_frame called other
      refine tracks.append_silent (spends_of_postCheck called other) frame.window le_rfl
        fun now => .inl ?_
      rwa [← frame.config]

end Steps

/-- Every step that is no bypass keeps the window beside the events. -/
theorem tracks_keeps (account : Address) :
    Transaction.Keeps system (fun e => bypasses account e = false)
      (fun w log => Tracks account w (eventsOf log)) where
  act {w log action w' events} tracks acted allowed := by
    rw [eventsOf_append, eventsOf_act]
    cases action with
    | token effect =>
        obtain ⟨tokens, -, rfl, rfl⟩ := World.act_token_eq_ok acted
        exact tracks.append_silent (by simp) rfl le_rfl .inl
    | hook sender call =>
        obtain ⟨hook, called, rfl⟩ := World.act_hook_eq_ok acted
        exact tracks.callHook called allowed
  bracket {w log b hookData w₁ inner w' nested events} _ entered tracks clock left _ := by
    rw [eventsOf_append, eventsOf_bracket]
    by_cases own : b.account = account
    · exact tracks.execution own entered clock left
    · obtain ⟨hook, checked, rfl⟩ := World.postCheck_eq_ok left
      obtain ⟨config, -, window⟩ := postCheck_frame checked
      refine tracks.append_silent (spends_of_postCheck checked (Ne.symm own))
        (window _ (Ne.symm own)) le_rfl fun now => .inl ?_
      rwa [← config]
  tick {w log seconds} tracks :=
    ⟨tracks.recorded, tracks.current, tracks.later, tracks.forward.trans
      (Nat.div_le_div_right (Nat.le_add_right _ _)), tracks.installed⟩

theorem tracks_deployed (account : Address) (tokens : Address → Erc20) (timestamp : Nat) :
    Tracks account (.deployed tokens timestamp) [] where
  recorded i target amount total day at_i := by simp at at_i
  current := rfl
  later _ _ := rfl
  forward := by simp [World.deployed, Storage.initial, Window.zero]
  installed now := by simp [World.deployed, Storage.initial, Config.zero] at now

/-- After every run without a bypass. -/
theorem tracks_of_run {account : Address} {tokens : Address → Erc20} {timestamp : Nat}
    {steps : List Step}
    (direct : ∀ e ∈ (run steps (.deployed tokens timestamp)).2, bypasses account e = false) :
    Tracks account (run steps (.deployed tokens timestamp)).1
      (eventsOf (run steps (.deployed tokens timestamp)).2) := by
  have start : Tracks account (.deployed tokens timestamp) (eventsOf []) :=
    tracks_deployed account tokens timestamp
  exact (tracks_keeps account).run steps start direct

end AgentProof
