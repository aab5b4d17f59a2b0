import AgentProof.Contracts.World

/-!
# The enforced allowlist over install cycles

`onInstall` adds targets to `allowedTarget` and `onUninstall` leaves the
mapping alone, so what is enforced for an account is the union of the lists of
all its successful installs.  `preCheck` of a target therefore agrees with the
current list exactly when the target is on it or was never installed before.
-/

namespace AgentProof

open AgentPolicyHook ExecutionLib

/-- The address lists of the account's successful installs, oldest first. -/
def installLists (account : Address) (log : List Entry) : List (List Address) :=
  log.filterMap fun
    | .act (.hook sender (.onInstall data)) _ =>
        if sender = account then (decodeInstallData data).toOption.map Prod.snd else none
    | _ => none

section Logs

variable {account : Address} {log : List Entry}

@[simp] theorem installLists_append (log' : List Entry) :
    installLists account (log ++ log') = installLists account log ++ installLists account log' :=
  List.filterMap_append

@[simp] theorem installLists_bracket (b : Execution) (pre post : World) (nested : Bool)
    (events : List Event) : installLists account [.bracket b pre post nested events] = [] := rfl

theorem installLists_onInstall {sender : Address} {data : Bytes} {c : Config}
    {targets : List Address} (decoded : decodeInstallData data = .ok (c, targets))
    (events : List Event) :
    installLists account [.act (.hook sender (.onInstall data)) events] =
      if sender = account then [targets] else [] := by
  simp only [installLists, List.filterMap_cons, List.filterMap_nil, decoded, Except.toOption,
    Option.map_some]
  split_ifs with own <;> simp

end Logs

/-- What the mapping of an account holds after any run from deployment. -/
structure AllowedByInstalls (account : Address) (w : World) (log : List Entry) : Prop where
  allowed : ∀ t, w.hook.allowedTarget account t = true ↔ ∃ l ∈ installLists account log, t ∈ l
  installed : (w.hook.config account).installed = true → installLists account log ≠ []

theorem AllowedByInstalls.of_same {account : Address} {w w' : World} {log log' : List Entry}
    (held : AllowedByInstalls account w log)
    (allowed : w'.hook.allowedTarget account = w.hook.allowedTarget account)
    (installed : (w'.hook.config account).installed = true →
      (w.hook.config account).installed = true)
    (none : installLists account log' = []) : AllowedByInstalls account w' (log ++ log') where
  allowed t := by
    rw [allowed, installLists_append, none, List.append_nil]
    exact held.allowed t
  installed now := by
    rw [installLists_append, none, List.append_nil]
    exact held.installed (installed now)

/-- A successful install adds its list. -/
theorem AllowedByInstalls.onInstall {account : Address} {w : World} {log : List Entry}
    (held : AllowedByInstalls account w log) {data : Bytes} {s' : Storage} {events : List Event}
    (called : AgentPolicyHook.onInstall w.hook account data = .ok (s', events)) :
    AllowedByInstalls account { w with hook := s' }
      (log ++ [.act (.hook account (.onInstall data)) events]) := by
  obtain ⟨-, c, targets, decoded, rfl, -⟩ := onInstall_eq_ok_iff.mp called
  have lists : installLists account [.act (.hook account (.onInstall data)) events] = [targets] := by
    rw [installLists_onInstall decoded, if_pos rfl]
  refine ⟨fun t => ?_, fun _ => ?_⟩
  · simp only [Function.update_self, allowTargets_eq_true_iff, held.allowed, installLists_append,
      lists, List.mem_append, List.mem_singleton, or_and_right, exists_or, exists_eq_left]
    exact or_comm
  · simp [lists]

theorem allowedByInstalls_keeps (account : Address) :
    Transaction.Keeps system (fun _ => True) (AllowedByInstalls account) where
  act {w log action w' events} held acted _ := by
    cases action with
    | token effect =>
        obtain ⟨tokens, -, rfl, -⟩ := World.act_token_eq_ok acted
        exact held.of_same rfl id rfl
    | hook sender call =>
        obtain ⟨s', called, rfl⟩ := World.act_hook_eq_ok acted
        rcases eq_or_ne account sender with rfl | other
        · cases call with
          | onInstall data => exact held.onInstall called
          | onUninstall =>
              simp only [World.callHook, onUninstall, Except.ok.injEq, Prod.mk.injEq] at called
              obtain ⟨rfl, -⟩ := called
              exact held.of_same rfl (by simp [Config.zero]) rfl
          | preCheck msgData =>
              simp only [World.callHook, bind_eq_ok_iff, Except.ok.injEq, Prod.mk.injEq] at called
              obtain ⟨-, -, rfl, -⟩ := called
              exact held.of_same rfl id rfl
          | postCheck hookData =>
              obtain ⟨config, allowed, -⟩ := postCheck_frame called
              exact held.of_same (congrFun allowed account) (by simp [config]) rfl
        · have same := callHook_frame called other
          refine held.of_same same.allowedTarget (by simp [same.config]) ?_
          cases call with
          | onInstall data =>
              obtain ⟨-, c, targets, decoded, -, -⟩ := onInstall_eq_ok_iff.mp called
              rw [installLists_onInstall decoded, if_neg other.symm]
          | onUninstall => rfl
          | preCheck msgData => rfl
          | postCheck hookData => rfl
  bracket {w log b hookData w₁ inner w' nested events} _ _ held _ left _ := by
    obtain ⟨s', checked, rfl⟩ := World.postCheck_eq_ok left
    obtain ⟨config, allowed, -⟩ := postCheck_frame checked
    exact held.of_same (congrFun allowed account) (by simp [config]) (by simp)
  tick {w log seconds} held := ⟨held.allowed, held.installed⟩

/-- The mapping enforces the union of all lists ever installed. -/
theorem allowedByInstalls_of_run (tokens : Address → Erc20) (timestamp : Nat) (steps : List Step)
    (account : Address) :
    AllowedByInstalls account (run steps (.deployed tokens timestamp)).1
      (run steps (.deployed tokens timestamp)).2 := by
  have start : AllowedByInstalls account (.deployed tokens timestamp) [] :=
    ⟨fun t => by simp [World.deployed, Storage.initial, installLists],
      fun installed => by simp [World.deployed, Storage.initial, Config.zero] at installed⟩
  have held := (allowedByInstalls_keeps account).run steps start fun _ _ => trivial
  rwa [List.nil_append] at held

/-- Of a target other than the asset, `preCheck` asks only the mapping. -/
theorem preCheck_ok_iff_allowed {w : World} {account target : Address}
    {msgData inner : CalldataBytes} (installed : (w.hook.config account).installed = true)
    (decodes : decodeSingleExecution msgData = .ok (target, inner))
    (other : target ≠ (w.hook.config account).asset) :
    (∃ hookData, w.preCheck ⟨account, msgData⟩ = .ok hookData) ↔
      w.hook.allowedTarget account target = true := by
  simp only [World.preCheck, preCheck_eq_ok_iff, installed, decodes, true_and, Except.ok.injEq,
    Prod.mk.injEq]
  constructor
  · rintro ⟨_, _, _, ⟨rfl, rfl⟩, allowed, -⟩
    exact allowed
  · intro allowed
    exact ⟨_, target, inner, ⟨rfl, rfl⟩, allowed, fun onAsset => absurd onAsset other, rfl⟩

/-- After any run from deployment, `preCheck` agrees with the list of the
current install on exactly the targets that are on it or on no earlier list. -/
theorem preCheck_agrees_with_current_install_iff {tokens : Address → Erc20} {timestamp : Nat}
    {steps : List Step} {account target : Address} {msgData inner : CalldataBytes} {w : World}
    {log : List Entry} (ran : run steps (.deployed tokens timestamp) = (w, log))
    (installed : (w.hook.config account).installed = true)
    (decodes : decodeSingleExecution msgData = .ok (target, inner))
    (other : target ≠ (w.hook.config account).asset) :
    ∃ earlier current, installLists account log = earlier ++ [current] ∧
      (((∃ hookData, w.preCheck ⟨account, msgData⟩ = .ok hookData) ↔ target ∈ current) ↔
        target ∈ current ∨ ∀ targets ∈ earlier, target ∉ targets) := by
  have held := allowedByInstalls_of_run tokens timestamp steps account
  rw [ran] at held
  obtain ⟨earlier, current, lists⟩ := (List.eq_nil_or_concat' _).resolve_left (held.installed installed)
  refine ⟨earlier, current, lists, ?_⟩
  rw [preCheck_ok_iff_allowed installed decodes other, held.allowed, lists]
  simp only [List.mem_append, List.mem_singleton, or_and_right, exists_or, exists_eq_left]
  have none : (∀ targets ∈ earlier, target ∉ targets) ↔ ¬ ∃ l ∈ earlier, target ∈ l := by
    simp only [not_exists, not_and]
  rw [none]
  by_cases now : target ∈ current
  · simp [now]
  · simp [now]

section Reinstall

/-- Installed with one target, uninstalled, and installed again with another. -/
def reinstall (account : Address) (c : Config) (first second : Address) :
    List (Address × HookCall) :=
  [(account, .onInstall (encodeInstallData c [first])), (account, .onUninstall),
    (account, .onInstall (encodeInstallData c [second]))]

/-- A target of the first install passes `preCheck` under the second, which
does not list it. -/
theorem preCheck_disagrees_after_reinstall :
    ¬ ∀ (tokens : Address → Erc20) (timestamp : Nat) (calls : List (Address × HookCall))
      (account target : Address) (msgData inner : CalldataBytes) (current : List Address),
      let final := run (hookCalls calls) (.deployed tokens timestamp)
      (final.1.hook.config account).installed = true →
      decodeSingleExecution msgData = .ok (target, inner) →
      target ≠ (final.1.hook.config account).asset →
      (installLists account final.2).getLast? = some current →
      ((∃ hookData, final.1.preCheck ⟨account, msgData⟩ = .ok hookData) ↔ target ∈ current) := by
  intro claimed
  have installed : ((run (hookCalls (reinstall sampleAccount sampleConfig 0x11 0x22))
      (.deployed sampleTokens 0)).1.hook.config sampleAccount).installed = true := by
    decide +kernel
  have decodes : decodeSingleExecution (tokenMsgData 0x11 []) =
      .ok (0x11, ⟨(tokenMsgData 0x11 []).data, 152, 0⟩) := by decide +kernel
  have other : (0x11 : Address) ≠ ((run (hookCalls (reinstall sampleAccount sampleConfig 0x11 0x22))
      (.deployed sampleTokens 0)).1.hook.config sampleAccount).asset := by decide +kernel
  have agrees := claimed sampleTokens 0 _ sampleAccount 0x11 _ _ [0x22] installed decodes other
    (by decide +kernel)
  rw [preCheck_ok_iff_allowed installed decodes other] at agrees
  have listed := agrees.mp (by decide +kernel)
  exact absurd listed (by decide)

/-- Reinstalling with the same target agrees. -/
theorem preCheck_agrees_after_same_reinstall :
    ∃ w log earlier current,
      run (hookCalls (reinstall sampleAccount sampleConfig 0x11 0x11))
        (.deployed sampleTokens 0) = (w, log) ∧
      installLists sampleAccount log = earlier ++ [current] ∧
      (((∃ hookData, w.preCheck ⟨sampleAccount, tokenMsgData 0x11 []⟩ = .ok hookData) ↔
          0x11 ∈ current) ↔ 0x11 ∈ current ∨ ∀ targets ∈ earlier, 0x11 ∉ targets) := by
  obtain ⟨earlier, current, agrees⟩ := @preCheck_agrees_with_current_install_iff
    sampleTokens 0 (hookCalls (reinstall sampleAccount sampleConfig 0x11 0x11)) sampleAccount 0x11
    (tokenMsgData 0x11 []) ⟨(tokenMsgData 0x11 []).data, 152, 0⟩ _ _ rfl (by decide +kernel)
    (by decide +kernel) (by decide +kernel)
  exact ⟨_, _, earlier, current, rfl, agrees⟩

end Reinstall

end AgentProof
