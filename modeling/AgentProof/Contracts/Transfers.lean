import AgentProof.Contracts.World

/-!
# When a transfer of the asset is accepted

The sequence `preCheck`, token transfer, `postCheck` of one execution, as one
condition on the state it starts from.  An account that is reached from a fresh
install by executions only has a window that never lies ahead of the clock and
never holds more than the daily limit, so for such an account the condition
says nothing about days.
-/

namespace AgentProof

open AgentPolicyHook ExecutionLib PolicyLib Token

/-- The calldata is a `transfer` of `amount` to `recipient`. -/
structure IsTransfer (calldata : Bytes) (recipient : Address) (amount : Uint256) : Prop where
  selector : selectorOf calldata = transferSelector
  long : 68 ≤ calldata.length
  recipient : wordAt calldata 4 = recipient.setWidth 256
  amount : wordAt calldata 36 = amount

theorem isTransfer_encodeCall (recipient : Address) (amount : Uint256) :
    IsTransfer (encodeCall transferSelector [recipient.setWidth 256, amount]) recipient amount where
  selector := selectorOf_encodeCall
  long := by simp
  recipient := wordAt_encodeCall (i := 0) rfl
  amount := wordAt_encodeCall (i := 1) rfl

/-- The execution's calldata is a single execution of `calldata` on `target`. -/
structure Shows (msgData : CalldataBytes) (target : Address) (calldata : Bytes) : Prop where
  decoded : msgData.Decoded
  decodes : ∃ inner, decodeSingleExecution msgData = .ok (target, inner) ∧ inner.bytes = calldata

/-- The canonical calldata shows what it was made from. -/
theorem shows_tokenMsgData (asset : Address) {calldata : Bytes}
    (fits : calldata.length < 2 ^ 32) : Shows (tokenMsgData asset calldata) asset calldata where
  decoded := by
    have length : (encodeExecute asset 0 calldata).length < 2 ^ 33 := by
      simp [encodeExecute]
      omega
    refine ⟨?_, ?_⟩
    · simp only [tokenMsgData, CalldataBytes.ofBytes, BitVec.toNat_ofNat]
      exact (Nat.zero_add _).trans_le (Nat.mod_le _ _)
    · simp only [tokenMsgData, CalldataBytes.ofBytes]
      omega
  decodes := decodeSingleExecution_encodeExecute asset 0 (by omega)

/-- A call that does not revert. -/
def Succeeds (call : Call) (w : World) : Prop := ∃ result, call.run system [] w = .ok result

/-- What a transfer leaves the account with. -/
def balanceAfter (w : World) (asset account recipient : Address) (amount : Uint256) : Nat :=
  if recipient = account then w.balance asset account else w.balance asset account - amount.toNat

/-- Whether the window and the ceiling let the transfer through: one that leaves
the balance alone is not charged. -/
def SpendAllowed (w : World) (account recipient : Address) (amount : Uint256) : Prop :=
  recipient = account ∨ amount = 0 ∨
    ((w.hook.window account).day ≤ dayOf w.timestamp ∧
      amount ≤ (w.hook.config account).maxTransaction ∧
      ((w.hook.window account).base (dayOf w.timestamp)).toNat + amount.toNat ≤
        (w.hook.config account).dailyLimit.toNat)

/-- The hook and the token accept a transfer by the account. -/
structure Accepts (w : World) (account recipient : Address) (amount : Uint256) : Prop where
  installed : (w.hook.config account).installed = true
  asset : w.hook.allowedTarget account (w.hook.config account).asset = true
  counterparty : w.hook.allowedTarget account recipient = true
  sender : account ≠ 0
  nonzero : recipient ≠ 0
  covered : amount.toNat ≤ w.balance (w.hook.config account).asset account
  floor : (w.hook.config account).minBalance.toNat ≤
    balanceAfter w (w.hook.config account).asset account recipient amount
  spend : SpendAllowed w account recipient amount

section Transfer

variable {w w' : World} {account recipient : Address} {amount : Uint256} {msgData : CalldataBytes}
  {calldata : Bytes}

/-- A transfer call of the token. -/
theorem exec_transfer_eq_ok_iff (transfer : IsTransfer calldata recipient amount) {l l' : Erc20} :
    Token.exec l account calldata = .ok l' ↔
      account ≠ 0 ∧ recipient ≠ 0 ∧ ∃ covered : amount.toNat ≤ l.balance account,
        l' = l.move account recipient amount.toNat covered := by
  have long := transfer.long
  rw [Token.exec, if_neg (by omega), if_pos transfer.selector, withArguments, if_neg (by omega),
    Token.transfer, addressAt, transfer.recipient, transfer.amount, setWidth_setWidth_address]
  exact move_eq_ok_iff

/-- The account's balance after the move. -/
theorem move_balance_sender {l : Erc20} {covered : amount.toNat ≤ l.balance account} :
    (l.move account recipient amount.toNat covered).balance account =
      if recipient = account then l.balance account else l.balance account - amount.toNat := by
  split_ifs with own
  · subst own
    exact TokenLedger.move_balance_self
  · exact TokenLedger.move_balance_src (Ne.symm own)

/-- The check before a transfer. -/
theorem preCheck_transfer_eq_ok_iff (transfer : IsTransfer calldata recipient amount)
    (shows' : Shows msgData (w.hook.config account).asset calldata) {hookData : Bytes} :
    w.preCheck ⟨account, msgData⟩ = .ok hookData ↔
      (w.hook.config account).installed = true ∧
        w.hook.allowedTarget account (w.hook.config account).asset = true ∧
        (recipient = 0 ∨ w.hook.allowedTarget account recipient = true) ∧
        hookData = encodeHookData (w.balanceOf (w.hook.config account).asset account)
          (dayOf w.timestamp) (w.hook.config account).asset := by
  obtain ⟨inner, decodes, bytes⟩ := shows'.decodes
  have counterparty : decodeErc20Counterparty inner = .ok recipient := by
    have long := transfer.long
    rw [counterparty_of_accepted shows'.decoded decodes, bytes, counterpartyOf, if_neg (by omega),
      if_pos (.inl transfer.selector), if_neg (by omega), transfer.recipient,
      setWidth_setWidth_address]
  refine preCheck_eq_ok_iff.trans (and_congr_right fun _ => ?_)
  constructor
  · rintro ⟨target, inner', decodes', listed, known, handed⟩
    rw [decodes, Except.ok.injEq, Prod.mk.injEq] at decodes'
    obtain ⟨rfl, rfl⟩ := decodes'
    obtain ⟨counterparty', read, known⟩ := known rfl
    rw [counterparty, Except.ok.injEq] at read
    exact ⟨listed, read ▸ known, handed⟩
  · rintro ⟨listed, known, handed⟩
    exact ⟨_, inner, decodes, listed, fun _ => ⟨recipient, counterparty, known⟩, handed⟩

/-- The check after a balance went from `balance` to `rest`. -/
theorem postCheck_eq_ok_iff_of_handed {hook : Storage} {balanceOf : Address → Address → Uint256}
    {balance : Uint256} {today : Uint64} {target : Address}
    (installed : (hook.config account).installed = true) :
    (∃ result, AgentPolicyHook.postCheck hook balanceOf account
        (encodeHookData balance today target) = .ok result) ↔
      (hook.config account).minBalance ≤ balanceOf (hook.config account).asset account ∧
        (balance ≤ balanceOf (hook.config account).asset account ∨
          ∃ next, applySpend (hook.window account) (hook.config account).limits
            (balance - balanceOf (hook.config account).asset account) today = .ok next) := by
  constructor
  · rintro ⟨⟨s', events⟩, checked⟩
    obtain ⟨-, balance', today', target', decoded, floor, outcome⟩ := postCheck_eq_ok_iff.mp checked
    rw [decodeHookData_encodeHookData, Except.ok.injEq, Prod.mk.injEq, Prod.mk.injEq] at decoded
    obtain ⟨rfl, rfl, rfl⟩ := decoded
    rcases outcome with ⟨held, -, -⟩ | ⟨-, next, applied, -, -⟩
    · exact ⟨floor, .inl held⟩
    · exact ⟨floor, .inr ⟨next, applied⟩⟩
  · rintro ⟨floor, outcome⟩
    have decoded := decodeHookData_encodeHookData balance today target
    by_cases held : balance ≤ balanceOf (hook.config account).asset account
    · exact ⟨(hook, []), postCheck_eq_ok_iff.mpr ⟨installed, balance, today, target, decoded, floor,
        .inl ⟨held, rfl, rfl⟩⟩⟩
    · obtain ⟨next, applied⟩ := outcome.resolve_left held
      exact ⟨_, postCheck_eq_ok_iff.mpr ⟨installed, balance, today, target, decoded, floor,
        .inr ⟨BitVec.not_le.mp held, next, applied, rfl, rfl⟩⟩⟩

/-- The check after a transfer that went through. -/
theorem postCheck_transfer_iff (installed : (w.hook.config account).installed = true)
    {asset : Address} (asset_eq : (w.hook.config account).asset = asset)
    (covered : amount.toNat ≤ (w.tokens asset).balance account) :
    let moved : World := { w with
      tokens := Function.update w.tokens asset
        ((w.tokens asset).move account recipient amount.toNat covered) }
    (∃ result, moved.postCheck ⟨account, msgData⟩
        (encodeHookData (w.balanceOf asset account) (dayOf w.timestamp) asset) = .ok result) ↔
      (w.hook.config account).minBalance.toNat ≤
          balanceAfter w asset account recipient amount ∧
        SpendAllowed w account recipient amount := by
  intro moved
  have before : (w.balanceOf asset account).toNat = w.balance asset account := w.toNat_balanceOf _ _
  have after : (moved.balanceOf asset account).toNat =
      balanceAfter w asset account recipient amount := by
    have tokens : moved.tokens asset =
        (w.tokens asset).move account recipient amount.toNat covered := Function.update_self ..
    rw [World.toNat_balanceOf, World.balance, tokens, move_balance_sender]
    rfl
  have lift : (∃ result, moved.postCheck ⟨account, msgData⟩
        (encodeHookData (w.balanceOf asset account) (dayOf w.timestamp) asset) = .ok result) ↔
      ∃ result, AgentPolicyHook.postCheck w.hook moved.balanceOf account
        (encodeHookData (w.balanceOf asset account) (dayOf w.timestamp) asset) = .ok result := by
    constructor
    · rintro ⟨⟨w', events⟩, checked⟩
      obtain ⟨hook, called, -⟩ := World.postCheck_eq_ok checked
      exact ⟨_, called⟩
    · rintro ⟨⟨hook, events⟩, called⟩
      exact ⟨_, bind_eq_ok_iff.mpr ⟨(hook, events), called, rfl⟩⟩
  rw [lift, postCheck_eq_ok_iff_of_handed installed, asset_eq]
  refine and_congr ?_ ?_
  · rw [BitVec.le_def, after]
  simp only [applySpend_eq_ok_iff]
  unfold SpendAllowed
  have held := covered
  change amount.toNat ≤ w.balance asset account at held
  by_cases own : recipient = account
  · rw [balanceAfter, if_pos own] at after
    refine iff_of_true (.inl ?_) (.inl own)
    rw [BitVec.le_def, before, after]
  · rw [balanceAfter, if_neg own] at after
    rw [or_iff_right own]
    refine or_congr ?_ ?_
    · rw [BitVec.le_def, before, after, ← BitVec.toNat_inj]
      have zero : (0 : Uint256).toNat = 0 := rfl
      omega
    · have spent : w.balanceOf asset account - moved.balanceOf asset account = amount := by
        apply BitVec.eq_of_toNat_eq
        rw [BitVec.toNat_sub, before, after]
        have bound := (w.balanceOf asset account).isLt
        omega
      rw [spent]
      constructor
      · rintro ⟨_, forward, ceiling, within, -⟩
        exact ⟨forward, ceiling, within⟩
      · rintro ⟨forward, ceiling, within⟩
        exact ⟨_, forward, ceiling, within, rfl⟩

/-- A call of the token within a transaction. -/
theorem act_callToken_eq_ok_iff {asset : Address} {events : List Event} :
    w.act (.token (callToken asset account calldata)) = .ok (w', events) ↔
      ∃ l, Token.exec (w.tokens asset) account calldata = .ok l ∧
        w' = { w with tokens := Function.update w.tokens asset l } ∧ events = [] := by
  simp only [World.act, callToken, bind_eq_ok_iff, Except.ok.injEq, Prod.mk.injEq]
  constructor
  · rintro ⟨_, ⟨l, executed, rfl⟩, rfl, rfl⟩
    exact ⟨l, executed, rfl, rfl⟩
  · rintro ⟨l, executed, rfl, rfl⟩
    exact ⟨_, ⟨l, executed, rfl⟩, rfl, rfl⟩

/-- The whole sequence on the account's asset. -/
theorem executeTransfer_succeeds_iff (transfer : IsTransfer calldata recipient amount)
    {asset : Address} (asset_eq : (w.hook.config account).asset = asset)
    (shown : Shows msgData asset calldata) :
    Succeeds (executeToken ⟨account, msgData⟩ asset calldata) w ↔
      Accepts w account recipient amount := by
  subst asset_eq
  constructor
  · rintro ⟨⟨w', log⟩, ran⟩
    obtain ⟨hookData, w₁, inner, events, entered, ranBody, left, -⟩ :=
      Transaction.run_bracket_eq_ok ran
    obtain ⟨_, acted, -⟩ := Transaction.run_act_eq_ok ranBody
    obtain ⟨l, executed, rfl, -⟩ := act_callToken_eq_ok_iff.mp acted
    obtain ⟨sender, nonzero, covered, rfl⟩ := (exec_transfer_eq_ok_iff transfer).mp executed
    obtain ⟨installed, listed, known, handed⟩ :=
      (preCheck_transfer_eq_ok_iff transfer shown).mp entered
    rw [handed] at left
    obtain ⟨floor, spend⟩ := (postCheck_transfer_iff installed rfl covered).mp ⟨_, left⟩
    exact ⟨installed, listed, known.resolve_left nonzero, sender, nonzero, covered, floor, spend⟩
  · intro accepts
    have entered := (preCheck_transfer_eq_ok_iff transfer shown).mpr
      ⟨accepts.installed, accepts.asset, .inr accepts.counterparty, rfl⟩
    have executed := (exec_transfer_eq_ok_iff transfer).mpr
      ⟨accepts.sender, accepts.nonzero, accepts.covered, rfl⟩
    have acted := act_callToken_eq_ok_iff.mpr ⟨_, executed, rfl, rfl⟩
    obtain ⟨⟨w', events⟩, left⟩ := (@postCheck_transfer_iff w account recipient amount msgData
      accepts.installed _ rfl accepts.covered).mpr ⟨accepts.floor, accepts.spend⟩
    exact ⟨_, Transaction.run_bracket_of_ok entered (Transaction.run_act_of_ok acted) left⟩

/-- What an accepted transfer to somebody else leaves behind. -/
theorem executeTransfer_run (transfer : IsTransfer calldata recipient amount) {asset : Address}
    (asset_eq : (w.hook.config account).asset = asset) (shown : Shows msgData asset calldata)
    (accepts : Accepts w account recipient amount) (other : recipient ≠ account)
    (positive : amount ≠ 0) :
    ∃ w' events, (executeToken ⟨account, msgData⟩ asset calldata).run system [] w =
        .ok (w', [.act (.token (callToken asset account calldata)) [],
          .bracket ⟨account, msgData⟩ w w' false events]) ∧
      events = [.spendRecorded account asset amount
        ((w.hook.window account).base (dayOf w.timestamp) + amount) (dayOf w.timestamp)] ∧
      w'.hook = { w.hook with
        window := Function.update w.hook.window account
          ⟨dayOf w.timestamp, (w.hook.window account).base (dayOf w.timestamp) + amount⟩ } ∧
      w'.timestamp = w.timestamp ∧
      w'.balance asset account = w.balance asset account - amount.toNat := by
  obtain ⟨⟨w', log⟩, ran⟩ := (executeTransfer_succeeds_iff transfer asset_eq shown).mpr accepts
  have ran' := ran
  obtain ⟨hookData, w₁, inner, events, entered, ranBody, left, rfl⟩ :=
    Transaction.run_bracket_eq_ok ran
  obtain ⟨_, acted, rfl⟩ := Transaction.run_act_eq_ok ranBody
  obtain ⟨l, executed, rfl, rfl⟩ := act_callToken_eq_ok_iff.mp acted
  obtain ⟨-, -, covered, rfl⟩ := (exec_transfer_eq_ok_iff transfer).mp executed
  subst asset_eq
  obtain ⟨-, -, -, handed⟩ := (preCheck_transfer_eq_ok_iff transfer shown).mp entered
  obtain ⟨hook, checked, rfl⟩ := World.postCheck_eq_ok left
  obtain ⟨-, before, today, target, decoded, -, outcome⟩ := postCheck_eq_ok_iff.mp checked
  rw [handed, decodeHookData_encodeHookData, Except.ok.injEq, Prod.mk.injEq, Prod.mk.injEq]
    at decoded
  obtain ⟨rfl, rfl, rfl⟩ := decoded
  set asset := (w.hook.config account).asset with asset_eq
  set moved : World := { w with
    tokens := Function.update w.tokens asset
      ((w.tokens asset).move account recipient amount.toNat covered) } with moved_eq
  have tokens : moved.tokens asset =
      (w.tokens asset).move account recipient amount.toNat covered := Function.update_self ..
  have rest : moved.balance asset account = w.balance asset account - amount.toNat := by
    rw [World.balance, tokens, move_balance_sender, if_neg other]
    rfl
  have before : (w.balanceOf asset account).toNat = w.balance asset account := w.toNat_balanceOf _ _
  have after : (moved.balanceOf asset account).toNat =
      w.balance asset account - amount.toNat := (moved.toNat_balanceOf _ _).trans rest
  have held : amount.toNat ≤ w.balance asset account := covered
  have bound := (w.balanceOf asset account).isLt
  have spent : w.balanceOf asset account - moved.balanceOf asset account = amount := by
    apply BitVec.eq_of_toNat_eq
    rw [BitVec.toNat_sub, before, after]
    omega
  have nonzero : amount.toNat ≠ 0 := fun zero => positive (BitVec.eq_of_toNat_eq zero)
  rcases outcome with ⟨same, -, -⟩ | ⟨-, next, applied, rfl, rfl⟩
  · have unmoved : (w.balanceOf asset account).toNat ≤ (moved.balanceOf asset account).toNat := same
    omega
  · change applySpend _ _ (w.balanceOf asset account - moved.balanceOf asset account) _ = _ at applied
    rw [spent] at applied
    obtain ⟨-, -, -, rfl⟩ := applySpend_eq_ok_iff.mp applied
    exact ⟨_, _, ran', by rw [← spent], rfl, rfl, rest⟩

end Transfer

/-! ## States reached by executions -/

/-- In the log entry the account calls the hook directly. -/
def callsHook (account : Address) : Entry → Bool
  | .act (.hook sender _) _ => sender = account
  | _ => false

/-- The account, fresh to the hook, installed it with `data` and has since acted
through executions only.  Everybody else, and the tokens, did anything. -/
def ReachedFrom (account : Address) (data : Bytes) (w : World) : Prop :=
  ∃ (start installed : World) (events : List Event) (steps : List Step),
    SameFor account .initial start.hook ∧
    start.act (.hook account (.onInstall data)) = .ok (installed, events) ∧
    (∀ e ∈ (run steps installed).2, callsHook account e = false) ∧ (run steps installed).1 = w

/-- What executions keep of an account installed with `c` and `targets`. -/
structure Serving (account : Address) (c : Config) (targets : List Address) (w : World) : Prop where
  config : w.hook.config account = { c with installed := true }
  allowed : ∀ t, w.hook.allowedTarget account t = true ↔ t ∈ targets
  day : (w.hook.window account).day.toNat ≤ w.timestamp / 86400
  spent : (w.hook.window account).spent.toNat ≤ c.dailyLimit.toNat

section Reached

variable {account : Address} {c : Config} {targets : List Address} {w w' : World}

theorem Serving.of_sameFor (serving : Serving account c targets w)
    (same : SameFor account w.hook w'.hook) (clock : w'.timestamp = w.timestamp) :
    Serving account c targets w' where
  config := same.config.trans serving.config
  allowed t := by rw [same.allowedTarget, serving.allowed]
  day := by rw [same.window, clock]; exact serving.day
  spent := by rw [same.window]; exact serving.spent

/-- The account's own execution moves the window to today at most. -/
theorem Serving.execution (serving : Serving account c targets w) {pre : World}
    {b : Execution} {hookData : Bytes} {events : List Event} (own : b.account = account)
    (entered : pre.preCheck b = .ok hookData) (clock : w.timestamp = pre.timestamp)
    (left : w.postCheck b hookData = .ok (w', events)) : Serving account c targets w' := by
  subst own
  obtain ⟨hook, checked, rfl⟩ := World.postCheck_eq_ok left
  obtain ⟨-, target, -, -, -, -, handed⟩ := preCheck_eq_ok_iff.mp entered
  have frame := postCheck_frame checked
  obtain ⟨-, _, today, _, decoded, -, outcome⟩ := postCheck_eq_ok_iff.mp checked
  rw [handed, decodeHookData_encodeHookData, Except.ok.injEq, Prod.mk.injEq,
    Prod.mk.injEq] at decoded
  obtain ⟨rfl, rfl, rfl⟩ := decoded
  rcases outcome with ⟨-, rfl, -⟩ | ⟨-, next, applied, rfl, -⟩
  · exact serving
  · obtain ⟨-, -, within, rfl⟩ := applySpend_eq_ok_iff.mp applied
    have limit : (w.hook.config b.account).limits.dailyLimit = c.dailyLimit := by
      rw [serving.config]
      rfl
    rw [limit] at within
    refine ⟨(congrFun frame.1 _).trans serving.config,
      fun t => by rw [congrFun frame.2.1 b.account, serving.allowed], ?_, ?_⟩
    · simp only [Function.update_self, dayOf, BitVec.toNat_ofNat, clock]
      exact Nat.mod_le _ _
    · simp only [Function.update_self, BitVec.toNat_add]
      exact (Nat.mod_le _ _).trans within

/-- Every step without a direct call by the account keeps it served. -/
theorem serving_keeps (account : Address) (c : Config) (targets : List Address) :
    Transaction.Keeps system (fun e => callsHook account e = false)
      (fun w _ => Serving account c targets w) where
  act {w log action w' events} serving acted indirect := by
    cases action with
    | token effect =>
        obtain ⟨tokens, -, rfl, -⟩ := World.act_token_eq_ok acted
        exact serving.of_sameFor .rfl rfl
    | hook sender call =>
        obtain ⟨hook, called, rfl⟩ := World.act_hook_eq_ok acted
        have other : account ≠ sender := by
          rintro rfl
          simp [callsHook] at indirect
        exact serving.of_sameFor (callHook_frame called other) rfl
  bracket {w log b hookData w₁ inner w' nested events} _ entered serving clock left _ := by
    by_cases own : b.account = account
    · exact serving.execution own entered clock left
    · obtain ⟨hook, checked, rfl⟩ := World.postCheck_eq_ok left
      obtain ⟨config, allowed, window⟩ := postCheck_frame checked
      exact serving.of_sameFor
        ⟨congrFun config _, window _ (Ne.symm own), congrFun allowed _⟩ rfl
  tick {w log seconds} serving :=
    ⟨serving.config, serving.allowed, serving.day.trans
      (Nat.div_le_div_right (Nat.le_add_right _ _)), serving.spent⟩

/-- The world after the account's install. -/
def World.install (w : World) (account : Address) (c : Config) (targets : List Address) : World :=
  { w with hook := { w.hook with
      config := Function.update w.hook.config account { c with installed := true }
      allowedTarget := Function.update w.hook.allowedTarget account
        (allowTargets (w.hook.allowedTarget account) targets) } }

/-- A run of executions after an install into a hook just deployed. -/
theorem reachedFrom_of_run {data : Bytes} (decodes : decodeInstallData data = .ok (c, targets))
    (tokens : Address → Erc20) (timestamp : Nat) (steps : List Step)
    (indirect : ∀ e ∈ (run steps ((World.deployed tokens timestamp).install account c targets)).2,
      callsHook account e = false) :
    ReachedFrom account data
      (run steps ((World.deployed tokens timestamp).install account c targets)).1 := by
  have called : (World.deployed tokens timestamp).callHook account (.onInstall data) = .ok (_, _) :=
    onInstall_eq_ok_iff.mpr ⟨rfl, c, targets, decodes, rfl, rfl⟩
  exact ⟨_, _, _, steps, .rfl, bind_eq_ok_iff.mpr ⟨_, called, rfl⟩, indirect, rfl⟩

/-- A fresh install serves its configuration and its targets. -/
theorem serving_of_install {start : World} {data : Bytes} {events : List Event}
    (fresh : SameFor account .initial start.hook)
    (installed : start.act (.hook account (.onInstall data)) = .ok (w, events))
    (decodes : decodeInstallData data = .ok (c, targets)) : Serving account c targets w := by
  obtain ⟨hook, called, rfl⟩ := World.act_hook_eq_ok installed
  obtain ⟨-, c', targets', decodes', rfl, -⟩ := onInstall_eq_ok_iff.mp called
  rw [decodes, Except.ok.injEq, Prod.mk.injEq] at decodes'
  obtain ⟨rfl, rfl⟩ := decodes'
  have window : start.hook.window account = .zero := fresh.window
  refine ⟨Function.update_self .., fun t => ?_, ?_, ?_⟩
  · simp only [Function.update_self]
    rw [allowTargets_eq_true_iff, fresh.allowedTarget]
    simp [Storage.initial]
  · simp [window, Window.zero]
  · simp [window, Window.zero]

theorem serving_of_reached {data : Bytes} (reached : ReachedFrom account data w)
    (decodes : decodeInstallData data = .ok (c, targets)) : Serving account c targets w := by
  obtain ⟨start, installed, events, steps, fresh, acted, indirect, rfl⟩ := reached
  have serving := serving_of_install fresh acted decodes
  exact (serving_keeps account c targets).run_state steps serving indirect

end Reached

end AgentProof
