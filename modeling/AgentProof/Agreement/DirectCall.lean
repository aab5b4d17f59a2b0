import AgentProof.Agreement.Allowlists
import AgentProof.Contracts.Transfers
import AgentProof.Sdk.SimulatedSpelling

/-!
# A call of the asset, on the chain and simulated

The two ERC-20 calls whose effect on the caller does not depend on anybody else: a
transfer to another party, and an approval.  On the chain the hook measures what
left and on the simulated account it is worked out beforehand; both accept such a
call under one condition on five numbers (`Permits`), and both add the same amount
to the day's spend.
-/

namespace AgentProof

open AgentPolicyHook ExecutionLib PolicyLib Token

/-- A call of the asset that takes `drawn` from its caller: a transfer to another party, or an
approval of one. -/
structure Direct (account : Address) (calldata : Bytes) (party : Address) (drawn : Nat) : Prop where
  long : 68 ≤ calldata.length
  short : calldata.length < 2 ^ 32
  named : wordAt calldata 4 = party.setWidth 256
  nonzero : party ≠ 0
  draws : selectorOf calldata = transferSelector ∧ party ≠ account ∧
      drawn = (wordAt calldata 36).toNat ∨
    selectorOf calldata = approveSelector ∧ drawn = 0

/-- What has to hold of a balance, the day's spend and three limits for `drawn` to leave. -/
structure Permits (balance spent maxTransaction dailyLimit minBalance drawn : Int) : Prop where
  covered : drawn ≤ balance
  limits : 0 < drawn → drawn ≤ maxTransaction ∧ spent + drawn ≤ dailyLimit
  floor : minBalance ≤ balance - drawn

section Call

variable {account party asset : Address} {calldata : Bytes} {drawn : Nat} {targets : List Address}

theorem Direct.counterpartyIndex (direct : Direct account calldata party drawn) :
    counterpartyIndex calldata = some 0 := by
  have long := direct.long
  have known : selectorOf calldata = transferSelector ∨ selectorOf calldata = approveSelector := by
    rcases direct.draws with ⟨transfer, -⟩ | ⟨approve, -⟩
    · exact .inl transfer
    · exact .inr approve
  rw [AgentProof.counterpartyIndex, if_neg (by omega), if_pos known]

theorem Direct.argumentAddress (direct : Direct account calldata party drawn) :
    argumentAddress calldata 0 = party := by
  rw [AgentProof.argumentAddress, argumentWord, Nat.mul_zero, Nat.add_zero, direct.named,
    setWidth_setWidth_address]

theorem Direct.of_transfer {amount : Uint256} (transfer : IsTransfer calldata party amount)
    (short : calldata.length < 2 ^ 32) (nonzero : party ≠ 0) (other : party ≠ account) :
    Direct account calldata party amount.toNat where
  long := transfer.long
  short := short
  named := transfer.recipient
  nonzero := nonzero
  draws := .inl ⟨transfer.selector, other, by rw [transfer.amount]⟩

theorem Direct.isTransfer (direct : Direct account calldata party drawn)
    (transfer : selectorOf calldata = transferSelector) :
    IsTransfer calldata party (wordAt calldata 36) :=
  ⟨transfer, direct.long, direct.named, rfl⟩

/-! ## On the chain -/

/-- An approval leaves every balance alone. -/
theorem exec_approve_eq_ok_iff (direct : Direct account calldata party drawn)
    (approve : selectorOf calldata = approveSelector) {l l' : Erc20} :
    Token.exec l account calldata = .ok l' ↔
      account ≠ 0 ∧ ∃ fits : (wordAt calldata 36).toNat < 2 ^ 256,
        l' = l.setAllowance account party (wordAt calldata 36).toNat fits := by
  have long := direct.long
  have other : selectorOf calldata ≠ transferSelector := by
    rw [approve]
    decide
  rw [Token.exec, if_neg (by omega), if_neg other, if_pos approve, Token.withArguments,
    if_neg (by omega), Token.approve, Token.addressAt, direct.named, setWidth_setWidth_address,
    Token.setAllowance_eq_ok_iff]
  simp only [direct.nonzero, ne_eq, not_false_eq_true, true_and]

/-- The token takes `drawn`, where it is there. -/
theorem Direct.exec_iff (direct : Direct account calldata party drawn) {l : Erc20} :
    (∃ l', Token.exec l account calldata = .ok l') ↔ account ≠ 0 ∧ drawn ≤ l.balance account := by
  rcases direct.draws with ⟨transfer, other, rfl⟩ | ⟨approve, rfl⟩
  · simp only [exec_transfer_eq_ok_iff (direct.isTransfer transfer)]
    constructor
    · rintro ⟨l', sender, -, covered, -⟩
      exact ⟨sender, covered⟩
    · rintro ⟨sender, covered⟩
      exact ⟨_, sender, direct.nonzero, covered, rfl⟩
  · simp only [exec_approve_eq_ok_iff direct approve]
    constructor
    · rintro ⟨l', sender, -⟩
      exact ⟨sender, Nat.zero_le _⟩
    · rintro ⟨sender, -⟩
      exact ⟨_, sender, (wordAt calldata 36).isLt, rfl⟩

theorem Direct.balance_exec (direct : Direct account calldata party drawn) {l l' : Erc20}
    (executed : Token.exec l account calldata = .ok l') :
    l'.balance account = l.balance account - drawn := by
  rcases direct.draws with ⟨transfer, other, rfl⟩ | ⟨approve, rfl⟩
  · obtain ⟨-, -, covered, rfl⟩ := (exec_transfer_eq_ok_iff (direct.isTransfer transfer)).mp executed
    rw [move_balance_sender, if_neg other]
  · obtain ⟨-, fits, rfl⟩ := (exec_approve_eq_ok_iff direct approve).mp executed
    rw [TokenLedger.setAllowance_balance, Nat.sub_zero]

variable {w w' : World} {c : Config} {log : List Entry}

/-- What the hook counts for a day. -/
def World.spent (w : World) (account : Address) (day : Nat) : Nat :=
  ((w.hook.window account).base (BitVec.ofNat 64 day)).toNat

/-- The account executes the call on its asset. -/
def directCall (account asset : Address) (calldata : Bytes) : Call :=
  executeToken ⟨account, tokenMsgData asset calldata⟩ asset calldata

theorem Direct.preCheck_eq_ok_iff (direct : Direct account calldata party drawn)
    (installed : Installed w.hook account asset targets) {hookData : Bytes} :
    w.preCheck ⟨account, tokenMsgData asset calldata⟩ = .ok hookData ↔
      (asset ∈ targets ∧ party ∈ targets) ∧
        hookData = encodeHookData (w.balanceOf asset account) (dayOf w.timestamp) asset := by
  have shown := shows_tokenMsgData asset direct.short
  obtain ⟨inner, decodes, bytes⟩ := shown.decodes
  have long := direct.long
  have read : decodeErc20Counterparty inner = .ok party := by
    rw [counterparty_of_accepted shown.decoded decodes, bytes, counterpartyOf_eq,
      direct.counterpartyIndex]
    dsimp only
    rw [if_neg (by omega), direct.argumentAddress]
  refine AgentPolicyHook.preCheck_eq_ok_iff.trans ?_
  rw [installed.asset]
  simp only [installed.installed, decodes, true_and, Except.ok.injEq, Prod.mk.injEq]
  constructor
  · rintro ⟨_, _, ⟨rfl, rfl⟩, listed, known, handed⟩
    obtain ⟨counterparty, found, known⟩ := known rfl
    obtain rfl := Except.ok.inj (read.symm.trans found)
    exact ⟨⟨(installed.allowed _).mp listed, (installed.allowed _).mp
      (known.resolve_left direct.nonzero)⟩, handed⟩
  · rintro ⟨⟨listed, known⟩, handed⟩
    exact ⟨_, _, ⟨rfl, rfl⟩, (installed.allowed _).mpr listed,
      fun _ => ⟨party, read, .inr ((installed.allowed _).mpr known)⟩, handed⟩

theorem Serving.installed (serving : Serving account c targets w) (asset_eq : c.asset = asset) :
    Installed w.hook account asset targets where
  installed := by rw [serving.config]
  asset := by rw [serving.config, ← asset_eq]
  allowed := serving.allowed

/-- What the hook makes of a balance that fell by `drawn`. -/
structure Fell (w : World) (account asset : Address) (drawn : Nat)
    (balanceOf : Address → Address → Uint256) : Prop where
  covered : drawn ≤ w.balance asset account
  rest : (balanceOf asset account).toNat = w.balance asset account - drawn

section Checked

variable {balanceOf : Address → Address → Uint256}

theorem Fell.amount (fell : Fell w account asset drawn balanceOf) :
    (w.balanceOf asset account - balanceOf asset account).toNat = drawn := by
  have before : (w.balanceOf asset account).toNat = w.balance asset account := w.toNat_balanceOf _ _
  have covered := fell.covered
  have rest := fell.rest
  have bound := (w.balanceOf asset account).isLt
  rw [BitVec.toNat_sub, before, rest]
  omega

theorem Fell.held_iff (fell : Fell w account asset drawn balanceOf) :
    w.balanceOf asset account ≤ balanceOf asset account ↔ drawn = 0 := by
  have before : (w.balanceOf asset account).toNat = w.balance asset account := w.toNat_balanceOf _ _
  have covered := fell.covered
  rw [BitVec.le_def, before, fell.rest]
  omega

theorem Fell.postCheck_iff (fell : Fell w account asset drawn balanceOf)
    (serving : Serving account c targets w) (asset_eq : c.asset = asset)
    (clock : w.timestamp / 86400 < 2 ^ 64) :
    (∃ result, AgentPolicyHook.postCheck w.hook balanceOf account
        (encodeHookData (w.balanceOf asset account) (dayOf w.timestamp) asset) = .ok result) ↔
      (0 < drawn → drawn ≤ c.maxTransaction.toNat ∧
          w.spent account (w.timestamp / 86400) + drawn ≤ c.dailyLimit.toNat) ∧
        c.minBalance.toNat ≤ w.balance asset account - drawn := by
  have installed : (w.hook.config account).installed = true := by rw [serving.config]
  have forward := serving.day
  have today : (w.hook.window account).day ≤ dayOf w.timestamp := by
    rw [BitVec.le_def, dayOf, BitVec.toNat_ofNat]
    omega
  rw [postCheck_eq_ok_iff_of_handed installed, serving.config]
  dsimp only
  rw [asset_eq, fell.held_iff, BitVec.le_def, fell.rest]
  simp only [applySpend_eq_ok_iff, BitVec.le_def (x := w.balanceOf asset account -
    balanceOf asset account), fell.amount]
  rw [and_comm]
  refine and_congr ?_ Iff.rfl
  constructor
  · rintro (none | ⟨next, -, ceiling, within, -⟩) positive
    · omega
    · exact ⟨ceiling, within⟩
  · intro limits
    rcases Nat.eq_zero_or_pos drawn with none | positive
    · exact .inl none
    · obtain ⟨ceiling, within⟩ := limits positive
      exact .inr ⟨_, today, ceiling, within, rfl⟩

/-- The day's spend grows by what fell, and no later day's does. -/
theorem Fell.spent_postCheck (fell : Fell w account asset drawn balanceOf)
    (serving : Serving account c targets w) (asset_eq : c.asset = asset) {s' : Storage}
    {events : List Event} (checked : AgentPolicyHook.postCheck w.hook balanceOf account
      (encodeHookData (w.balanceOf asset account) (dayOf w.timestamp) asset) = .ok (s', events))
    {day : Nat} (since : w.timestamp / 86400 ≤ day) (wide : day < 2 ^ 64) :
    ((s'.window account).base (BitVec.ofNat 64 day)).toNat =
      w.spent account day + if day = w.timestamp / 86400 then drawn else 0 := by
  obtain ⟨-, before, today, target, decoded, -, outcome⟩ := postCheck_eq_ok_iff.mp checked
  rw [decodeHookData_encodeHookData, Except.ok.injEq, Prod.mk.injEq, Prod.mk.injEq] at decoded
  obtain ⟨rfl, rfl, rfl⟩ := decoded
  have asset_eq' : (w.hook.config account).asset = asset := by rw [serving.config, ← asset_eq]
  rw [asset_eq'] at outcome
  rcases outcome with ⟨held, rfl, -⟩ | ⟨-, next, applied, rfl, -⟩
  · rw [fell.held_iff.mp held]
    simp [World.spent]
  · obtain ⟨-, -, within, rfl⟩ := applySpend_eq_ok_iff.mp applied
    have bound := (w.hook.config account).limits.dailyLimit.isLt
    rw [fell.amount] at within
    have forward := serving.day
    dsimp only
    rw [Function.update_self, Window.base, World.spent]
    by_cases here : day = w.timestamp / 86400
    · have today : BitVec.ofNat 64 day = dayOf w.timestamp := by rw [here, dayOf]
      rw [today, if_pos rfl, if_pos here, BitVec.toNat_add, fell.amount]
      exact Nat.mod_eq_of_lt (within.trans_lt bound)
    · have later : dayOf w.timestamp ≠ BitVec.ofNat 64 day := by
        intro same
        have days := congrArg BitVec.toNat same
        rw [dayOf, BitVec.toNat_ofNat, BitVec.toNat_ofNat] at days
        omega
      have past : (w.hook.window account).day ≠ BitVec.ofNat 64 day := by
        intro same
        have days := congrArg BitVec.toNat same
        rw [BitVec.toNat_ofNat] at days
        omega
      rw [if_neg later, if_neg here, Window.base, if_neg past, Nat.add_zero]

end Checked

/-- The world once the token has done its part. -/
def World.withLedger (w : World) (asset : Address) (l : Erc20) : World :=
  { w with tokens := Function.update w.tokens asset l }

theorem World.balance_withLedger (w : World) (asset account : Address) (l : Erc20) :
    (w.withLedger asset l).balance asset account = l.balance account := by
  rw [World.balance, World.withLedger]
  dsimp only
  rw [Function.update_self]

/-- The three parts of the execution. -/
theorem Direct.run_eq_ok_iff (direct : Direct account calldata party drawn)
    (installed : Installed w.hook account asset targets) :
    (∃ log, (directCall account asset calldata).run system [] w = .ok (w', log)) ↔
      (asset ∈ targets ∧ party ∈ targets) ∧
        ∃ l events, Token.exec (w.tokens asset) account calldata = .ok l ∧
          (w.withLedger asset l).postCheck ⟨account, tokenMsgData asset calldata⟩
            (encodeHookData (w.balanceOf asset account) (dayOf w.timestamp) asset) =
              .ok (w', events) := by
  constructor
  · rintro ⟨log, ran⟩
    obtain ⟨hookData, w₁, inner, events, entered, ranBody, left, -⟩ :=
      Transaction.run_bracket_eq_ok ran
    obtain ⟨_, acted, -⟩ := Transaction.run_act_eq_ok ranBody
    obtain ⟨l, executed, rfl, -⟩ := act_callToken_eq_ok_iff.mp acted
    change w.preCheck ⟨account, tokenMsgData asset calldata⟩ = _ at entered
    obtain ⟨listed, handed⟩ := (direct.preCheck_eq_ok_iff installed).mp entered
    rw [handed] at left
    exact ⟨listed, l, events, executed, left⟩
  · rintro ⟨listed, l, events, executed, left⟩
    have entered := (direct.preCheck_eq_ok_iff installed).mpr ⟨listed, rfl⟩
    have acted := act_callToken_eq_ok_iff.mpr ⟨l, executed, rfl, rfl⟩
    exact ⟨_, Transaction.run_bracket_of_ok entered (Transaction.run_act_of_ok acted) left⟩

/-- What the token did to the balance. -/
theorem Direct.fell (direct : Direct account calldata party drawn) {l : Erc20}
    (executed : Token.exec (w.tokens asset) account calldata = .ok l) :
    Fell w account asset drawn (w.withLedger asset l).balanceOf where
  covered := (direct.exec_iff.mp ⟨l, executed⟩).2
  rest := by
    rw [World.toNat_balanceOf, World.balance_withLedger, direct.balance_exec executed]
    rfl

/-- What a call that succeeded leaves behind. -/
structure Moved (account asset : Address) (c : Config) (targets : List Address) (drawn : Nat)
    (w w' : World) : Prop where
  serving : Serving account c targets w'
  timestamp : w'.timestamp = w.timestamp
  balance : (w'.balance asset account : Int) = w.balance asset account - drawn
  spent : ∀ day, w.timestamp / 86400 ≤ day → day < 2 ^ 64 →
    w'.spent account day = w.spent account day + if day = w.timestamp / 86400 then drawn else 0

theorem Direct.moved (direct : Direct account calldata party drawn)
    (serving : Serving account c targets w) (asset_eq : c.asset = asset)
    (ran : (directCall account asset calldata).run system [] w = .ok (w', log)) :
    Moved account asset c targets drawn w w' := by
  have installed := serving.installed asset_eq
  obtain ⟨listed, l, events, executed, left⟩ := (direct.run_eq_ok_iff installed).mp ⟨log, ran⟩
  have fell := direct.fell executed
  have entered := (direct.preCheck_eq_ok_iff installed).mpr ⟨listed, rfl⟩
  have served : Serving account c targets (w.withLedger asset l) := serving.of_sameFor .rfl rfl
  have kept := served.execution rfl entered rfl left
  obtain ⟨hook, checked, rfl⟩ := World.postCheck_eq_ok left
  refine ⟨kept, rfl, ?_, fun day since wide => ?_⟩
  · change ((w.withLedger asset l).balance asset account : Int) = _
    rw [World.balance_withLedger, direct.balance_exec executed]
    exact Nat.cast_sub fell.covered
  · exact fell.spent_postCheck serving asset_eq checked since wide

/-- When the chain lets the call through. -/
theorem Direct.succeeds_iff (direct : Direct account calldata party drawn)
    (serving : Serving account c targets w) (asset_eq : c.asset = asset)
    (clock : w.timestamp / 86400 < 2 ^ 64) :
    Succeeds (directCall account asset calldata) w ↔
      account ≠ 0 ∧ (asset ∈ targets ∧ party ∈ targets) ∧
        Permits (w.balance asset account) (w.spent account (w.timestamp / 86400))
          c.maxTransaction.toNat c.dailyLimit.toNat c.minBalance.toNat drawn := by
  have installed := serving.installed asset_eq
  constructor
  · rintro ⟨⟨w', log⟩, ran⟩
    obtain ⟨listed, l, events, executed, left⟩ := (direct.run_eq_ok_iff installed).mp ⟨log, ran⟩
    have fell := direct.fell executed
    obtain ⟨hook, checked, -⟩ := World.postCheck_eq_ok left
    obtain ⟨limits, floor⟩ := (fell.postCheck_iff serving asset_eq clock).mp ⟨_, checked⟩
    have covered := fell.covered
    exact ⟨(direct.exec_iff.mp ⟨l, executed⟩).1, listed, by omega, by omega, by omega⟩
  · rintro ⟨sender, listed, permits⟩
    obtain ⟨covered, limits, floor⟩ := permits
    have held : drawn ≤ (w.tokens asset).balance account := by
      rw [World.balance] at covered
      omega
    obtain ⟨l, executed⟩ := direct.exec_iff.mpr ⟨sender, held⟩
    have fell := direct.fell executed
    obtain ⟨⟨hook, events⟩, checked⟩ := (fell.postCheck_iff serving asset_eq clock).mpr
      ⟨by omega, by omega⟩
    have left : (w.withLedger asset l).postCheck ⟨account, tokenMsgData asset calldata⟩
        (encodeHookData (w.balanceOf asset account) (dayOf w.timestamp) asset) =
          .ok ({ w.withLedger asset l with hook := hook }, events) :=
      bind_eq_ok_iff.mpr ⟨(hook, events), checked, rfl⟩
    obtain ⟨log, ran⟩ := (direct.run_eq_ok_iff installed).mpr ⟨listed, l, events, executed, left⟩
    exact ⟨_, ran⟩

/-! ## In the simulator -/

open Sdk

/-- The request of the same call. -/
def directRequest (account asset : Address) (calldata : Bytes) : UserOperationRequest :=
  ⟨addressText account, addressText asset, bytesToHex calldata, 0⟩

variable {s : SimulatedAccount}

theorem Direct.simulatorPasses_iff (direct : Direct account calldata party drawn) :
    SimulatorPasses targets calldata ↔ party ∈ targets := by
  have long := direct.long
  have clean : (argumentWord calldata 0).toNat < 2 ^ 160 := by
    rw [argumentWord, Nat.mul_zero, Nat.add_zero, direct.named, BitVec.toNat_setWidth]
    exact (Nat.mod_le _ _).trans_lt party.isLt
  constructor
  · intro passes
    have named := (passes 0 direct.counterpartyIndex).2.2
    rwa [direct.argumentAddress] at named
  · intro listed index known
    obtain rfl : (0 : Nat) = index := Option.some.inj (direct.counterpartyIndex.symm.trans known)
    rw [direct.argumentAddress]
    exact ⟨by omega, clean, listed⟩

/-- What the execution of the request takes. -/
theorem Direct.applyTransfer_eq_ok_iff (direct : Direct account calldata party drawn)
    (onAsset : s.config.asset = addressText asset) (held : 0 ≤ s.balance) {moved : Int} :
    (∃ executed, s.applyTransfer (bytesToHex calldata) (addressText asset) =
        .ok (executed, moved)) ↔ (drawn : Int) ≤ s.balance ∧ moved = drawn := by
  have long := direct.long
  have transferText : SELECTOR_TRANSFER = bytesToHex (Bytes.ofNat 4 transferSelector.toNat) := by
    decide
  have fromText : SELECTOR_TRANSFER_FROM =
      bytesToHex (Bytes.ofNat 4 transferFromSelector.toNat) := by decide
  rw [SimulatedAccount.applyTransfer, if_neg (not_not.mpr onAsset.symm)]
  dsimp only
  rw [transferText, fromText]
  simp only [selectorOf_eq_iff]
  rcases direct.draws with ⟨transfer, -, rfl⟩ | ⟨approve, rfl⟩
  · have word := @readWord_bytesToHex calldata 1 (by omega)
    rw [if_pos ⟨by omega, transfer⟩, SimulatedAccount.applyAmount, word]
    simp only [bind, Except.bind, thrown]
    split_ifs with above
    · refine iff_of_false (by rintro ⟨executed, failed⟩; cases failed) fun kept => ?_
      exact absurd kept.1 (not_le.mpr above)
    · simp only [Except.ok.injEq, SimulatedAccount.pay, Prod.mk.injEq, exists_eq_left']
      exact ⟨fun taken => ⟨not_lt.mp above, taken.symm⟩, fun taken => taken.2.symm⟩
  · have noTransfer : selectorOf calldata ≠ transferSelector := by
      rw [approve]
      decide
    have noTransferFrom : selectorOf calldata ≠ transferFromSelector := by
      rw [approve]
      decide
    rw [if_neg fun both => noTransfer both.2, if_neg fun both => noTransferFrom both.2]
    simp only [Except.ok.injEq, Prod.mk.injEq, exists_eq_left', Nat.cast_zero]
    exact ⟨fun taken => ⟨held, taken.symm⟩, fun taken => taken.2.symm⟩

theorem Direct.drawn_iff (direct : Direct account calldata party drawn)
    (lists : Lists s asset targets) (held : 0 ≤ s.balance) {moved : Int} :
    s.drawn (directRequest account asset calldata) = some moved ↔
      (asset ∈ targets ∧ party ∈ targets) ∧ (drawn : Int) ≤ s.balance ∧ moved = drawn := by
  have passes := @Lists.preCheck_iff _ _ _ lists asset calldata
    (directRequest account asset calldata) rfl rfl
  rw [forall_prop_of_true rfl, direct.simulatorPasses_iff] at passes
  have applies := @Direct.applyTransfer_eq_ok_iff _ _ asset _ _ _ direct lists.asset held moved
  unfold SimulatedAccount.drawn
  cases checked : s.preCheck (directRequest account asset calldata) with
  | error e =>
      refine iff_of_false (fun taken => by cases taken) fun kept => ?_
      obtain ⟨target, passed⟩ := passes.mpr kept.1
      cases checked.symm.trans passed
  | ok target =>
      obtain ⟨normal, -⟩ := Twins.preCheck_eq_ok checked
      obtain rfl : addressText asset = target :=
        Except.ok.inj ((normalizeAddress_addressText asset).symm.trans normal)
      rw [and_iff_right (passes.mp ⟨_, checked⟩), ← applies]
      have data : (directRequest account asset calldata).data = bytesToHex calldata := rfl
      dsimp only
      rw [data]
      cases s.applyTransfer (bytesToHex calldata) (addressText asset) with
      | error e => simp
      | ok result => simp [Prod.ext_iff]

end Call

/-! ## When the simulator answers -/

namespace Sdk

namespace SimulatedAccount

variable {s : SimulatedAccount} {moved : Int}

/-- What the code after the execution lets through. -/
theorem postCheck_passes_iff (s : SimulatedAccount) (moved : Int) :
    (({ s with balance := s.balance - moved } : SimulatedAccount).postCheck s.balance
        s.today).2 = .ok () ↔
      (0 < moved → moved ≤ s.config.maxTransaction ∧
          s.base s.today + moved ≤ s.config.dailyLimit) ∧
        s.config.minBalance ≤ s.balance - moved := by
  have same : ({ s with balance := s.balance - moved } : SimulatedAccount).base s.today =
      s.base s.today := rfl
  unfold postCheck
  dsimp only
  rw [outflow_eq, charge]
  by_cases positive : 0 < moved
  · rw [if_pos positive, if_pos positive, same, forall_prop_of_true positive]
    dsimp only
    split_ifs with above past
    · exact iff_of_false (fun failed => by cases failed) fun kept => absurd kept.1.1 (not_le.mpr above)
    · exact iff_of_false (fun failed => by cases failed) fun kept => absurd kept.1.2 (not_le.mpr past)
    · rw [and_iff_right ⟨not_lt.mp above, not_lt.mp past⟩]
      dsimp only
      rw [checkFloor]
      dsimp only
      split_ifs with low
      · exact iff_of_false (fun failed => by cases failed) (not_le.mpr low)
      · exact iff_of_true rfl (not_lt.mp low)
  · rw [if_neg positive, if_neg (by decide), and_iff_right fun taken => absurd taken positive]
    dsimp only
    rw [checkFloor]
    dsimp only
    split_ifs with low
    · exact iff_of_false (fun failed => by cases failed) (not_le.mpr low)
    · exact iff_of_true rfl (not_lt.mp low)

/-- A send goes through when its outflow is within the limits and leaves the floor. -/
theorem sendUnchecked_ok_iff (keccak256 : Text → Text) (s : SimulatedAccount)
    (request : UserOperationRequest) :
    (∃ txHash, (s.sendUnchecked keccak256 request).2 = .ok txHash) ↔
      ∃ moved, s.drawn request = some moved ∧
        (0 < moved → moved ≤ s.config.maxTransaction ∧
          s.base s.today + moved ≤ s.config.dailyLimit) ∧
        s.config.minBalance ≤ s.balance - moved := by
  unfold sendUnchecked drawn
  cases s.preCheck request with
  | error e => simp
  | ok target =>
      dsimp only
      cases applied : s.applyTransfer request.data target with
      | error e => simp
      | ok result =>
          obtain ⟨executed, moved⟩ := result
          obtain rfl := applyTransfer_eq_ok applied
          simp only [Option.some.injEq, exists_eq_left']
          rw [← postCheck_passes_iff]
          generalize SimulatedAccount.postCheck _ s.balance s.today = exit
          obtain ⟨after, checked⟩ := exit
          cases checked with
          | error e => simp
          | ok passed => simp

/-- What a send that went through leaves behind. -/
theorem sendUnchecked_paid {keccak256 : Text → Text} {request : UserOperationRequest} {txHash : Text}
    (sent : (s.sendUnchecked keccak256 request).2 = .ok txHash) :
    ∃ moved, s.drawn request = some moved ∧
      s.Paid moved (s.sendUnchecked keccak256 request).1 := by
  unfold sendUnchecked at sent ⊢
  unfold drawn
  cases checked : s.preCheck request with
  | error e =>
      rw [checked] at sent
      cases sent
  | ok target =>
      rw [checked] at sent
      dsimp only at sent ⊢
      cases applied : s.applyTransfer request.data target with
      | error e =>
          rw [applied] at sent
          cases sent
      | ok result =>
          obtain ⟨executed, moved⟩ := result
          obtain rfl := applyTransfer_eq_ok applied
          have exit := postCheck_checked s moved
          rw [applied] at sent
          dsimp only at sent ⊢
          generalize SimulatedAccount.postCheck _ s.balance s.today = result at exit sent ⊢
          cases exit with
          | restored e limited => cases sent
          | sunk e positive ceiling within sinks => cases sent
          | passed floats => exact ⟨moved, rfl, rfl, rfl, rfl, rfl, rfl, rfl⟩

end SimulatedAccount

end Sdk

section Sent

open Sdk

variable {account party asset : Address} {calldata : Bytes} {drawn : Nat} {targets : List Address}
  {s : SimulatedAccount}

/-- When the simulator lets the call through. -/
theorem Direct.sent_iff (direct : Direct account calldata party drawn)
    (lists : Lists s asset targets) (held : 0 ≤ s.balance) (keccak256 : Text → Text) :
    (∃ txHash, (s.sendUnchecked keccak256 (directRequest account asset calldata)).2 = .ok txHash) ↔
      (asset ∈ targets ∧ party ∈ targets) ∧
        Permits s.balance (s.base s.today) s.config.maxTransaction s.config.dailyLimit
          s.config.minBalance drawn := by
  rw [SimulatedAccount.sendUnchecked_ok_iff]
  simp only [direct.drawn_iff lists held]
  constructor
  · rintro ⟨moved, ⟨listed, covered, rfl⟩, limits, floor⟩
    exact ⟨listed, covered, limits, floor⟩
  · rintro ⟨listed, covered, limits, floor⟩
    exact ⟨drawn, ⟨listed, covered, rfl⟩, limits, floor⟩

end Sent

end AgentProof
