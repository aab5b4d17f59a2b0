import AgentProof.Contracts.World

/-!
# Who can gain from a call of the asset

`preCheck` reads the counterparty of the inner calldata and refuses one that
is not allowlisted.  It recognises `transfer`, `approve` and `transferFrom`;
any other selector counts as having no counterparty.  Of the calls the token
implements that leaves `increaseAllowance`, and the theorem below says that
this is the only way past the check.
-/

namespace AgentProof

open AgentPolicyHook ExecutionLib Token

/-- Executing `calldata` on the account's tracked asset gives nobody outside
its allowlist balance or allowance. -/
def KeepsFromOutsiders (w : World) (account : Address) (calldata : Bytes) : Prop :=
  let l := w.tokens (w.hook.config account).asset
  ∀ l', Token.exec l account calldata = .ok l' →
    ∀ x, w.hook.allowedTarget account x = false → x ≠ account →
      l'.balance x ≤ l.balance x ∧ l'.allowance account x ≤ l.allowance account x

/-- The call raises the allowance of a spender outside the account's allowlist. -/
structure RaisesOutsider (w : World) (account : Address) (calldata : Bytes) : Prop where
  selector : selectorOf calldata = increaseAllowanceSelector
  long : 68 ≤ calldata.length
  owner : account ≠ 0
  spender : addressAt calldata 4 ≠ 0
  other : addressAt calldata 4 ≠ account
  outside : w.hook.allowedTarget account (addressAt calldata 4) = false
  positive : 0 < (wordAt calldata 36).toNat
  fits : (w.tokens (w.hook.config account).asset).allowance account (addressAt calldata 4) +
    (wordAt calldata 36).toNat < 2 ^ 256

/-! ## The counterparty of an accepted call -/

/-- In an accepted execution on the asset the counterparty the hook reads off
the executed bytes is allowlisted or zero. -/
theorem counterparty_listed {w : World} {account : Address} {msgData inner : CalldataBytes}
    {hookData : Bytes} (decoded : msgData.Decoded)
    (accepted : w.preCheck ⟨account, msgData⟩ = .ok hookData)
    (decodes : decodeSingleExecution msgData = .ok ((w.hook.config account).asset, inner)) :
    ∃ counterparty, counterpartyOf inner.bytes = .ok counterparty ∧
      (counterparty = 0 ∨ w.hook.allowedTarget account counterparty = true) := by
  obtain ⟨-, target, inner', decodes', -, listed, -⟩ := preCheck_eq_ok_iff.mp accepted
  rw [decodes, Except.ok.injEq, Prod.mk.injEq] at decodes'
  obtain ⟨rfl, rfl⟩ := decodes'
  obtain ⟨counterparty, read, listed⟩ := listed rfl
  rw [counterparty_of_accepted decoded decodes] at read
  exact ⟨counterparty, read, listed⟩

section Counterparty

variable {calldata : Bytes} {counterparty : Address}

theorem counterpartyOf_first (selector : selectorOf calldata = transferSelector ∨
    selectorOf calldata = approveSelector) (long : 68 ≤ calldata.length) :
    counterpartyOf calldata = .ok (addressAt calldata 4) := by
  rw [counterpartyOf, if_neg (by omega), if_pos selector, if_neg (by omega), addressAt]

theorem counterpartyOf_second (selector : selectorOf calldata = transferFromSelector)
    (long : 100 ≤ calldata.length) :
    counterpartyOf calldata = .ok (addressAt calldata 36) := by
  rw [counterpartyOf, if_neg (by omega), if_neg (by rw [selector]; decide), if_pos selector,
    if_neg (by omega), addressAt]

end Counterparty

/-- A successful allowance raise reaches the spender. -/
theorem RaisesOutsider.not_keeps {w : World} {account : Address} {calldata : Bytes}
    (raises : RaisesOutsider w account calldata) : ¬ KeepsFromOutsiders w account calldata := by
  intro keeps
  have done : Token.exec (w.tokens (w.hook.config account).asset) account calldata =
      .ok ((w.tokens (w.hook.config account).asset).setAllowance account (addressAt calldata 4) _
        raises.fits) := by
    have long := raises.long
    rw [Token.exec, if_neg (by omega), raises.selector, if_neg (by decide), if_neg (by decide),
      if_neg (by decide), if_pos rfl, withArguments, if_neg (by omega), increaseAllowance,
      setAllowance_eq_ok_iff]
    exact ⟨raises.owner, raises.spender, raises.fits, rfl⟩
  have bounded := (keeps _ done _ raises.outside raises.other).2
  rw [TokenLedger.setAllowance_allowance_self] at bounded
  have positive := raises.positive
  omega

/-- An accepted execution on the asset keeps it from everybody outside the
allowlist, unless it is an `increaseAllowance` for an outsider. -/
theorem keepsFromOutsiders_iff {w : World} {account : Address} {msgData inner : CalldataBytes}
    {hookData : Bytes} (decoded : msgData.Decoded)
    (accepted : w.preCheck ⟨account, msgData⟩ = .ok hookData)
    (decodes : decodeSingleExecution msgData = .ok ((w.hook.config account).asset, inner)) :
    KeepsFromOutsiders w account inner.bytes ↔ ¬ RaisesOutsider w account inner.bytes := by
  refine ⟨fun keeps raises => raises.not_keeps keeps, fun safe l' executed x outside other => ?_⟩
  obtain ⟨counterparty, read, listed⟩ := counterparty_listed decoded accepted decodes
  -- a counterparty the token accepts is not the outsider
  have apart : counterparty ≠ 0 → x ≠ counterparty := by
    rintro nonzero rfl
    rcases listed with zero | allowed
    · exact nonzero zero
    · rw [outside] at allowed
      exact Bool.false_ne_true allowed
  cases executes_of_exec executed with
  | transfer selector long done =>
      rw [counterpartyOf_first (.inl selector) long, Except.ok.injEq] at read
      obtain ⟨-, receiver, covered, rfl⟩ := move_eq_ok_iff.mp done
      rw [read] at receiver ⊢
      exact ⟨TokenLedger.move_balance_le (apart receiver), le_rfl⟩
  | approve selector long done =>
      rw [counterpartyOf_first (.inr selector) long, Except.ok.injEq] at read
      obtain ⟨-, spender, fits, rfl⟩ := setAllowance_eq_ok_iff.mp done
      rw [read] at spender ⊢
      rw [TokenLedger.setAllowance_allowance_of_ne fun same => apart spender same.2]
      exact ⟨le_rfl, le_rfl⟩
  | transferFrom selector long done =>
      rw [counterpartyOf_second selector long, Except.ok.injEq] at read
      simp only [Token.transferFrom, guard_eq_ok_iff, bind_eq_ok_iff, Except.ok.injEq] at done
      obtain ⟨-, moved, done, rfl⟩ := done
      obtain ⟨-, receiver, covered, rfl⟩ := move_eq_ok_iff.mp done
      rw [TokenLedger.setAllowance_allowance_of_ne fun same => other same.2,
        TokenLedger.setAllowance_balance, read]
      rw [read] at receiver
      exact ⟨TokenLedger.move_balance_le (apart receiver), le_rfl⟩
  | increaseAllowance selector long done =>
      obtain ⟨owner, spender, fits, rfl⟩ := setAllowance_eq_ok_iff.mp done
      refine ⟨le_rfl, ?_⟩
      rcases eq_or_ne x (addressAt inner.bytes 4) with rfl | elsewhere
      · rw [TokenLedger.setAllowance_allowance_self]
        by_contra raised
        exact safe ⟨selector, long, owner, spender, other, outside, by omega, fits⟩
      · rw [TokenLedger.setAllowance_allowance_of_ne fun same => elsewhere same.2]

/-- A transfer to the listed payee keeps the asset from outsiders. -/
theorem keepsFromOutsiders_iff_of_transfer :
    let inner : CalldataBytes :=
      ⟨(tokenMsgData sampleAsset (encodeCall transferSelector [0x22, 5])).data, 152, 68⟩
    KeepsFromOutsiders sampleWorld sampleAccount inner.bytes ↔
      ¬ RaisesOutsider sampleWorld sampleAccount inner.bytes :=
  @keepsFromOutsiders_iff sampleWorld sampleAccount
    (tokenMsgData sampleAsset (encodeCall transferSelector [0x22, 5])) _
    (encodeHookData 1000 0 sampleAsset) ⟨by decide +kernel, by decide +kernel⟩ (by decide +kernel) (by decide +kernel)

/-- The check lets an allowance for an unlisted spender through. -/
theorem preCheck_admits_increaseAllowance :
    ¬ ∀ (w : World) (account : Address) (msgData inner : CalldataBytes) (hookData : Bytes),
      msgData.Decoded → w.preCheck ⟨account, msgData⟩ = .ok hookData →
      decodeSingleExecution msgData = .ok ((w.hook.config account).asset, inner) →
      KeepsFromOutsiders w account inner.bytes := by
  intro claimed
  have keeps := claimed sampleWorld sampleAccount
    (tokenMsgData sampleAsset (encodeCall increaseAllowanceSelector [0xbad, 5]))
    ⟨(tokenMsgData sampleAsset (encodeCall increaseAllowanceSelector [0xbad, 5])).data, 152, 68⟩
    (encodeHookData 1000 0 sampleAsset) ⟨by decide +kernel, by decide +kernel⟩
    (by decide +kernel) (by decide +kernel)
  refine RaisesOutsider.not_keeps ?_ keeps
  constructor
  all_goals decide +kernel

end AgentProof
