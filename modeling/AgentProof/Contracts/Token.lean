import AgentProof.Contracts.AgentPolicyHook
import AgentProof.Lib.TokenLedger

/-!
# The tracked token

The ERC-20 the hook watches, as the tracked USDC implements the functions that
move value or grant authority: the zero address is refused, a debit needs the
balance and `transferFrom` the allowance.  `exec` runs a call from its raw
calldata; the token's ABI decoder wants the full argument words and drops the
upper bits of an address word.
-/

namespace AgentProof

/-- Balances and allowances, all of them words. -/
abbrev Erc20 := TokenLedger Address (2 ^ 256)

namespace Token

def balanceOf (l : Erc20) (holder : Address) : Uint256 :=
  BitVec.ofNat 256 (l.balance holder)

@[simp] theorem toNat_balanceOf (l : Erc20) (holder : Address) :
    (balanceOf l holder).toNat = l.balance holder := by
  rw [balanceOf, BitVec.toNat_ofNat, Nat.mod_eq_of_lt (l.balance_lt holder)]

/-- The shared body of `transfer` and `transferFrom`. -/
def move (l : Erc20) (src dst : Address) (amount : Uint256) : Except Revert Erc20 :=
  if src = 0 ∨ dst = 0 then .error .tokenRefused
  else if covered : amount.toNat ≤ l.balance src then .ok (l.move src dst amount.toNat covered)
  else .error .tokenRefused

/-- The shared body of the functions that set an allowance. -/
def setAllowance (l : Erc20) (owner spender : Address) (amount : Nat) : Except Revert Erc20 :=
  if owner = 0 ∨ spender = 0 then .error .tokenRefused
  else if fits : amount < 2 ^ 256 then .ok (l.setAllowance owner spender amount fits)
  else .error .tokenRefused

def transfer (l : Erc20) (sender dst : Address) (amount : Uint256) : Except Revert Erc20 :=
  move l sender dst amount

def transferFrom (l : Erc20) (sender src dst : Address) (amount : Uint256) :
    Except Revert Erc20 :=
  if l.allowance src sender < amount.toNat then .error .tokenRefused
  else do
    let moved ← move l src dst amount
    .ok (moved.setAllowance src sender (l.allowance src sender - amount.toNat)
      ((Nat.sub_le _ _).trans_lt (l.allowance_lt _ _)))

def approve (l : Erc20) (sender spender : Address) (amount : Uint256) : Except Revert Erc20 :=
  setAllowance l sender spender amount.toNat

/-- The sum is checked: an allowance past the largest word reverts. -/
def increaseAllowance (l : Erc20) (sender spender : Address) (increment : Uint256) :
    Except Revert Erc20 :=
  setAllowance l sender spender (l.allowance sender spender + increment.toNat)

/-- `increaseAllowance(address,uint256)`. -/
def increaseAllowanceSelector : Bytes4 := 0x39509351

/-- An address argument: the low 20 bytes of its word. -/
def addressAt (calldata : Bytes) (offset : Nat) : Address :=
  (wordAt calldata offset).setWidth 160

/-- The decoder's length check for a call with `words` arguments. -/
def withArguments (calldata : Bytes) (words : Nat) (call : Except Revert Erc20) :
    Except Revert Erc20 :=
  if calldata.length < 4 + 32 * words then .error .abiDecoding else call

/-- A call of the token with raw calldata. -/
def exec (l : Erc20) (sender : Address) (calldata : Bytes) : Except Revert Erc20 :=
  if calldata.length < 4 then .error .tokenRefused
  else if selectorOf calldata = ExecutionLib.transferSelector then
    withArguments calldata 2 (transfer l sender (addressAt calldata 4) (wordAt calldata 36))
  else if selectorOf calldata = ExecutionLib.approveSelector then
    withArguments calldata 2 (approve l sender (addressAt calldata 4) (wordAt calldata 36))
  else if selectorOf calldata = ExecutionLib.transferFromSelector then
    withArguments calldata 3
      (transferFrom l sender (addressAt calldata 4) (addressAt calldata 36) (wordAt calldata 68))
  else if selectorOf calldata = increaseAllowanceSelector then
    withArguments calldata 2
      (increaseAllowance l sender (addressAt calldata 4) (wordAt calldata 36))
  else .error .tokenRefused

/-! ## What a successful call does -/

theorem move_eq_ok_iff {l l' : Erc20} {src dst : Address} {amount : Uint256} :
    move l src dst amount = .ok l' ↔
      src ≠ 0 ∧ dst ≠ 0 ∧ ∃ covered : amount.toNat ≤ l.balance src,
        l' = l.move src dst amount.toNat covered := by
  unfold move
  rw [guard_eq_ok_iff, not_or, and_assoc]
  refine and_congr_right fun _ => and_congr_right fun _ => ?_
  split_ifs with covered
  · simp only [exists_prop_of_true covered, Except.ok.injEq]
    exact eq_comm
  · simp only [exists_prop_of_false covered]

theorem setAllowance_eq_ok_iff {l l' : Erc20} {owner spender : Address} {amount : Nat} :
    setAllowance l owner spender amount = .ok l' ↔
      owner ≠ 0 ∧ spender ≠ 0 ∧ ∃ fits : amount < 2 ^ 256,
        l' = l.setAllowance owner spender amount fits := by
  unfold setAllowance
  rw [guard_eq_ok_iff, not_or, and_assoc]
  refine and_congr_right fun _ => and_congr_right fun _ => ?_
  split_ifs with fits
  · simp only [exists_prop_of_true fits, Except.ok.injEq]
    exact eq_comm
  · simp only [exists_prop_of_false fits]

/-- The token calls that can succeed, each with the arguments it reads. -/
inductive Executes (l : Erc20) (sender : Address) (calldata : Bytes) (l' : Erc20) : Prop
  | transfer (selector : selectorOf calldata = ExecutionLib.transferSelector)
      (long : 68 ≤ calldata.length)
      (done : transfer l sender (addressAt calldata 4) (wordAt calldata 36) = .ok l')
  | approve (selector : selectorOf calldata = ExecutionLib.approveSelector)
      (long : 68 ≤ calldata.length)
      (done : approve l sender (addressAt calldata 4) (wordAt calldata 36) = .ok l')
  | transferFrom (selector : selectorOf calldata = ExecutionLib.transferFromSelector)
      (long : 100 ≤ calldata.length)
      (done : transferFrom l sender (addressAt calldata 4) (addressAt calldata 36)
        (wordAt calldata 68) = .ok l')
  | increaseAllowance (selector : selectorOf calldata = increaseAllowanceSelector)
      (long : 68 ≤ calldata.length)
      (done : increaseAllowance l sender (addressAt calldata 4) (wordAt calldata 36) = .ok l')

theorem withArguments_eq_ok_iff {calldata : Bytes} {words : Nat} {call : Except Revert Erc20}
    {l' : Erc20} :
    withArguments calldata words call = .ok l' ↔
      4 + 32 * words ≤ calldata.length ∧ call = .ok l' := by
  rw [withArguments, guard_eq_ok_iff, not_lt]

theorem executes_of_exec {l l' : Erc20} {sender : Address} {calldata : Bytes}
    (executed : exec l sender calldata = .ok l') : Executes l sender calldata l' := by
  simp only [exec, guard_eq_ok_iff] at executed
  obtain ⟨-, executed⟩ := executed
  split_ifs at executed with isTransfer isApprove isTransferFrom isIncrease
  · obtain ⟨long, done⟩ := withArguments_eq_ok_iff.mp executed
    exact .transfer isTransfer long done
  · obtain ⟨long, done⟩ := withArguments_eq_ok_iff.mp executed
    exact .approve isApprove long done
  · obtain ⟨long, done⟩ := withArguments_eq_ok_iff.mp executed
    exact .transferFrom isTransferFrom long done
  · obtain ⟨long, done⟩ := withArguments_eq_ok_iff.mp executed
    exact .increaseAllowance isIncrease long done

/-! ## Encoded calls -/

/-- A call of a token function with word arguments. -/
def encodeCall (selector : Bytes4) (arguments : List Uint256) : Bytes :=
  Bytes.ofNat 4 selector.toNat ++ encodeWords arguments

section EncodeCall

variable {selector : Bytes4} {arguments : List Uint256}

@[simp] theorem length_encodeCall :
    (encodeCall selector arguments).length = 4 + 32 * arguments.length := by
  simp [encodeCall]

@[simp] theorem selectorOf_encodeCall : selectorOf (encodeCall selector arguments) = selector := by
  have head : readPadded (encodeCall selector arguments) 0 4 = Bytes.ofNat 4 selector.toNat := by
    have front := readPadded_append_left (Bytes.ofNat 4 selector.toNat) (encodeWords arguments)
    rwa [Bytes.length_ofNat] at front
  have fits : selector.toNat < 256 ^ 4 := selector.isLt
  rw [selectorOf, head, Bytes.toNat_ofNat, Nat.mod_eq_of_lt fits]
  exact BitVec.ofNat_toNat 32 selector

theorem wordAt_encodeCall {i : Nat} {w : Uint256} (word : arguments[i]? = some w) :
    wordAt (encodeCall selector arguments) (4 + 32 * i) = w := by
  rw [encodeCall, wordAt_append (Bytes.length_ofNat 4 _), wordAt_encodeWords' word]

end EncodeCall

/-- An address argument reads back. -/
theorem setWidth_setWidth_address (a : Address) : (a.setWidth 256 : Uint256).setWidth 160 = a := by
  simp

end Token

end AgentProof
