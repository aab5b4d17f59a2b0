import AgentProof.Contracts.Token

/-!
# A token with plain allowances

`test/mocks/MockERC20.sol` with `increaseAllowance` beside it: checked arithmetic,
no address refused, and an allowance of the largest word that is never consumed.
The log keeps the `Transfer` events, which name every debit.

What a holder stands to lose is what has been debited from it and what it has
allowed others to take.  Only the holder's own calls raise that, by the amounts
they name; what others take they take from their allowances, unless theirs is the
one that is never consumed.
-/

namespace AgentProof

structure TransferEvent where
  src : Address
  dst : Address
  amount : Uint256

structure MockERC20 where
  balanceOf : Address → Uint256
  allowance : Address → Address → Uint256
  transfers : List TransferEvent

namespace MockERC20

/-- `balanceOf[src] -= amount; balanceOf[dst] += amount; emit Transfer(..)`. -/
def move (l : MockERC20) (src dst : Address) (amount : Uint256) : Except Revert MockERC20 :=
  if (l.balanceOf src).toNat < amount.toNat then .error .arithmeticPanic
  else
    let debited := Function.update l.balanceOf src (l.balanceOf src - amount)
    if 2 ^ 256 ≤ (debited dst).toNat + amount.toNat then .error .arithmeticPanic
    else .ok { l with
      balanceOf := Function.update debited dst (debited dst + amount)
      transfers := l.transfers ++ [⟨src, dst, amount⟩] }

def setAllowance (l : MockERC20) (owner spender : Address) (amount : Uint256) : MockERC20 :=
  { l with
    allowance := Function.update l.allowance owner
      (Function.update (l.allowance owner) spender amount) }

def transfer (l : MockERC20) (sender dst : Address) (amount : Uint256) :
    Except Revert MockERC20 := l.move sender dst amount

def approve (l : MockERC20) (sender spender : Address) (amount : Uint256) : MockERC20 :=
  l.setAllowance sender spender amount

/-- `type(uint256).max`. -/
def unlimited : Uint256 := BitVec.allOnes 256

def transferFrom (l : MockERC20) (sender src dst : Address) (amount : Uint256) :
    Except Revert MockERC20 :=
  let allowed := l.allowance src sender
  if allowed ≠ unlimited then
    if allowed.toNat < amount.toNat then .error .arithmeticPanic
    else (l.setAllowance src sender (allowed - amount)).move src dst amount
  else l.move src dst amount

def increaseAllowance (l : MockERC20) (sender spender : Address) (added : Uint256) :
    Except Revert MockERC20 :=
  if 2 ^ 256 ≤ (l.allowance sender spender).toNat + added.toNat then .error .arithmeticPanic
  else .ok (l.setAllowance sender spender (l.allowance sender spender + added))

/-! ## A call from its calldata -/

/-- An address argument, whose upper bits must be clear. -/
def addressArgument (calldata : Bytes) (index : Nat) : Except Revert Address :=
  if 2 ^ 160 ≤ (wordAt calldata (4 + 32 * index)).toNat then .error .abiDecoding
  else .ok ((wordAt calldata (4 + 32 * index)).setWidth 160)

/-- The arguments of a call with `words` words. -/
def checkLength (calldata : Bytes) (words : Nat) : Except Revert Unit :=
  if calldata.length < 4 + 32 * words then .error .abiDecoding else .ok ()

/-- A call of the token; no function is payable and there is no fallback. -/
def exec (l : MockERC20) (sender : Address) (value : Nat) (calldata : Bytes) :
    Except Revert MockERC20 :=
  if value ≠ 0 ∨ calldata.length < 4 then .error .raised
  else if selectorOf calldata = ExecutionLib.transferSelector then do
    checkLength calldata 2
    let dst ← addressArgument calldata 0
    l.transfer sender dst (wordAt calldata 36)
  else if selectorOf calldata = ExecutionLib.approveSelector then do
    checkLength calldata 2
    let spender ← addressArgument calldata 0
    .ok (l.approve sender spender (wordAt calldata 36))
  else if selectorOf calldata = ExecutionLib.transferFromSelector then do
    checkLength calldata 3
    let src ← addressArgument calldata 0
    let dst ← addressArgument calldata 1
    l.transferFrom sender src dst (wordAt calldata 68)
  else if selectorOf calldata = Token.increaseAllowanceSelector then do
    checkLength calldata 2
    let spender ← addressArgument calldata 0
    l.increaseAllowance sender spender (wordAt calldata 36)
  else .error .raised

/-- A call that reverts leaves the token as it was. -/
def afterCall (l : MockERC20) (sender : Address) (value : Nat) (calldata : Bytes) : MockERC20 :=
  match l.exec sender value calldata with
  | .ok l' => l'
  | .error _ => l

/-! ## What a successful call did -/

/-- The calls that can succeed, with the arguments they read. -/
inductive Executed (l : MockERC20) (sender : Address) (calldata : Bytes) (l' : MockERC20) : Prop
  | transfer (dst : Address) (selector : selectorOf calldata = ExecutionLib.transferSelector)
      (long : 68 ≤ calldata.length) (first : addressArgument calldata 0 = .ok dst)
      (done : l.transfer sender dst (wordAt calldata 36) = .ok l')
  | approve (spender : Address) (selector : selectorOf calldata = ExecutionLib.approveSelector)
      (long : 68 ≤ calldata.length) (first : addressArgument calldata 0 = .ok spender)
      (done : l' = l.approve sender spender (wordAt calldata 36))
  | transferFrom (src dst : Address)
      (selector : selectorOf calldata = ExecutionLib.transferFromSelector)
      (long : 100 ≤ calldata.length) (first : addressArgument calldata 0 = .ok src)
      (second : addressArgument calldata 1 = .ok dst)
      (done : l.transferFrom sender src dst (wordAt calldata 68) = .ok l')
  | increaseAllowance (spender : Address)
      (selector : selectorOf calldata = Token.increaseAllowanceSelector)
      (long : 68 ≤ calldata.length) (first : addressArgument calldata 0 = .ok spender)
      (done : l.increaseAllowance sender spender (wordAt calldata 36) = .ok l')

theorem executed_of_exec {l l' : MockERC20} {sender : Address} {value : Nat} {calldata : Bytes}
    (ran : l.exec sender value calldata = .ok l') : Executed l sender calldata l' := by
  simp only [exec, guard_eq_ok_iff] at ran
  obtain ⟨-, ran⟩ := ran
  split_ifs at ran with isTransfer isApprove isTransferFrom isIncrease
  · simp only [bind_eq_ok_iff, checkLength, guard_eq_ok_iff, not_lt] at ran
    obtain ⟨-, ⟨long, -⟩, dst, first, done⟩ := ran
    exact .transfer dst isTransfer long first done
  · simp only [bind_eq_ok_iff, checkLength, guard_eq_ok_iff, not_lt, Except.ok.injEq] at ran
    obtain ⟨-, ⟨long, -⟩, spender, first, done⟩ := ran
    exact .approve spender isApprove long first done.symm
  · simp only [bind_eq_ok_iff, checkLength, guard_eq_ok_iff, not_lt] at ran
    obtain ⟨-, ⟨long, -⟩, src, first, dst, second, done⟩ := ran
    exact .transferFrom src dst isTransferFrom long first second done
  · simp only [bind_eq_ok_iff, checkLength, guard_eq_ok_iff, not_lt] at ran
    obtain ⟨-, ⟨long, -⟩, spender, first, done⟩ := ran
    exact .increaseAllowance spender isIncrease long first done

/-! ## What a holder stands to lose -/

/-- What has been debited from the holder. -/
def debited (l : MockERC20) (holder : Address) : Nat :=
  ((l.transfers.filter fun event => event.src = holder).map fun event => event.amount.toNat).sum

/-- What the owner has allowed the spenders to take. -/
def outstanding (l : MockERC20) (owner : Address) (spenders : Finset Address) : Nat :=
  ∑ spender ∈ spenders, (l.allowance owner spender).toNat

def exposure (l : MockERC20) (owner : Address) (spenders : Finset Address) : Nat :=
  l.debited owner + l.outstanding owner spenders

section Exposure

variable {l l' : MockERC20} {owner src dst spender : Address} {amount : Uint256}
  {spenders : Finset Address}

theorem exposure_of_move (moved : l.move src dst amount = .ok l') :
    l'.exposure owner spenders =
      l.exposure owner spenders + if src = owner then amount.toNat else 0 := by
  simp only [move, guard_eq_ok_iff, Except.ok.injEq] at moved
  obtain ⟨-, -, rfl⟩ := moved
  by_cases own : src = owner
  · simp only [exposure, debited, outstanding, List.filter_append, own, if_true]
    simp
    omega
  · simp [exposure, debited, outstanding, List.filter_append, own]

theorem setAllowance_of_ne (other : src ≠ owner) :
    (l.setAllowance src spender amount).exposure owner spenders = l.exposure owner spenders := by
  simp only [exposure, outstanding, setAllowance, Function.update_of_ne other.symm]
  rfl

/-- Setting an allowance shifts the sum by the difference. -/
theorem setAllowance_add (mem : spender ∈ spenders) :
    (l.setAllowance owner spender amount).exposure owner spenders +
        (l.allowance owner spender).toNat =
      l.exposure owner spenders + amount.toNat := by
  have rest : ∑ s ∈ spenders.erase spender,
      ((l.setAllowance owner spender amount).allowance owner s).toNat =
        ∑ s ∈ spenders.erase spender, (l.allowance owner s).toNat := by
    refine Finset.sum_congr rfl fun s other => ?_
    simp only [setAllowance, Function.update_self,
      Function.update_of_ne (Finset.ne_of_mem_erase other)]
  have here : (l.setAllowance owner spender amount).allowance owner spender = amount := by
    simp only [setAllowance, Function.update_self]
  have same : (l.setAllowance owner spender amount).debited owner = l.debited owner := rfl
  simp only [exposure, outstanding, same]
  rw [← Finset.add_sum_erase spenders _ mem, ← Finset.add_sum_erase spenders _ mem, rest, here]
  omega

theorem exposure_mono {more : Finset Address} (subset : spenders ⊆ more) :
    l.exposure owner spenders ≤ l.exposure owner more :=
  Nat.add_le_add_left (Finset.sum_le_sum_of_subset subset) _

theorem setAllowance_of_not_mem (outside : spender ∉ spenders) :
    (l.setAllowance owner spender amount).exposure owner spenders = l.exposure owner spenders := by
  have same : ∑ s ∈ spenders, ((l.setAllowance owner spender amount).allowance owner s).toNat =
      ∑ s ∈ spenders, (l.allowance owner s).toNat := by
    refine Finset.sum_congr rfl fun s mem => ?_
    have other : s ≠ spender := fun eq => outside (eq ▸ mem)
    simp only [setAllowance, Function.update_self, Function.update_of_ne other]
  rw [exposure, outstanding, same]
  rfl

/-- What an allowance is raised by. -/
theorem setAllowance_le :
    (l.setAllowance owner spender amount).exposure owner spenders ≤
      l.exposure owner spenders + (amount.toNat - (l.allowance owner spender).toNat) := by
  by_cases mem : spender ∈ spenders
  · have shift := @setAllowance_add l owner spender amount spenders mem
    omega
  · rw [setAllowance_of_not_mem mem]
    exact Nat.le_add_right _ _

/-- An allowance of one of the spenders is part of what stands to be lost. -/
theorem allowance_le_exposure :
    (l.allowance owner spender).toNat ≤ l.exposure owner {spender} := by
  rw [exposure, outstanding, Finset.sum_singleton]
  exact Nat.le_add_left _ _

/-- What is taken from an allowance was allowed, unless it is the unlimited one. -/
theorem exposure_of_transferFrom {sender : Address}
    (limited : l.allowance owner sender ≠ unlimited)
    (taken : l.transferFrom sender owner dst amount = .ok l') :
    l'.exposure owner spenders ≤ l.exposure owner (insert sender spenders) := by
  simp only [transferFrom, if_pos limited, guard_eq_ok_iff, not_lt] at taken
  obtain ⟨covered, moved⟩ := taken
  have moved := @exposure_of_move _ _ owner _ _ _ (insert sender spenders) moved
  rw [if_pos rfl] at moved
  have shift := @setAllowance_add l owner sender (l.allowance owner sender - amount)
    (insert sender spenders) (Finset.mem_insert_self _ _)
  have rest : (l.allowance owner sender - amount).toNat =
      (l.allowance owner sender).toNat - amount.toNat := BitVec.toNat_sub_of_le covered
  have wider : l'.exposure owner spenders ≤ l'.exposure owner (insert sender spenders) :=
    exposure_mono (Finset.subset_insert _ _)
  omega

end Exposure

/-! ## Calls of others and calls of the owner -/

section Calls

variable {l l' : MockERC20} {owner sender : Address} {value : Nat} {calldata : Bytes}

theorem exposure_of_setAllowance_move {src dst spender : Address} {amount : Uint256}
    {spenders : Finset Address} {allowed : Uint256} (other : src ≠ owner)
    (moved : (l.setAllowance src spender allowed).move src dst amount = .ok l') :
    l'.exposure owner spenders = l.exposure owner spenders := by
  rw [exposure_of_move moved, setAllowance_of_ne other, if_neg other, Nat.add_zero]

/-- Nobody else raises what the owner stands to lose, short of an unlimited allowance. -/
theorem exposure_of_other (ran : l.exec sender value calldata = .ok l') (other : sender ≠ owner)
    (limited : ∀ spender, l.allowance owner spender ≠ unlimited) (spenders : Finset Address) :
    l'.exposure owner spenders ≤ l.exposure owner (insert sender spenders) := by
  have wider : l.exposure owner spenders ≤ l.exposure owner (insert sender spenders) :=
    exposure_mono (Finset.subset_insert _ _)
  rcases executed_of_exec ran with ⟨dst, -, -, -, done⟩ | ⟨spender, -, -, -, rfl⟩ |
    ⟨src, dst, -, -, -, -, done⟩ | ⟨spender, -, -, -, done⟩
  · rw [exposure_of_move done, if_neg other]
    exact wider
  · rw [approve, setAllowance_of_ne other]
    exact wider
  · rcases eq_or_ne src owner with rfl | elsewhere
    · exact exposure_of_transferFrom (limited sender) done
    · refine le_trans (le_of_eq ?_) wider
      simp only [transferFrom] at done
      split_ifs at done
      · exact exposure_of_setAllowance_move elsewhere done
      · rw [exposure_of_move done, if_neg elsewhere, Nat.add_zero]
  · simp only [increaseAllowance, guard_eq_ok_iff, Except.ok.injEq] at done
    obtain ⟨-, rfl⟩ := done
    rw [setAllowance_of_ne other]
    exact wider

/-- What a call of the owner names: the amount it sends, or allows to be taken. -/
def named (owner : Address) (calldata : Bytes) : Nat :=
  if selectorOf calldata = ExecutionLib.transferFromSelector then
    if addressArgument calldata 0 = .ok owner then (wordAt calldata 68).toNat else 0
  else (wordAt calldata 36).toNat

/-- The owner's own call raises it by no more than it names. -/
theorem exposure_of_own (ran : l.exec owner value calldata = .ok l') (spenders : Finset Address) :
    l'.exposure owner spenders ≤ l.exposure owner spenders + named owner calldata := by
  rcases executed_of_exec ran with ⟨dst, selector, -, -, done⟩ | ⟨spender, selector, -, -, rfl⟩ |
    ⟨src, dst, selector, -, first, -, done⟩ | ⟨spender, selector, -, -, done⟩
  · rw [exposure_of_move done, if_pos rfl, named, selector, if_neg (by decide)]
  · rw [named, selector, if_neg (by decide)]
    have raised := @setAllowance_le l owner spender (wordAt calldata 36) spenders
    rw [approve]
    omega
  · rw [named, selector, if_pos rfl, first]
    rcases eq_or_ne src owner with rfl | elsewhere
    · rw [if_pos rfl]
      simp only [transferFrom] at done
      split_ifs at done with limited short
      · rw [exposure_of_move done, if_pos rfl]
        have rest : (l.allowance src src - wordAt calldata 68).toNat =
            (l.allowance src src).toNat - (wordAt calldata 68).toNat :=
          BitVec.toNat_sub_of_le (not_lt.mp short)
        have raised := @setAllowance_le l src src (l.allowance src src - wordAt calldata 68) spenders
        omega
      · rw [exposure_of_move done, if_pos rfl]
    · have different : (Except.ok src : Except Revert Address) ≠ .ok owner :=
        fun same => elsewhere (Except.ok.inj same)
      rw [if_neg different]
      simp only [transferFrom] at done
      split_ifs at done
      · exact (exposure_of_setAllowance_move elsewhere done).le
      · rw [exposure_of_move done, if_neg elsewhere]
  · simp only [increaseAllowance, guard_eq_ok_iff, Except.ok.injEq, not_le] at done
    obtain ⟨fits, rfl⟩ := done
    rw [named, selector, if_neg (by decide)]
    have raised := @setAllowance_le l owner spender
      (l.allowance owner spender + wordAt calldata 36) spenders
    rw [BitVec.toNat_add, Nat.mod_eq_of_lt fits] at raised
    omega

end Calls

end MockERC20

end AgentProof
