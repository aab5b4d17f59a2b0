import AgentProof.Evm.Calldata
import AgentProof.Lib.BucketLimit

/-!
# PolicyLib

The deterministic policy state machine of `PolicyLib.sol`: the total core
`evaluate`, the reverting adapter `applySpend` and the view `remainingToday`.
Words are bit vectors; `applySpend` is shown to be a bucketed charge
(`BucketLimit.Charge`) of the stored window, with no wrap-around.
-/

namespace AgentProof

/-- Why a contract call reverts: the custom errors of the hook and its
libraries, and the reverts the compiler inserts. -/
inductive Revert
  | notInstalled
  | alreadyInstalled
  | targetNotAllowed (target : Address)
  | belowMinBalance (balance minBalance : Uint256)
  | unsupportedCallType (callType : Byte)
  | unsupportedSelector (selector : Bytes4)
  | malformedExecution
  | policyMismatch (expected actual : Bytes32)
  | exceedsMaxTransaction (amount limit : Uint256)
  | exceedsDailyLimit (wouldBe limit : Uint256)
  | windowMovedBackwards (stored provided : Uint64)
  | arithmeticPanic
  | abiDecoding
  | tokenRefused
  | raised
  deriving DecidableEq, Repr

namespace PolicyLib

structure Limits where
  maxTransaction : Uint256
  dailyLimit : Uint256
  deriving DecidableEq, Repr

/-- The stored accumulator: `spent` is the outflow recorded within `day`. -/
@[ext]
structure Window where
  day : Uint64
  spent : Uint256
  deriving DecidableEq, Repr

/-- A cleared slot. -/
def Window.zero : Window := ⟨0, 0⟩

inductive Decision
  | allow
  | exceedsMaxTransaction
  | exceedsDailyLimit
  | windowMovedBackwards
  deriving DecidableEq, Repr

/-- `type(uint256).max`. -/
def maxUint256 : Uint256 := BitVec.allOnes 256

/-- The verified core: scalars in, scalars out, no reverts. -/
def evaluate (day : Uint64) (spent maxTransaction dailyLimit amount : Uint256) (today : Uint64) :
    Decision × Uint64 × Uint256 :=
  if today < day then (.windowMovedBackwards, day, spent)
  else if amount > maxTransaction then (.exceedsMaxTransaction, day, spent)
  else
    let base := if day = today then spent else 0
    -- the guard that keeps the checked addition below from panicking
    if amount > maxUint256 - base then (.exceedsDailyLimit, day, spent)
    else
      let wouldBe := base + amount
      if wouldBe > dailyLimit then (.exceedsDailyLimit, day, spent)
      else (.allow, today, wouldBe)

/-- `a + b` under Solidity 0.8: an overflow panics. -/
def checkedAdd (a b : Uint256) : Except Revert Uint256 :=
  if a.toNat + b.toNat < 2 ^ 256 then .ok (a + b) else .error .arithmeticPanic

/-- What of the window counts against a spend on `today`. -/
def Window.base (w : Window) (today : Uint64) : Uint256 :=
  if w.day = today then w.spent else 0

/-- Reverts exactly when the spend is not permitted. -/
def applySpend (w : Window) (l : Limits) (amount : Uint256) (today : Uint64) :
    Except Revert Window :=
  match evaluate w.day w.spent l.maxTransaction l.dailyLimit amount today with
  | (.windowMovedBackwards, _, _) => .error (.windowMovedBackwards w.day today)
  | (.exceedsMaxTransaction, _, _) => .error (.exceedsMaxTransaction amount l.maxTransaction)
  | (.exceedsDailyLimit, _, _) => do
      let wouldBe ← checkedAdd (w.base today) amount
      .error (.exceedsDailyLimit wouldBe l.dailyLimit)
  | (.allow, nextDay, nextSpent) => .ok ⟨nextDay, nextSpent⟩

/-- The daily allowance left, never negative. -/
def remainingToday (w : Window) (l : Limits) (today : Uint64) : Uint256 :=
  let base := w.base today
  if base ≥ l.dailyLimit then 0 else l.dailyLimit - base

/-! ## The accumulator as a bucketed charge -/

/-- The window over the natural numbers. -/
def Window.bucket (w : Window) : BucketLimit.Bucket Nat Nat :=
  ⟨w.day.toNat, w.spent.toNat⟩

theorem Window.bucket_base (w : Window) (today : Uint64) :
    w.bucket.base today.toNat = (w.base today).toNat := by
  by_cases same : w.day = today
  · simp [BucketLimit.Bucket.base, Window.bucket, Window.base, same]
  · have other : w.day.toNat ≠ today.toNat := fun h => same (BitVec.eq_of_toNat_eq h)
    simp [BucketLimit.Bucket.base, Window.bucket, Window.base, same, other]

theorem evaluate_base (w : Window) (maxTransaction dailyLimit amount : Uint256) (today : Uint64) :
    evaluate w.day w.spent maxTransaction dailyLimit amount today =
      if today < w.day then (.windowMovedBackwards, w.day, w.spent)
      else if amount > maxTransaction then (.exceedsMaxTransaction, w.day, w.spent)
      else if amount > maxUint256 - w.base today then (.exceedsDailyLimit, w.day, w.spent)
      else if w.base today + amount > dailyLimit then (.exceedsDailyLimit, w.day, w.spent)
      else (.allow, today, w.base today + amount) := rfl

/-- The core allows exactly the spends that stay in the current or a later day,
under the per-transaction ceiling and, as natural numbers, under the daily
limit. -/
theorem evaluate_eq_allow_iff {w : Window} {maxTransaction dailyLimit amount nextSpent : Uint256}
    {today nextDay : Uint64} :
    evaluate w.day w.spent maxTransaction dailyLimit amount today = (.allow, nextDay, nextSpent) ↔
      w.day ≤ today ∧ amount ≤ maxTransaction ∧
        (w.base today).toNat + amount.toNat ≤ dailyLimit.toNat ∧
        nextDay = today ∧ nextSpent = w.base today + amount := by
  have limit := dailyLimit.isLt
  rw [evaluate_base]
  generalize w.base today = base
  have room : (maxUint256 - base).toNat = 2 ^ 256 - 1 - base.toNat := by
    rw [maxUint256, BitVec.allOnes_sub_eq_not, BitVec.toNat_not]
  have sum : base.toNat + amount.toNat < 2 ^ 256 →
      (base + amount).toNat = base.toNat + amount.toNat := fun fits => by
    rw [BitVec.toNat_add, Nat.mod_eq_of_lt fits]
  simp only [gt_iff_lt, BitVec.lt_def, BitVec.le_def, room]
  split_ifs with backwards large overflow daily
  · simp only [Prod.mk.injEq, reduceCtorEq, false_and, false_iff]
    omega
  · simp only [Prod.mk.injEq, reduceCtorEq, false_and, false_iff]
    omega
  · simp only [Prod.mk.injEq, reduceCtorEq, false_and, false_iff]
    omega
  · rw [sum (by omega)] at daily
    simp only [Prod.mk.injEq, reduceCtorEq, false_and, false_iff]
    omega
  · rw [sum (by omega)] at daily
    have forward : w.day.toNat ≤ today.toNat := by omega
    have small : amount.toNat ≤ maxTransaction.toNat := by omega
    have within : base.toNat + amount.toNat ≤ dailyLimit.toNat := by omega
    simp only [Prod.mk.injEq, true_and, forward, small, within]
    exact and_congr eq_comm eq_comm

/-- A spend is applied exactly when the core allows it. -/
theorem applySpend_eq_ok_iff {w next : Window} {l : Limits} {amount : Uint256} {today : Uint64} :
    applySpend w l amount today = .ok next ↔
      w.day ≤ today ∧ amount ≤ l.maxTransaction ∧
        (w.base today).toNat + amount.toNat ≤ l.dailyLimit.toNat ∧
        next = ⟨today, w.base today + amount⟩ := by
  have core : applySpend w l amount today = .ok next ↔
      evaluate w.day w.spent l.maxTransaction l.dailyLimit amount today =
        (.allow, next.day, next.spent) := by
    unfold applySpend
    split <;> rename_i decided
    · simp [decided]
    · simp [decided]
    · rw [decided, checkedAdd]
      split <;> simp [bind, Except.bind]
    · simp [decided, Window.ext_iff]
  rw [core, evaluate_eq_allow_iff, Window.ext_iff]

/-- An applied spend is an accepted charge of the stored window. -/
theorem applySpend_charge {w next : Window} {l : Limits} {amount : Uint256} {today : Uint64}
    (applied : applySpend w l amount today = .ok next) :
    BucketLimit.Charge l.dailyLimit.toNat w.bucket today.toNat amount.toNat next.bucket := by
  obtain ⟨forward, -, within, rfl⟩ := applySpend_eq_ok_iff.mp applied
  have limit := l.dailyLimit.isLt
  have sum : (w.base today + amount).toNat = (w.base today).toNat + amount.toNat := by
    rw [BitVec.toNat_add, Nat.mod_eq_of_lt (by omega)]
  exact {
    forward := BitVec.le_def.mp forward
    within := by rwa [w.bucket_base]
    next := by rw [w.bucket_base, ← sum]; rfl }

end PolicyLib

end AgentProof
