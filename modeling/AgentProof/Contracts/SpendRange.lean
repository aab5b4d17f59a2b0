import AgentProof.Contracts.PolicyLib

/-!
# PolicyLib over the machine range

What the core decides for every window, limit, amount and day that a word can
hold, and what the adapter makes of each decision.  The core refuses a sum that
does not fit a word before it is formed.  The adapter forms it again, to report
it, with a checked addition.
-/

namespace AgentProof

namespace PolicyLib

/-! ## The core -/

section Core

variable {w : Window} {l : Limits} {amount : Uint256} {today : Uint64}

/-- The decision on a stored window. -/
def evaluateOn (w : Window) (l : Limits) (amount : Uint256) (today : Uint64) :
    Decision × Uint64 × Uint256 :=
  evaluate w.day w.spent l.maxTransaction l.dailyLimit amount today

/-- The spend is not before the window's day, under the ceiling, and within the day's limit as
natural numbers. -/
structure Permitted (w : Window) (l : Limits) (amount : Uint256) (today : Uint64) : Prop where
  forward : w.day ≤ today
  ceiling : amount ≤ l.maxTransaction
  within : (w.base today).toNat + amount.toNat ≤ l.dailyLimit.toNat

/-- The sum of a permitted spend is a word. -/
theorem Permitted.sum (permitted : Permitted w l amount today) :
    (w.base today + amount).toNat = (w.base today).toNat + amount.toNat := by
  have within := permitted.within
  have limit := l.dailyLimit.isLt
  rw [BitVec.toNat_add, Nat.mod_eq_of_lt (by omega)]

theorem evaluateOn_of_permitted (permitted : Permitted w l amount today) :
    evaluateOn w l amount today = (.allow, today, w.base today + amount) :=
  evaluate_eq_allow_iff.mpr
    ⟨permitted.forward, permitted.ceiling, permitted.within, rfl, rfl⟩

/-- Which of the three refusals it is, each with the window as it was. -/
inductive Refusal (w : Window) (l : Limits) (amount : Uint256) (today : Uint64) : Decision → Prop
  | windowMovedBackwards (backwards : today < w.day) : Refusal w l amount today .windowMovedBackwards
  | exceedsMaxTransaction (forward : w.day ≤ today) (large : l.maxTransaction < amount) :
      Refusal w l amount today .exceedsMaxTransaction
  | exceedsDailyLimit (forward : w.day ≤ today) (small : amount ≤ l.maxTransaction)
      (excess : l.dailyLimit.toNat < (w.base today).toNat + amount.toNat) :
      Refusal w l amount today .exceedsDailyLimit

/-- A sum that overflows is over the limit as well. -/
theorem evaluateOn_cases (w : Window) (l : Limits) (amount : Uint256) (today : Uint64) :
    Permitted w l amount today ∨
      ∃ decision, Refusal w l amount today decision ∧
        evaluateOn w l amount today = (decision, w.day, w.spent) := by
  by_cases backwards : today < w.day
  · exact .inr ⟨_, .windowMovedBackwards backwards,
      by rw [evaluateOn, evaluate_base, if_pos backwards]⟩
  have forward : w.day ≤ today := BitVec.not_lt.mp backwards
  by_cases large : l.maxTransaction < amount
  · refine .inr ⟨_, .exceedsMaxTransaction forward large, ?_⟩
    rw [evaluateOn, evaluate_base, if_neg backwards, if_pos large]
  have small : amount ≤ l.maxTransaction := BitVec.not_lt.mp large
  by_cases within : (w.base today).toNat + amount.toNat ≤ l.dailyLimit.toNat
  · exact .inl ⟨forward, small, within⟩
  refine .inr ⟨_, .exceedsDailyLimit forward small (not_le.mp within), ?_⟩
  rw [evaluateOn, evaluate_base, if_neg backwards, if_neg large]
  by_cases overflow : amount > maxUint256 - w.base today
  · rw [if_pos overflow]
  have room : (maxUint256 - w.base today).toNat = 2 ^ 256 - 1 - (w.base today).toNat := by
    rw [maxUint256, BitVec.allOnes_sub_eq_not, BitVec.toNat_not]
  have fits : (w.base today).toNat + amount.toNat < 2 ^ 256 := by
    rw [gt_iff_lt, BitVec.lt_def, room] at overflow
    omega
  have beyond : w.base today + amount > l.dailyLimit := by
    rw [gt_iff_lt, BitVec.lt_def, BitVec.toNat_add, Nat.mod_eq_of_lt fits]
    exact not_le.mp within
  rw [if_neg overflow, if_pos beyond]

theorem Refusal.ne_allow {decision : Decision} (refusal : Refusal w l amount today decision) :
    decision ≠ .allow := by
  cases refusal <;> decide

theorem Refusal.not_permitted {decision : Decision} (refusal : Refusal w l amount today decision) :
    ¬ Permitted w l amount today := by
  rintro ⟨forward, ceiling, within⟩
  cases refusal with
  | windowMovedBackwards backwards => exact absurd forward (BitVec.not_le.mpr backwards)
  | exceedsMaxTransaction _ large => exact absurd ceiling (BitVec.not_le.mpr large)
  | exceedsDailyLimit _ _ excess => exact absurd within (not_le.mpr excess)

end Core

/-! ## The adapter -/

/-- The custom error a decision names, with the sum of an excess as a natural number. -/
inductive Names (w : Window) (l : Limits) (amount : Uint256) (today : Uint64) :
    Decision → Revert → Prop
  | windowMovedBackwards :
      Names w l amount today .windowMovedBackwards (.windowMovedBackwards w.day today)
  | exceedsMaxTransaction :
      Names w l amount today .exceedsMaxTransaction (.exceedsMaxTransaction amount l.maxTransaction)
  | exceedsDailyLimit {wouldBe : Uint256}
      (sum : wouldBe.toNat = (w.base today).toNat + amount.toNat) :
      Names w l amount today .exceedsDailyLimit (.exceedsDailyLimit wouldBe l.dailyLimit)

/-- What the core and the adapter are to do with a spend. -/
structure Adapts (w : Window) (l : Limits) (amount : Uint256) (today : Uint64) : Prop where
  allows_iff : (evaluateOn w l amount today).1 = .allow ↔ Permitted w l amount today
  next : (evaluateOn w l amount today).1 = .allow → (evaluateOn w l amount today).2.1 = today ∧
    (evaluateOn w l amount today).2.2.toNat = (w.base today).toNat + amount.toNat
  unchanged : (evaluateOn w l amount today).1 ≠ .allow →
    (evaluateOn w l amount today).2 = (w.day, w.spent)
  applies_iff : ∀ next, applySpend w l amount today = .ok next ↔
    evaluateOn w l amount today = (.allow, next.day, next.spent)
  reverts : (evaluateOn w l amount today).1 ≠ .allow → ∃ e,
    applySpend w l amount today = .error e ∧ Names w l amount today (evaluateOn w l amount today).1 e

section Adapter

variable {w next : Window} {l : Limits} {amount : Uint256} {today : Uint64}

/-- The sum that the adapter is to report does not fit a word. -/
structure Overflows (w : Window) (l : Limits) (amount : Uint256) (today : Uint64) : Prop where
  forward : w.day ≤ today
  ceiling : amount ≤ l.maxTransaction
  overflow : 2 ^ 256 ≤ (w.base today).toNat + amount.toNat

theorem applySpend_eq_ok_iff_evaluateOn : applySpend w l amount today = .ok next ↔
    evaluateOn w l amount today = (.allow, next.day, next.spent) := by
  rw [applySpend_eq_ok_iff, evaluateOn, evaluate_eq_allow_iff, Window.ext_iff]

/-- Which error a refused spend reverts with. -/
theorem applySpend_of_refusal {decision : Decision} (refusal : Refusal w l amount today decision)
    (decided : evaluateOn w l amount today = (decision, w.day, w.spent)) :
    ∃ e, applySpend w l amount today = .error e ∧
      (Names w l amount today decision e ↔ ¬ Overflows w l amount today) := by
  unfold evaluateOn at decided
  cases refusal with
  | windowMovedBackwards backwards =>
      refine ⟨_, by rw [applySpend, decided], iff_of_true .windowMovedBackwards fun overflows => ?_⟩
      exact absurd overflows.forward (BitVec.not_le.mpr backwards)
  | exceedsMaxTransaction forward large =>
      refine ⟨_, by rw [applySpend, decided], iff_of_true .exceedsMaxTransaction fun overflows => ?_⟩
      exact absurd overflows.ceiling (BitVec.not_le.mpr large)
  | exceedsDailyLimit forward small excess =>
      by_cases fits : (w.base today).toNat + amount.toNat < 2 ^ 256
      · have sum : (w.base today + amount).toNat = (w.base today).toNat + amount.toNat := by
          rw [BitVec.toNat_add, Nat.mod_eq_of_lt fits]
        refine ⟨.exceedsDailyLimit (w.base today + amount) l.dailyLimit, ?_,
          iff_of_true (.exceedsDailyLimit sum) fun overflows => ?_⟩
        · simp only [applySpend, decided, checkedAdd, if_pos fits, bind, Except.bind]
        · exact absurd overflows.overflow (not_le.mpr fits)
      · have unnamed : ¬ Names w l amount today .exceedsDailyLimit .arithmeticPanic := by
          intro named
          cases named
        refine ⟨.arithmeticPanic, ?_, iff_of_false unnamed (not_not.mpr ?_)⟩
        · simp only [applySpend, decided, checkedAdd, if_neg fits, bind, Except.bind]
        · exact ⟨forward, small, not_lt.mp fits⟩

/-- The core decides every spend as it should, and the adapter follows it exactly when the sum that
it recomputes to report an excess fits a word. -/
theorem adapts_iff (w : Window) (l : Limits) (amount : Uint256) (today : Uint64) :
    Adapts w l amount today ↔ ¬ Overflows w l amount today := by
  rcases evaluateOn_cases w l amount today with permitted | ⟨decision, refusal, decided⟩
  · have decided := evaluateOn_of_permitted permitted
    have room : ¬ Overflows w l amount today := fun overflows => by
      have within := permitted.within
      have overflow := overflows.overflow
      have limit := l.dailyLimit.isLt
      omega
    refine iff_of_true ⟨?_, ?_, ?_, fun _ => applySpend_eq_ok_iff_evaluateOn, ?_⟩ room
    · rw [decided]
      exact iff_of_true rfl permitted
    · rw [decided]
      exact fun _ => ⟨rfl, permitted.sum⟩
    · rw [decided]
      exact fun refused => absurd rfl refused
    · rw [decided]
      exact fun refused => absurd rfl refused
  · obtain ⟨e, reverts, named⟩ := applySpend_of_refusal refusal decided
    have refused := refusal.ne_allow
    rw [← named]
    constructor
    · intro adapts
      obtain ⟨e', reverts', named'⟩ := adapts.reverts (by rw [decided]; exact refused)
      rw [reverts, Except.error.injEq] at reverts'
      rw [decided] at named'
      rw [reverts']
      exact named'
    · intro names
      refine ⟨?_, ?_, ?_, fun _ => applySpend_eq_ok_iff_evaluateOn, ?_⟩
      · rw [decided]
        exact iff_of_false refused refusal.not_permitted
      · rw [decided]
        exact fun allows => absurd allows refused
      · rw [decided]
        exact fun _ => rfl
      · rw [decided]
        exact fun _ => ⟨e, reverts, names⟩

/-- One unit spent, and no ceiling on a transaction: the largest word panics. -/
theorem not_adapts_maxUint256 :
    applySpend ⟨0, 1⟩ ⟨maxUint256, 500⟩ maxUint256 0 = .error .arithmeticPanic ∧
      (evaluateOn ⟨0, 1⟩ ⟨maxUint256, 500⟩ maxUint256 0).1 = .exceedsDailyLimit ∧
      ¬ Adapts ⟨0, 1⟩ ⟨maxUint256, 500⟩ maxUint256 0 := by
  have panics : applySpend ⟨0, 1⟩ ⟨maxUint256, 500⟩ maxUint256 0 = .error .arithmeticPanic := by
    decide +kernel
  have refused : (evaluateOn ⟨0, 1⟩ ⟨maxUint256, 500⟩ maxUint256 0).1 = .exceedsDailyLimit := by
    decide +kernel
  refine ⟨panics, refused, fun adapts => ?_⟩
  obtain ⟨e, reverts, named⟩ := adapts.reverts (by rw [refused]; decide)
  rw [panics, Except.error.injEq] at reverts
  rw [← reverts] at named
  cases named

end Adapter

end PolicyLib

end AgentProof
