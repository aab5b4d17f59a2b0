import Mathlib.Algebra.BigOperators.Group.Finset.Basic
import Mathlib.Algebra.Order.BigOperators.Group.Finset
import Mathlib.Tactic

/-!
# Token ledgers with conserved supply

A fungible-token ledger over an arbitrary type of holders: balances,
allowances and the supply they add up to.  The supply bound and the word bound
`cap` are fields, so a ledger whose balances overflow cannot be built and no
two holders can together exceed the supply.  `move` and `setAllowance` are the
only two ways the token functions change a ledger.
-/

/-- Balances and allowances of one token, all below `cap`. -/
structure TokenLedger (H : Type*) (cap : Nat) where
  balance : H → Nat
  allowance : H → H → Nat
  supply : Nat
  balances_le : ∀ holders : Finset H, ∑ h ∈ holders, balance h ≤ supply
  supply_lt : supply < cap
  allowance_lt : ∀ owner spender, allowance owner spender < cap

namespace TokenLedger

variable {H : Type*} {cap : Nat}

theorem balance_le_supply (l : TokenLedger H cap) (h : H) : l.balance h ≤ l.supply := by
  simpa using l.balances_le {h}

theorem balance_lt (l : TokenLedger H cap) (h : H) : l.balance h < cap :=
  (l.balance_le_supply h).trans_lt l.supply_lt

variable [DecidableEq H]

/-- A token whose whole supply is with one holder. -/
def issued (holder : H) (amount : Nat) (fits : amount < cap) : TokenLedger H cap where
  balance h := if h = holder then amount else 0
  allowance _ _ := 0
  supply := amount
  balances_le holders := by
    rw [Finset.sum_ite_eq']
    split_ifs
    · exact le_rfl
    · exact Nat.zero_le amount
  supply_lt := fits
  allowance_lt _ _ := (Nat.zero_le amount).trans_lt fits

/-- Balances after `amount` has gone from `src` to `dst`: the debit first, then
the credit, so that a self-transfer changes nothing. -/
def movedBalance (balance : H → Nat) (src dst : H) (amount : Nat) : H → Nat :=
  let debited := Function.update balance src (balance src - amount)
  Function.update debited dst (debited dst + amount)

/-- Overwriting one balance shifts the sum by the difference. -/
theorem sum_update_add (balance : H → Nat) {h : H} {holders : Finset H} (mem : h ∈ holders)
    (amount : Nat) :
    ∑ x ∈ holders, Function.update balance h amount x + balance h =
      ∑ x ∈ holders, balance x + amount := by
  have rest : ∑ x ∈ holders.erase h, Function.update balance h amount x =
      ∑ x ∈ holders.erase h, balance x :=
    Finset.sum_congr rfl fun x other => by
      rw [Function.update_of_ne (Finset.ne_of_mem_erase other)]
  rw [← Finset.add_sum_erase holders balance mem,
    ← Finset.add_sum_erase holders (Function.update balance h amount) mem, rest,
    Function.update_self]
  omega

/-- A move keeps the sum over any holders that include both ends. -/
theorem sum_movedBalance {balance : H → Nat} {src dst : H} {amount : Nat}
    (covered : amount ≤ balance src) {holders : Finset H} (srcMem : src ∈ holders)
    (dstMem : dst ∈ holders) :
    ∑ h ∈ holders, movedBalance balance src dst amount h = ∑ h ∈ holders, balance h := by
  have debit := sum_update_add balance srcMem (balance src - amount)
  have credit := sum_update_add (Function.update balance src (balance src - amount)) dstMem
    (Function.update balance src (balance src - amount) dst + amount)
  simp only [movedBalance]
  omega

/-- Move `amount`, which `src` holds, to `dst`. -/
def move (l : TokenLedger H cap) (src dst : H) (amount : Nat) (covered : amount ≤ l.balance src) :
    TokenLedger H cap where
  balance := movedBalance l.balance src dst amount
  allowance := l.allowance
  supply := l.supply
  balances_le holders := by
    have grow : ∑ h ∈ holders, movedBalance l.balance src dst amount h ≤
        ∑ h ∈ insert src (insert dst holders), movedBalance l.balance src dst amount h :=
      Finset.sum_le_sum_of_subset
        ((Finset.subset_insert dst holders).trans (Finset.subset_insert src _))
    have same := sum_movedBalance covered (Finset.mem_insert_self src (insert dst holders))
      (Finset.mem_insert_of_mem (Finset.mem_insert_self dst holders))
    exact (grow.trans_eq same).trans (l.balances_le _)
  supply_lt := l.supply_lt
  allowance_lt := l.allowance_lt

/-- Set what `spender` may draw from `owner`. -/
def setAllowance (l : TokenLedger H cap) (owner spender : H) (amount : Nat) (fits : amount < cap) :
    TokenLedger H cap where
  balance := l.balance
  allowance := Function.update l.allowance owner
    (Function.update (l.allowance owner) spender amount)
  supply := l.supply
  balances_le := l.balances_le
  supply_lt := l.supply_lt
  allowance_lt o s := by
    rcases eq_or_ne o owner with rfl | other
    · rw [Function.update_self]
      rcases eq_or_ne s spender with rfl | other
      · rwa [Function.update_self]
      · rw [Function.update_of_ne other]
        exact l.allowance_lt o s
    · rw [Function.update_of_ne other]
      exact l.allowance_lt o s

section Move

variable {l : TokenLedger H cap} {src dst : H} {amount : Nat} {covered : amount ≤ l.balance src}

theorem move_balance_src (distinct : src ≠ dst) :
    (l.move src dst amount covered).balance src = l.balance src - amount := by
  simp [move, movedBalance, Function.update_of_ne distinct]

theorem move_balance_self {covered : amount ≤ l.balance src} :
    (l.move src src amount covered).balance src = l.balance src := by
  simp only [move, movedBalance, Function.update_self]
  omega

/-- Nobody but the receiver gains. -/
theorem move_balance_le {h : H} (other : h ≠ dst) :
    (l.move src dst amount covered).balance h ≤ l.balance h := by
  simp only [move, movedBalance, Function.update_of_ne other]
  rcases eq_or_ne h src with rfl | outside
  · rw [Function.update_self]
    omega
  · rw [Function.update_of_ne outside]

end Move

section SetAllowance

variable {l : TokenLedger H cap} {owner spender : H} {amount : Nat} {fits : amount < cap}

@[simp] theorem setAllowance_balance :
    (l.setAllowance owner spender amount fits).balance = l.balance := rfl

@[simp] theorem setAllowance_allowance_self :
    (l.setAllowance owner spender amount fits).allowance owner spender = amount := by
  simp [setAllowance]

theorem setAllowance_allowance_of_ne {o s : H} (other : ¬ (o = owner ∧ s = spender)) :
    (l.setAllowance owner spender amount fits).allowance o s = l.allowance o s := by
  simp only [setAllowance]
  rcases eq_or_ne o owner with rfl | outside
  · rw [Function.update_self, Function.update_of_ne fun same => other ⟨rfl, same⟩]
  · rw [Function.update_of_ne outside]

end SetAllowance

end TokenLedger
