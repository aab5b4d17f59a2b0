import Mathlib.Algebra.Order.Monoid.Canonical.Defs
import Mathlib.Tactic

/-!
# Bucketed spending limits

A limiter keeps one running total for the most recent bucket it has charged.
A charge is accepted for the current bucket or a later one, and only while the
bucket's total stays within the limit; a later bucket starts from zero.

`Covers` is what such a limiter knows about an outside account of the charges
(`charged`, a total per bucket): no bucket is over the limit, the running total
is at least the account of its own bucket, and no later bucket has been
charged.  It survives every accepted charge whether the outside account counts
that charge or not, so a limiter that charges more than the account records
still bounds the account.  `Tallies` is the case where every charge is counted:
the running total is the account.
-/

namespace BucketLimit

variable {K M : Type*}

/-- The most recent bucket and what has been charged to it. -/
structure Bucket (K M : Type*) where
  key : K
  spent : M

section Base

variable [DecidableEq K] [Zero M]

/-- What counts against a charge to bucket `k`. -/
def Bucket.base (b : Bucket K M) (k : K) : M :=
  if b.key = k then b.spent else 0

@[simp] theorem Bucket.base_self (b : Bucket K M) : b.base b.key = b.spent := if_pos rfl

theorem Bucket.base_of_ne {b : Bucket K M} {k : K} (other : b.key ≠ k) : b.base k = 0 :=
  if_neg other

end Base

/-! ## Exact accounts -/

section Tally

variable [LinearOrder K] [AddCommMonoid M] {b : Bucket K M} {charged : K → M} {k : K}

/-- The running total is the account of its own bucket, and no later bucket has been charged. -/
structure Tallies (b : Bucket K M) (charged : K → M) : Prop where
  recorded : charged b.key = b.spent
  later : ∀ k, b.key < k → charged k = 0

theorem Tallies.base_eq (tallies : Tallies b charged) (forward : b.key ≤ k) :
    b.base k = charged k := by
  rcases forward.eq_or_lt with rfl | later
  · rw [b.base_self, tallies.recorded]
  · rw [b.base_of_ne later.ne, tallies.later k later]

/-- A charge to its bucket or a later one keeps the account exact. -/
theorem Tallies.charge (tallies : Tallies b charged) (forward : b.key ≤ k) (amount : M) :
    Tallies ⟨k, b.base k + amount⟩ fun j => charged j + if k = j then amount else 0 where
  recorded := by rw [if_pos rfl, tallies.base_eq forward]
  later j later := by
    rw [if_neg later.ne, add_zero]
    exact tallies.later j (forward.trans_lt later)

end Tally

/-! ## Bounded accounts -/

variable [LinearOrder K] [AddCommMonoid M] [PartialOrder M]

/-- An accepted charge of `amount` to bucket `k`. -/
structure Charge (limit : M) (b : Bucket K M) (k : K) (amount : M) (b' : Bucket K M) : Prop where
  forward : b.key ≤ k
  within : b.base k + amount ≤ limit
  next : b' = ⟨k, b.base k + amount⟩

/-- The limiter bounds the per-bucket account `charged`. -/
structure Covers (limit : M) (b : Bucket K M) (charged : K → M) : Prop where
  within : ∀ k, charged k ≤ limit
  recorded : charged b.key ≤ b.spent
  later : ∀ k, b.key < k → charged k = 0

variable [CanonicallyOrderedAdd M]

/-- Before anything has been charged every limiter covers the empty account. -/
theorem Covers.empty (limit : M) (b : Bucket K M) : Covers limit b fun _ => 0 where
  within _ := zero_le
  recorded := zero_le
  later _ _ := rfl

/-- The account of a bucket is never above what counts against the next charge. -/
theorem Covers.le_base {limit : M} {b : Bucket K M} {charged : K → M} {k : K}
    (covers : Covers limit b charged) (forward : b.key ≤ k) : charged k ≤ b.base k := by
  rcases forward.eq_or_lt with rfl | later
  · rw [b.base_self]
    exact covers.recorded
  · rw [covers.later k later]
    exact zero_le

variable [IsOrderedAddMonoid M]

/-- A charge the account does not count keeps the limiter above the account. -/
theorem Covers.charge_uncounted {limit : M} {b b' : Bucket K M} {charged : K → M} {k : K}
    {amount : M} (covers : Covers limit b charged) (charge : Charge limit b k amount b') :
    Covers limit b' charged := by
  obtain ⟨forward, -, rfl⟩ := charge
  refine ⟨covers.within, ?_, fun j later => covers.later j (forward.trans_lt later)⟩
  exact (covers.le_base forward).trans (le_add_of_nonneg_right (zero_le))

/-- A charge the account counts keeps the limiter above the account. -/
theorem Covers.charge_counted {limit : M} {b b' : Bucket K M} {charged : K → M} {k : K}
    {amount : M} (covers : Covers limit b charged) (charge : Charge limit b k amount b') :
    Covers limit b' (Function.update charged k (charged k + amount)) := by
  obtain ⟨forward, within, rfl⟩ := charge
  have raised : charged k + amount ≤ b.base k + amount :=
    add_le_add_left (covers.le_base forward) amount
  refine ⟨fun j => ?_, ?_, fun j later => ?_⟩
  · rcases eq_or_ne j k with rfl | other
    · rw [Function.update_self]
      exact raised.trans within
    · rw [Function.update_of_ne other]
      exact covers.within j
  · rw [Function.update_self]
    exact raised
  · rw [Function.update_of_ne later.ne']
    exact covers.later j (forward.trans_lt later)

end BucketLimit
