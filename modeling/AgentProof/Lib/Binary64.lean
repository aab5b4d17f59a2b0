import Mathlib.Data.Int.Log
import Mathlib.Data.Rat.Floor
import Mathlib.Tactic

/-!
# Doubles

The numbers of the binary64 format, a finite one by its value, so that the two zeros
are one.  `round` takes a rational to the nearest double, of two the one with the even
significand, and to an infinity where the exponents end.  An integer is rounded to an
integer, off by one part in `2^53` at most.
-/

namespace Binary64

inductive Double
  | nan
  | infinite (negative : Bool)
  | finite (value : Rat)
  deriving DecidableEq, Repr

/-- The nearest integer, of two the even one. -/
def halfEven (q : Rat) : Int :=
  let rest := q - ⌊q⌋
  if rest < 1 / 2 then ⌊q⌋
  else if 1 / 2 < rest then ⌊q⌋ + 1
  else if ⌊q⌋ % 2 = 0 then ⌊q⌋ else ⌊q⌋ + 1

/-- The distance of the doubles around a positive rational. -/
def unit (q : Rat) : Rat := 2 ^ max (Int.log 2 q - 52) (-1074)

/-- The nearest double, if the exponents had no end. -/
def nearest (q : Rat) : Rat := halfEven (q / unit q) * unit q

namespace Double

def neg : Double → Double
  | nan => nan
  | infinite negative => infinite !negative
  | finite value => finite (-value)

/-- A positive rational. -/
def roundPos (q : Rat) : Double :=
  if nearest q < 2 ^ 1024 then finite (nearest q) else infinite false

def round (q : Rat) : Double :=
  if q = 0 then finite 0 else if q < 0 then neg (roundPos (-q)) else roundPos q

def mul : Double → Double → Double
  | nan, _ | _, nan => nan
  | infinite s, infinite t => infinite (s != t)
  | infinite s, finite v | finite v, infinite s =>
      if v = 0 then nan else infinite (s != decide (v < 0))
  | finite v, finite w => round (v * w)

/-- `x > y`, which no comparison with `nan` is. -/
def gt : Double → Double → Bool
  | nan, _ | _, nan => false
  | infinite s, infinite t => !s && t
  | infinite s, finite _ => !s
  | finite _, infinite t => t
  | finite v, finite w => v > w

/-- `x <= y`, which no comparison with `nan` is either. -/
def le : Double → Double → Bool
  | nan, _ | _, nan => false
  | x, y => !gt x y

/-- To the nearest integer, of two the larger one. -/
def roundHalfUp : Double → Double
  | finite v => finite ⌊v + 1 / 2⌋
  | x => x

end Double

/-! ## Order -/

theorem abs_halfEven_sub_le (q : Rat) : |(halfEven q : Rat) - q| ≤ 1 / 2 := by
  have low := Int.floor_le q
  have high := Int.lt_floor_add_one q
  rw [halfEven, abs_le]
  split_ifs <;> push_cast <;> constructor <;> linarith

theorem halfEven_intCast (n : Int) : halfEven n = n := by
  rw [halfEven, Int.floor_intCast, sub_self, if_pos (by norm_num)]

theorem floor_le_halfEven (q : Rat) : ⌊q⌋ ≤ halfEven q ∧ halfEven q ≤ ⌊q⌋ + 1 := by
  rw [halfEven]
  split_ifs <;> omega

theorem halfEven_mono {p q : Rat} (le : p ≤ q) : halfEven p ≤ halfEven q := by
  rcases (Int.floor_mono le).lt_or_eq with below | same
  · have above := (floor_le_halfEven p).2
    have under := (floor_le_halfEven q).1
    omega
  · -- of the same integer part, the larger one has the larger rest
    have rests : p - ⌊p⌋ ≤ q - ⌊q⌋ := by
      rw [same]
      exact sub_le_sub_right le _
    rw [halfEven, halfEven, same] at *
    split_ifs <;> first | omega | linarith

theorem unit_pos (q : Rat) : 0 < unit q := zpow_pos (by norm_num) _

/-- A significand has 53 digits at most. -/
theorem div_unit_le (q : Rat) : q / unit q ≤ (2 ^ 53 : Int) := by
  have below : q < 2 ^ (Int.log 2 q + 1) := Int.lt_zpow_succ_log_self (by norm_num) q
  have least : (2 : Rat) ^ (Int.log 2 q - 52) ≤ unit q :=
    zpow_le_zpow_right₀ (by norm_num) (le_max_left _ _)
  have scaled : (2 : Rat) ^ (Int.log 2 q + 1) = 2 ^ 53 * 2 ^ (Int.log 2 q - 52) := by
    rw [← zpow_natCast, ← zpow_add₀ (by norm_num)]
    congr 1
    omega
  rw [div_le_iff₀ (unit_pos q)]
  push_cast
  linarith

/-- Above the subnormal numbers it has exactly that many. -/
theorem le_div_unit {q : Rat} (pos : 0 < q) (normal : -1074 ≤ Int.log 2 q - 52) :
    ((2 ^ 52 : Int) : Rat) ≤ q / unit q := by
  have above : (2 : Rat) ^ Int.log 2 q ≤ q := Int.zpow_log_le_self (by norm_num) pos
  have scaled : (2 : Rat) ^ Int.log 2 q = 2 ^ 52 * 2 ^ (Int.log 2 q - 52) := by
    rw [← zpow_natCast, ← zpow_add₀ (by norm_num)]
    congr 1
    omega
  rw [le_div_iff₀ (unit_pos q), unit, max_eq_left normal]
  push_cast
  linarith

theorem nearest_mono {p q : Rat} (pos : 0 < p) (le : p ≤ q) : nearest p ≤ nearest q := by
  have later : Int.log 2 p ≤ Int.log 2 q := Int.log_mono_right pos le
  rcases (max_le_max_right (-1074) (sub_le_sub_right later 52)).lt_or_eq with below | same
  · -- a power of two stands between them
    have high : halfEven (p / unit p) ≤ 2 ^ 53 :=
      (halfEven_mono (div_unit_le p)).trans (halfEven_intCast _).le
    have low : 2 ^ 52 ≤ halfEven (q / unit q) :=
      (halfEven_intCast _).ge.trans (halfEven_mono (le_div_unit (pos.trans_le le) (by omega)))
    have units : 2 * unit p ≤ unit q := by
      rw [unit, unit, mul_comm, ← zpow_add_one₀ (by norm_num)]
      exact zpow_le_zpow_right₀ (by norm_num) below
    calc nearest p ≤ 2 ^ 53 * unit p :=
          mul_le_mul_of_nonneg_right (by exact_mod_cast high) (unit_pos p).le
      _ = 2 ^ 52 * (2 * unit p) := by ring
      _ ≤ 2 ^ 52 * unit q := mul_le_mul_of_nonneg_left units (by norm_num)
      _ ≤ nearest q := mul_le_mul_of_nonneg_right (by exact_mod_cast low) (unit_pos q).le
  · have units : unit p = unit q := by rw [unit, unit, same]
    have pos_q := unit_pos q
    rw [nearest, nearest, units]
    have rounded := halfEven_mono (div_le_div_of_nonneg_right le pos_q.le)
    exact mul_le_mul_of_nonneg_right (Int.cast_le.mpr rounded) pos_q.le

/-! ## Integers -/

theorem unit_natCast (n : Nat) : unit n = 2 ^ ((Nat.log 2 n : Int) - 52) := by
  rw [unit, Int.log_natCast, max_eq_left (by omega)]

/-- Up to 53 digits nothing is rounded. -/
theorem nearest_of_le {n : Nat} (short : Nat.log 2 n ≤ 52) : nearest n = n := by
  have unit_eq : unit n = (2 ^ (52 - Nat.log 2 n))⁻¹ := by
    rw [unit_natCast, ← zpow_natCast, ← zpow_neg]
    congr 1
    omega
  have integer : (n : Rat) / unit n = ((n * 2 ^ (52 - Nat.log 2 n) : Nat) : Int) := by
    rw [unit_eq, div_inv_eq_mul]
    push_cast
    rfl
  rw [nearest, integer, halfEven_intCast, ← integer, div_mul_cancel₀ _ (unit_pos n).ne']

/-- Beyond that the distance between doubles is an integer of 52 digits less. -/
theorem nearest_of_gt {n : Nat} (long : 52 < Nat.log 2 n) :
    ∃ m : Nat, |(m : Rat) - n| * 2 ^ 53 ≤ n ∧ nearest n = m := by
  have nonzero : n ≠ 0 := by
    rintro rfl
    exact absurd long (by simp)
  have unit_eq : unit n = ((2 ^ (Nat.log 2 n - 52) : Nat) : Rat) := by
    rw [unit_natCast, Nat.cast_pow, Nat.cast_ofNat, ← zpow_natCast]
    congr 1
    omega
  have pos := unit_pos n
  have large : unit n * 2 ^ 52 ≤ n := by
    have power := Nat.pow_log_le_self 2 nonzero
    have split : 2 ^ (Nat.log 2 n - 52) * 2 ^ 52 = 2 ^ Nat.log 2 n := by
      rw [← pow_add, Nat.sub_add_cancel long.le]
    rw [unit_eq]
    exact_mod_cast split.le.trans power
  have close := abs_halfEven_sub_le (n / unit n)
  have least : (2 : Rat) ^ 52 ≤ n / unit n := (le_div_iff₀' pos).mpr large
  have positive : 0 < halfEven (n / unit n) := by
    have below := (abs_le.mp close).1
    have halves : (0 : Rat) < halfEven (n / unit n) := by linarith
    exact_mod_cast halves
  obtain ⟨k, count⟩ := Int.eq_ofNat_of_zero_le positive.le
  rw [count] at close
  have value : ((k * 2 ^ (Nat.log 2 n - 52) : Nat) : Rat) = k * unit n := by
    rw [unit_eq, Nat.cast_mul]
  refine ⟨k * 2 ^ (Nat.log 2 n - 52), ?_, ?_⟩
  · have off : |(k : Rat) * unit n - n| ≤ unit n / 2 := by
      have split : (k : Rat) * unit n - n = (k - n / unit n) * unit n := by
        rw [sub_mul, div_mul_cancel₀ _ pos.ne']
      rw [split, abs_mul, abs_of_pos pos]
      have half := mul_le_mul_of_nonneg_right close pos.le
      rw [Int.cast_natCast] at half
      linarith
    rw [value]
    linarith
  · rw [value, nearest, count, Int.cast_natCast]

/-- A natural number is rounded to one close by. -/
theorem nearest_natCast (n : Nat) :
    ∃ m : Nat, |(m : Rat) - n| * 2 ^ 53 ≤ n ∧ nearest n = m := by
  rcases le_or_gt (Nat.log 2 n) 52 with short | long
  · refine ⟨n, ?_, nearest_of_le short⟩
    rw [sub_self, abs_zero, zero_mul]
    exact Nat.cast_nonneg n
  · exact nearest_of_gt long

theorem nearest_pos {n : Nat} (pos : 0 < n) : 0 < nearest n := by
  have one : nearest ((1 : Nat) : Rat) = (1 : Nat) := nearest_of_le (by norm_num)
  have least : nearest ((1 : Nat) : Rat) ≤ nearest n :=
    nearest_mono (by norm_num) (Nat.cast_le.mpr pos)
  rw [one, Nat.cast_one] at least
  exact one_pos.trans_le least

theorem round_of_pos {q : Rat} (pos : 0 < q) :
    Double.round q = if nearest q < 2 ^ 1024 then .finite (nearest q) else .infinite false := by
  rw [Double.round, if_neg pos.ne', if_neg pos.not_gt, Double.roundPos]

end Binary64
