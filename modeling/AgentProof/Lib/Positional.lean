import Mathlib.Tactic

/-!
# Fixed-width positional numerals

Big-endian digit lists over an arbitrary base.  `Positional.value` reads a
list of digits, `Positional.digits` writes a number into a given number of
digit positions.  The two are inverse on in-range digits, concatenation is a
shift, and one digit of a square base is a pair of digits of its root, which
is what relates a byte string to its hexadecimal rendering.
-/

namespace Positional

/-- The number a big-endian digit list denotes in base `b`. -/
def value (b : Nat) (ds : List Nat) : Nat :=
  ds.foldl (fun acc d => acc * b + d) 0

/-- The low `n` digits of `v` in base `b`, most significant first. -/
def digits (b : Nat) : Nat → Nat → List Nat
  | 0, _ => []
  | n + 1, v => digits b n (v / b) ++ [v % b]

@[simp] theorem value_nil (b : Nat) : value b [] = 0 := rfl

@[simp] theorem value_concat (b : Nat) (ds : List Nat) (d : Nat) :
    value b (ds ++ [d]) = value b ds * b + d := by
  simp only [value, List.foldl_append, List.foldl_cons, List.foldl_nil]

/-- Appending digits shifts the leading part past them. -/
theorem value_append (b : Nat) (ds es : List Nat) :
    value b (ds ++ es) = value b ds * b ^ es.length + value b es := by
  induction es using List.reverseRecOn with
  | nil => simp
  | append_singleton es e ih =>
      rw [← List.append_assoc, value_concat, value_concat, ih, List.length_append,
        List.length_singleton, pow_succ]
      ring

theorem value_cons (b d : Nat) (ds : List Nat) :
    value b (d :: ds) = d * b ^ ds.length + value b ds := by
  have split := value_append b [d] ds
  simpa [value] using split

theorem value_lt {b : Nat} {ds : List Nat} (inRange : ∀ d ∈ ds, d < b) :
    value b ds < b ^ ds.length := by
  induction ds using List.reverseRecOn with
  | nil => simp
  | append_singleton ds d ih =>
      have lead := ih fun e mem => inRange e (List.mem_append_left _ mem)
      have last := inRange d (by simp)
      rw [value_concat, List.length_append, List.length_singleton, pow_succ]
      calc value b ds * b + d < value b ds * b + b := by omega
        _ = (value b ds + 1) * b := by ring
        _ ≤ b ^ ds.length * b := Nat.mul_le_mul_right b lead

@[simp] theorem digits_zero (b v : Nat) : digits b 0 v = [] := rfl

@[simp] theorem length_digits (b n v : Nat) : (digits b n v).length = n := by
  induction n generalizing v with
  | zero => rfl
  | succ n ih => simp [digits, ih]

theorem lt_of_mem_digits {b n v d : Nat} (pos : 0 < b) (mem : d ∈ digits b n v) : d < b := by
  induction n generalizing v with
  | zero => simp at mem
  | succ n ih =>
      rcases List.mem_append.mp mem with lead | last
      · exact ih lead
      · rw [List.mem_singleton.mp last]
        exact Nat.mod_lt v pos

/-- Writing and reading back keeps the number modulo the width. -/
theorem value_digits (b n v : Nat) : value b (digits b n v) = v % b ^ n := by
  induction n generalizing v with
  | zero => simp [Nat.mod_one]
  | succ n ih =>
      rw [digits, value_concat, ih, pow_succ', Nat.mod_mul]
      ring

/-- Reading and writing back keeps the digits. -/
theorem digits_value {b : Nat} {ds : List Nat} (inRange : ∀ d ∈ ds, d < b) :
    digits b ds.length (value b ds) = ds := by
  induction ds using List.reverseRecOn with
  | nil => rfl
  | append_singleton ds d ih =>
      have last : d < b := inRange d (by simp)
      have shifted : (value b ds * b + d) / b = value b ds := by
        rw [Nat.mul_comm, Nat.mul_add_div (by omega), Nat.div_eq_of_lt last, Nat.add_zero]
      have low : (value b ds * b + d) % b = d := by
        rw [Nat.mul_comm, Nat.mul_add_mod, Nat.mod_eq_of_lt last]
      rw [value_concat, List.length_append, List.length_singleton, digits, shifted, low,
        ih fun e mem => inRange e (List.mem_append_left _ mem)]

/-- A digit of base `b * b` is a pair of digits of base `b`. -/
theorem digits_mul_self (b n v : Nat) :
    digits b (2 * n) v = (digits (b * b) n v).flatMap fun d => [d / b, d % b] := by
  induction n generalizing v with
  | zero => rfl
  | succ n ih =>
      have high : v / b % b = v % (b * b) / b := (Nat.mod_mul_right_div_self v b b).symm
      have low : v % b = v % (b * b) % b := (Nat.mod_mod_of_dvd v (Dvd.intro b rfl)).symm
      rw [show 2 * (n + 1) = 2 * n + 1 + 1 by ring, digits, digits, digits, ih,
        List.flatMap_append, Nat.div_div_eq_div_mul, high, low]
      simp

end Positional
