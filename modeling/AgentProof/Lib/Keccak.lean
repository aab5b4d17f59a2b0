import Mathlib.Data.Fin.Basic
import Mathlib.Data.List.GetD
import Mathlib.Data.List.OfFn
import Mathlib.Algebra.NeZero
import Mathlib.Algebra.Order.Ring.Nat

/-!
# The Keccak sponge, bit by bit

The step mappings, `KECCAK-p` and the sponge construction as the specification
of SHA-3 writes them: a state is an array of `5 × 5 × 2^l` bits, a string is a
list of bits, and the coordinates wrap.  Nothing here is optimised for evaluation.
-/

namespace AgentProof

namespace Keccak

/-- A state array with lanes of `2^l` bits. -/
abbrev State (l : Nat) := Fin 5 → Fin 5 → Fin (2 ^ l) → Bool

/-! ## The step mappings -/

section Steps

variable {l : Nat} (A : State l)

/-- The parity of a column. -/
def parity (x : Fin 5) (z : Fin (2 ^ l)) : Bool :=
  A x 0 z ^^ A x 1 z ^^ A x 2 z ^^ A x 3 z ^^ A x 4 z

def theta : State l := fun x y z => A x y z ^^ (parity A (x - 1) z ^^ parity A (x + 1) (z - 1))

/-- Where the walk of rho stands after `t` steps. -/
def rhoWalk : Nat → Fin 5 × Fin 5
  | 0 => (1, 0)
  | t + 1 => ((rhoWalk t).2, 2 * (rhoWalk t).1 + 3 * (rhoWalk t).2)

/-- How far rho rotates a lane; the walk does not come through `(0, 0)`. -/
def rhoOffset (x y : Fin 5) : Nat :=
  match (List.range 24).find? fun t => rhoWalk t = (x, y) with
  | some t => (t + 1) * (t + 2) / 2
  | none => 0

def rho : State l := fun x y z => A x y (z - Fin.ofNat (2 ^ l) (rhoOffset x y))

def pi : State l := fun x y z => A (x + 3 * y) x z

def chi : State l := fun x y z => A x y z ^^ (!A (x + 1) y z && A (x + 2) y z)

/-- One step of the shift register, on eight bits. -/
def lfsrStep (R : List Bool) : List Bool :=
  let R := false :: R
  let R := R.set 0 (R.getD 0 false ^^ R.getD 8 false)
  let R := R.set 4 (R.getD 4 false ^^ R.getD 8 false)
  let R := R.set 5 (R.getD 5 false ^^ R.getD 8 false)
  let R := R.set 6 (R.getD 6 false ^^ R.getD 8 false)
  R.take 8

/-- The register after so many steps. -/
def lfsr : Nat → List Bool
  | 0 => [true, false, false, false, false, false, false, false]
  | t + 1 => lfsrStep (lfsr t)

def rc (t : Nat) : Bool := t % 255 = 0 || (lfsr (t % 255)).getD 0 false

/-- The round constant: the bits at `2^j - 1` come from the register. -/
def RC (l ir : Nat) : List Bool :=
  (List.range (l + 1)).foldl (fun RC j => RC.set (2 ^ j - 1) (rc (j + 7 * ir)))
    (List.replicate (2 ^ l) false)

def iota (ir : Nat) : State l := fun x y z =>
  if x = 0 ∧ y = 0 then A x y z ^^ (RC l ir).getD z false else A x y z

def round (ir : Nat) : State l := iota (chi (pi (rho (theta A)))) ir

end Steps

/-! ## The permutation -/

section Permutation

variable {l : Nat}

/-- The string's bit `2^l (5y + x) + z` is the state's bit `(x, y, z)`. -/
def ofString (l : Nat) (S : List Bool) : State l := fun x y z =>
  S.getD (2 ^ l * (5 * y + x) + z) false

def toString (A : State l) : List Bool :=
  List.ofFn fun i : Fin (25 * 2 ^ l) =>
    A ⟨i / 2 ^ l % 5, Nat.mod_lt _ (by omega)⟩ ⟨i / 2 ^ l / 5 % 5, Nat.mod_lt _ (by omega)⟩
      ⟨i % 2 ^ l, Nat.mod_lt _ (Nat.two_pow_pos l)⟩

/-- `KECCAK-p[25 * 2^l, nr]`: the last `nr` rounds. -/
def keccakP (l nr : Nat) (S : List Bool) : List Bool :=
  toString (((List.range nr).map fun i => 12 + 2 * l - nr + i).foldl round (ofString l S))

@[simp] theorem length_toString (A : State l) : (toString A).length = 25 * 2 ^ l :=
  List.length_ofFn

/-- A state is the one its string describes. -/
@[simp] theorem ofString_toString (A : State l) : ofString l (toString A) = A := by
  funext x y z
  have lane : (2 ^ l * (5 * (y : Nat) + x) + z) / 2 ^ l = 5 * y + x := by
    rw [Nat.mul_add_div (Nat.two_pow_pos l), Nat.div_eq_of_lt z.isLt, Nat.add_zero]
  have bit : (2 ^ l * (5 * (y : Nat) + x) + z) % 2 ^ l = z := by
    rw [Nat.mul_add_mod, Nat.mod_eq_of_lt z.isLt]
  have inside : 2 ^ l * (5 * (y : Nat) + x) + z < (toString A).length := by
    rw [length_toString, ← Nat.div_lt_iff_lt_mul (Nat.two_pow_pos l), lane]
    omega
  rw [ofString, List.getD_eq_getElem _ _ inside]
  simp only [toString, List.getElem_ofFn, lane, bit]
  congr 1
  · exact Fin.ext (by simp only; omega)
  · exact Fin.ext (by simp only; omega)

end Permutation

/-! ## Strings and bytes -/

section Bytes

theorem ext_getD {S T : List Bool} (length : S.length = T.length)
    (same : ∀ k < S.length, S.getD k false = T.getD k false) : S = T := by
  refine List.ext_getElem length fun k inside inside' => ?_
  have equal := same k inside
  rwa [List.getD_eq_getElem _ _ inside, List.getD_eq_getElem _ _ inside'] at equal

theorem getD_zipWith_xor {S T : List Bool} {k : Nat} (left : k < S.length) (right : k < T.length) :
    (List.zipWith xor S T).getD k false = (S.getD k false ^^ T.getD k false) := by
  have both : k < (List.zipWith xor S T).length := by
    rw [List.length_zipWith]
    exact lt_min left right
  rw [List.getD_eq_getElem _ _ left, List.getD_eq_getElem _ _ right,
    List.getD_eq_getElem _ _ both, List.getElem_zipWith]

theorem getD_take_drop {S : List Bool} {start n k : Nat} (inside : k < n) :
    ((S.drop start).take n).getD k false = S.getD (start + k) false := by
  rw [List.getD_eq_getElem?_getD, List.getElem?_take_of_lt inside, List.getElem?_drop,
    List.getD_eq_getElem?_getD]

/-- A byte gives eight bits, the lowest first. -/
def bitsOfByte (byte : BitVec 8) : List Bool := List.ofFn fun i : Fin 8 => byte.getLsbD i

def bitsOfBytes (bytes : List (BitVec 8)) : List Bool := bytes.flatMap bitsOfByte

variable {bytes more : List (BitVec 8)}

@[simp] theorem length_bitsOfByte (byte : BitVec 8) : (bitsOfByte byte).length = 8 :=
  List.length_ofFn

@[simp] theorem bitsOfBytes_nil : bitsOfBytes [] = [] := rfl

@[simp] theorem bitsOfBytes_cons (byte : BitVec 8) :
    bitsOfBytes (byte :: bytes) = bitsOfByte byte ++ bitsOfBytes bytes := rfl

@[simp] theorem bitsOfBytes_append :
    bitsOfBytes (bytes ++ more) = bitsOfBytes bytes ++ bitsOfBytes more :=
  List.flatMap_append

@[simp] theorem length_bitsOfBytes : (bitsOfBytes bytes).length = 8 * bytes.length := by
  induction bytes with
  | nil => rfl
  | cons byte bytes ih =>
      rw [bitsOfBytes_cons, List.length_append, ih, length_bitsOfByte, List.length_cons]
      omega

theorem bitsOfBytes_zeros (n : Nat) :
    bitsOfBytes (List.replicate n 0) = List.replicate (8 * n) false := by
  induction n with
  | zero => rfl
  | succ n ih =>
      rw [List.replicate_succ, bitsOfBytes_cons, ih, show 8 * (n + 1) = 8 + 8 * n by omega,
        ← List.replicate_append_replicate]
      rfl

/-- Bit `k` is bit `k % 8` of byte `k / 8`. -/
theorem getD_bitsOfBytes (k : Nat) :
    (bitsOfBytes bytes).getD k false = (bytes.getD (k / 8) 0).getLsbD (k % 8) := by
  induction bytes generalizing k with
  | nil => simp
  | cons byte bytes ih =>
      rw [bitsOfBytes_cons]
      rcases Nat.lt_or_ge k 8 with inside | beyond
      · have bit : (bitsOfByte byte).length > k := by rwa [length_bitsOfByte]
        rw [List.getD_append _ _ _ _ bit, List.getD_eq_getElem _ _ bit, Nat.div_eq_of_lt inside,
          Nat.mod_eq_of_lt inside, List.getD_cons_zero]
        exact List.getElem_ofFn bit
      · obtain ⟨j, rfl⟩ := Nat.exists_eq_add_of_le beyond
        rw [List.getD_append_right _ _ _ _ (by rw [length_bitsOfByte]; omega), length_bitsOfByte,
          Nat.add_sub_cancel_left, ih, Nat.add_mod_left, Nat.add_div_left _ (by omega),
          List.getD_cons_succ]

end Bytes

/-! ## The sponge -/

section Sponge

/-- `pad10*1(x, m)`. -/
def pad10star1 (x m : Nat) : List Bool :=
  let j := ((-(m : Int) - 2) % x).toNat
  true :: List.replicate j false ++ [true]

variable (b : Nat) (f : List Bool → List Bool) (r : Nat)

/-- One block goes into the state. -/
def absorbBlock (S block : List Bool) : List Bool :=
  f (List.zipWith xor S (block ++ List.replicate (b - r) false))

/-- The first `n` blocks of a string go into the state, one after another. -/
def absorb (P : List Bool) (n : Nat) (S : List Bool) : List Bool :=
  (List.range n).foldl (fun S i => absorbBlock b f r S ((P.drop (r * i)).take r)) S

/-- `n + 1` blocks come out of the state. -/
def squeeze : Nat → List Bool → List Bool
  | 0, S => S.take r
  | n + 1, S => S.take r ++ squeeze n (f S)

/-- `SPONGE[f, pad, r](N, d)` on strings of length `b`. -/
def sponge (pad : Nat → Nat → List Bool) (N : List Bool) (d : Nat) : List Bool :=
  let P := N ++ pad r N.length
  (squeeze f r ((d - 1) / r) (absorb b f r P (P.length / r) (List.replicate b false))).take d

variable {b f r}

/-- A loop that keeps an invariant and absorbs a block a turn absorbs them all. -/
theorem absorb_of_step {σ : Type*} {Inv : σ → Prop} {string : σ → List Bool}
    {step : σ → Nat → σ} {P : List Bool} {n : Nat} {s : σ} (start : Inv s)
    (block : ∀ s i, i < n → Inv s → Inv (step s i) ∧
      string (step s i) = absorbBlock b f r (string s) ((P.drop (r * i)).take r)) :
    Inv ((List.range n).foldl step s) ∧
      string ((List.range n).foldl step s) = absorb b f r P n (string s) := by
  induction n with
  | zero => exact ⟨start, rfl⟩
  | succ n ih =>
      obtain ⟨kept, same⟩ := ih fun s i early => block s i (by omega)
      obtain ⟨last, final⟩ := block _ n (by omega) kept
      rw [absorb] at same
      rw [absorb, List.range_succ, List.foldl_append, List.foldl_append, ← same]
      exact ⟨last, final⟩

/-- What fits into one block comes out of the state at once. -/
theorem take_squeeze {d : Nat} (fits : d ≤ r) (n : Nat) (S : List Bool) (long : r ≤ S.length) :
    (squeeze f r n S).take d = S.take d := by
  cases n with
  | zero => rw [squeeze, List.take_take, Nat.min_eq_left fits]
  | succ n =>
      rw [squeeze, List.take_append_of_le_length (by rw [List.length_take]; omega), List.take_take,
        Nat.min_eq_left fits]

end Sponge

/-- `KECCAK[c](N, d)`. -/
def keccak (c : Nat) (N : List Bool) (d : Nat) : List Bool :=
  sponge 1600 (keccakP 6 24) (1600 - c) pad10star1 N d

end Keccak

end AgentProof
