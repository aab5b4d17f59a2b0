import AgentProof.Lib.Keccak
import AgentProof.Lib.CellLoop
import AgentProof.Sdk.Hex
import Mathlib.Data.Int.Bitwise

/-!
# Keccak-256

`crypto/keccak.ts`.  A bigint that is never negative is a natural number, an
array of bigints a list; the complement in chi is the one place where a
bigint is negative for a moment.
-/

namespace AgentProof

namespace Sdk

namespace Crypto

open CellLoop

def MASK : Nat := (1 <<< 64) - 1

def ROUND_CONSTANTS : List Nat := [
  0x0000000000000001, 0x0000000000008082, 0x800000000000808a, 0x8000000080008000,
  0x000000000000808b, 0x0000000080000001, 0x8000000080008081, 0x8000000000008009,
  0x000000000000008a, 0x0000000000000088, 0x0000000080008009, 0x000000008000000a,
  0x000000008000808b, 0x800000000000008b, 0x8000000000008089, 0x8000000000008003,
  0x8000000000008002, 0x8000000000000080, 0x000000000000800a, 0x800000008000000a,
  0x8000000080008081, 0x8000000000008080, 0x0000000080000001, 0x8000000080008008]

/-- The rho offsets, at index `x + 5y`. -/
def ROTATION : List Nat := [
  0, 1, 62, 28, 27,
  36, 44, 6, 55, 20,
  3, 10, 43, 25, 39,
  41, 45, 15, 21, 8,
  18, 2, 61, 56, 14]

def RATE_BYTES : Nat := 136

def rotl (x n : Nat) : Nat := (x <<< n ||| x >>> (64 - n)) &&& MASK

/-- `~x & MASK`. -/
def maskedNot (x : Nat) : Nat := (Int.land (Int.lnot x) MASK).toNat

/-- `array[i]`. -/
def lane (array : List Nat) (i : Nat) : Nat := array.getD i 0

/-- `(x, y)` as the two nested loops come to it, `y` outside. -/
def plane : List (Nat × Nat) :=
  (List.range 5).flatMap fun y => (List.range 5).map fun x => (x, y)

/-! ## One round of `permute` -/

/-- `c`. -/
def parities (state : List Nat) : List Nat :=
  assign id (fun x _ => lane state x ^^^ lane state (x + 5) ^^^ lane state (x + 10) ^^^
    lane state (x + 15) ^^^ lane state (x + 20)) (List.range 5) (List.replicate 5 0)

/-- `d`. -/
def effects (c : List Nat) : List Nat :=
  assign id (fun x _ => lane c ((x + 4) % 5) ^^^ rotl (lane c ((x + 1) % 5)) 1)
    (List.range 5) (List.replicate 5 0)

def theta (state : List Nat) : List Nat :=
  let d := effects (parities state)
  assign (fun (x, y) => y * 5 + x) (fun (x, _) value => value ^^^ lane d x) plane state

/-- `b`. -/
def rhoPi (state : List Nat) : List Nat :=
  assign (fun (x, y) => (2 * x + 3 * y) % 5 * 5 + y)
    (fun (x, y) _ => rotl (lane state (y * 5 + x)) (lane ROTATION (y * 5 + x)))
    plane (List.replicate 25 0)

def chi (b state : List Nat) : List Nat :=
  assign (fun (x, y) => y * 5 + x)
    (fun (x, y) _ => lane b (y * 5 + x) ^^^
      (maskedNot (lane b (y * 5 + (x + 1) % 5)) &&& lane b (y * 5 + (x + 2) % 5)))
    plane state

def iota (round : Nat) (state : List Nat) : List Nat :=
  state.modify 0 fun value => value ^^^ lane ROUND_CONSTANTS round

def permuteRound (state : List Nat) (round : Nat) : List Nat :=
  let state := theta state
  iota round (chi (rhoPi state) state)

def permute (state : List Nat) : List Nat := (List.range 24).foldl permuteRound state

/-! ## The sponge over bytes -/

/-- The input with its padding. -/
def padded (input : Bytes) : Bytes :=
  let size := (input.length + 1 + (RATE_BYTES - 1)) / RATE_BYTES * RATE_BYTES
  let zeros := input ++ List.replicate (size - input.length) 0
  (zeros.set input.length 0x01).modify (size - 1) fun byte => byte ||| 0x80

/-- Eight bytes from `start` on, the first one lowest. -/
def readLane (padded : Bytes) (start : Nat) : Nat :=
  (List.range 8).reverse.foldl (fun value byte =>
    value <<< 8 ||| (padded.getD (start + byte) 0).toNat) 0

/-- What the block at `offset` adds to the state. -/
def absorbLanes (padded : Bytes) (offset : Nat) (state : List Nat) : List Nat :=
  assign id (fun lane value => value ^^^ readLane padded (offset + lane * 8))
    (List.range (RATE_BYTES / 8)) state

/-- The loop over the blocks. -/
def absorbAll (padded : Bytes) (state : List Nat) : List Nat :=
  (List.range (padded.length / RATE_BYTES)).foldl (fun state block =>
    permute (absorbLanes padded (block * RATE_BYTES) state)) state

/-- The low eight bytes of a lane, the lowest first. -/
def laneBytes (value : Nat) : Nat → Bytes
  | 0 => []
  | n + 1 => BitVec.ofNat 8 (value &&& 0xff) :: laneBytes (value >>> 8) n

@[simp] theorem length_laneBytes (value n : Nat) : (laneBytes value n).length = n := by
  induction n generalizing value with
  | zero => rfl
  | succ n ih => rw [laneBytes, List.length_cons, ih]

def keccak256Bytes (input : Bytes) : Bytes :=
  let state := absorbAll (padded input) (List.replicate 25 0)
  (List.range 4).flatMap fun i => laneBytes (lane state i) 8

theorem length_keccak256Bytes (input : Bytes) : (keccak256Bytes input).length = 32 := by
  simp [keccak256Bytes, List.length_flatMap]

/-- `keccak256` of bytes. -/
def keccak256 (input : Bytes) : Text := bytesToHex (keccak256Bytes input)

end Crypto

end Sdk

end AgentProof
