import Mathlib.Data.List.Basic

/-!
# UTF-8 as the Encoding Standard decodes it

A decoder that never fails: what is not well formed becomes a replacement
character, and a byte that breaks a character off is looked at again.  A byte
order mark in front is dropped.
-/

namespace AgentProof

namespace Utf8

/-- A character of which bytes are missing, and the range of the next one. -/
structure Pending where
  codePoint : Nat
  needed : Nat
  lower : Nat
  upper : Nat
  deriving DecidableEq, Repr

def replacement : Char := '\ufffd'

/-- A byte between two characters. -/
def start (byte : Nat) : List Char × Option Pending :=
  if byte ≤ 0x7f then ([Char.ofNat byte], none)
  else if 0xc2 ≤ byte ∧ byte ≤ 0xdf then ([], some ⟨byte - 0xc0, 1, 0x80, 0xbf⟩)
  else if 0xe0 ≤ byte ∧ byte ≤ 0xef then
    ([], some ⟨byte - 0xe0, 2, if byte = 0xe0 then 0xa0 else 0x80,
      if byte = 0xed then 0x9f else 0xbf⟩)
  else if 0xf0 ≤ byte ∧ byte ≤ 0xf4 then
    ([], some ⟨byte - 0xf0, 3, if byte = 0xf0 then 0x90 else 0x80,
      if byte = 0xf4 then 0x8f else 0xbf⟩)
  else ([replacement], none)

def decodeFrom : Option Pending → List (BitVec 8) → List Char
  | none, [] => []
  | some _, [] => [replacement]
  | none, byte :: rest => (start byte.toNat).1 ++ decodeFrom (start byte.toNat).2 rest
  | some p, byte :: rest =>
      if byte.toNat < p.lower ∨ p.upper < byte.toNat then
        replacement :: (start byte.toNat).1 ++ decodeFrom (start byte.toNat).2 rest
      else
        let codePoint := p.codePoint * 64 + (byte.toNat - 0x80)
        if p.needed = 1 then Char.ofNat codePoint :: decodeFrom none rest
        else decodeFrom (some ⟨codePoint, p.needed - 1, 0x80, 0xbf⟩) rest

def decode (bytes : List (BitVec 8)) : List Char :=
  decodeFrom none (if bytes.take 3 = [0xef, 0xbb, 0xbf] then bytes.drop 3 else bytes)

/-- The bytes of a text. -/
def encode (text : List Char) : List (BitVec 8) :=
  text.flatMap fun c => (String.utf8EncodeChar c).map UInt8.toBitVec

/-- The byte of an ASCII character. -/
def asciiByte (c : Char) : BitVec 8 := BitVec.ofNat 8 c.toNat

theorem toNat_asciiByte {c : Char} (ascii : c.toNat < 0x80) : (asciiByte c).toNat = c.toNat := by
  rw [asciiByte, BitVec.toNat_ofNat]
  omega

theorem decodeFrom_asciiByte {c : Char} (ascii : c.toNat < 0x80) (rest : List (BitVec 8)) :
    decodeFrom none (asciiByte c :: rest) = c :: decodeFrom none rest := by
  rw [decodeFrom, toNat_asciiByte ascii, start, if_pos (by omega), Char.ofNat_toNat]
  rfl

/-- ASCII text is one byte a character. -/
theorem decode_map_asciiByte {text : List Char} (ascii : ∀ c ∈ text, c.toNat < 0x80) :
    decode (text.map asciiByte) = text := by
  have unmarked : ¬ (text.map asciiByte).take 3 = [0xef, 0xbb, 0xbf] := by
    cases text with
    | nil => simp
    | cons c text =>
        have small := toNat_asciiByte (ascii c List.mem_cons_self)
        have low := ascii c List.mem_cons_self
        intro same
        rw [List.map_cons, List.take_succ_cons] at same
        rw [(List.cons.inj same).1] at small
        have value : (0xef : BitVec 8).toNat = 0xef := rfl
        omega
  rw [decode, if_neg unmarked]
  clear unmarked
  induction text with
  | nil => rfl
  | cons c text ih =>
      rw [List.map_cons, decodeFrom_asciiByte (ascii c List.mem_cons_self),
        ih fun d later => ascii d (List.mem_cons_of_mem c later)]

end Utf8

end AgentProof
