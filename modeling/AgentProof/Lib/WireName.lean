import Mathlib.Data.List.TakeDrop
import Mathlib.Tactic

/-!
# Names in DNS wire format

A name is written as its labels, each behind a byte with its length, and a zero
byte.  Reading stops at the zero byte and leaves the rest.  It undoes writing of
labels of 1 to 63 bytes, and takes nothing else.
-/

namespace WireName

abbrev Bytes := List (BitVec 8)

def IsLabel (label : Bytes) : Prop := 1 ≤ label.length ∧ label.length ≤ 63

def frame (label : Bytes) : Bytes := BitVec.ofNat 8 label.length :: label

def encode (labels : List Bytes) : Bytes := labels.flatMap frame ++ [0]

/-- The labels in front, and what is left. -/
def parse (bytes : Bytes) : Option (List Bytes × Bytes) :=
  match bytes with
  | [] => none
  | length :: rest =>
      if length = 0 then some ([], rest)
      else if 63 < length.toNat ∨ rest.length < length.toNat then none
      else (parse (rest.drop length.toNat)).map fun later =>
        (rest.take length.toNat :: later.1, later.2)
termination_by bytes.length
decreasing_by
  simp only [List.length_drop, List.length_cons]
  omega

variable {labels : List Bytes} {label bytes left : Bytes}

theorem toNat_length (short : label.length ≤ 63) :
    (BitVec.ofNat 8 label.length).toNat = label.length := by
  rw [BitVec.toNat_ofNat]
  omega

theorem encode_cons (label : Bytes) (labels : List Bytes) :
    encode (label :: labels) = frame label ++ encode labels := by
  rw [encode, List.flatMap_cons, List.append_assoc, encode]

theorem parse_encode (all : ∀ label ∈ labels, IsLabel label) (left : Bytes) :
    parse (encode labels ++ left) = some (labels, left) := by
  induction labels with
  | nil =>
      rw [encode, List.flatMap_nil, List.nil_append, List.singleton_append, parse, if_pos rfl]
  | cons label labels ih =>
      obtain ⟨isLabel, rest⟩ := List.forall_mem_cons.mp all
      have length := toNat_length isLabel.2
      have nonzero : BitVec.ofNat 8 label.length ≠ 0 := by
        intro zero
        rw [zero] at length
        exact absurd length.symm (Nat.one_le_iff_ne_zero.mp isLabel.1)
      have inside : ¬ (63 < label.length ∨
          (label ++ (encode labels ++ left)).length < label.length) := by
        rw [List.length_append]
        have short := isLabel.2
        omega
      rw [encode_cons, frame, List.append_assoc, List.cons_append, parse, if_neg nonzero, length,
        if_neg inside, List.drop_left, List.take_left, ih rest]
      rfl

/-- Reading accepts what is written, and nothing else. -/
theorem parse_eq_some_iff :
    parse bytes = some (labels, left) ↔
      (∀ label ∈ labels, IsLabel label) ∧ bytes = encode labels ++ left := by
  constructor
  · intro parsed
    induction bytes using parse.induct generalizing labels with
    | case1 =>
        rw [parse] at parsed
        cases parsed
    | case2 rest =>
        rw [parse, if_pos rfl] at parsed
        cases parsed
        exact ⟨by simp, rfl⟩
    | case3 length rest nonzero bad =>
        rw [parse, if_neg nonzero, if_pos bad] at parsed
        cases parsed
    | case4 length rest nonzero inside ih =>
        rw [parse, if_neg nonzero, if_neg inside, Option.map_eq_some_iff] at parsed
        obtain ⟨⟨labels, left⟩, later, ⟨⟩⟩ := parsed
        obtain ⟨all, text⟩ := ih later
        rw [not_or, not_lt, not_lt] at inside
        have size : (rest.take length.toNat).length = length.toNat := by
          rw [List.length_take]
          omega
        have positive : length.toNat ≠ 0 := fun zero => nonzero (BitVec.eq_of_toNat_eq zero)
        refine ⟨List.forall_mem_cons.mpr ⟨⟨?_, ?_⟩, all⟩, ?_⟩
        · rw [size]
          omega
        · rw [size]
          exact inside.1
        · rw [encode_cons, frame, size, BitVec.ofNat_toNat, BitVec.setWidth_eq, List.append_assoc,
            ← text, List.cons_append, List.take_append_drop]
  · rintro ⟨all, rfl⟩
    exact parse_encode all left

end WireName
