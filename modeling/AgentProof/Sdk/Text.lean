import AgentProof.Evm.Calldata
import Mathlib.Data.List.DropRight

/-!
# JavaScript text and integers

Strings are lists of characters and bigints are integers.  Only what the SDK
uses of the built-ins is here: slicing, padding, trimming, and the conversions
between integers and their numerals.  A string index or length the SDK turns
into a number never matters beyond 2^53: no string is that long, and a slice
past the end is empty either way.

The second half relates text to bytes: the hexadecimal rendering of a byte
string, sliced and converted, reads the byte string.
-/

namespace AgentProof

abbrev Text := List Char

instance : LawfulBEq Text := inferInstance

/-- A thrown JavaScript error. -/
structure JsError where
  name : Text
  message : Text
  deriving DecidableEq, Repr

/-- `throw new Error(message)`. -/
def thrown {α : Type} (message : Text) : Except JsError α :=
  .error ⟨"Error".toList, message⟩

namespace Js

/-- `s.slice(start, stop)` for non-negative positions. -/
def slice (s : Text) (start stop : Nat) : Text := (s.drop start).take (stop - start)

def padStart (width : Nat) (fill : Char) (s : Text) : Text :=
  List.replicate (width - s.length) fill ++ s

def padEnd (width : Nat) (fill : Char) (s : Text) : Text :=
  s ++ List.replicate (width - s.length) fill

/-- White space and line terminators. -/
def isSpace (c : Char) : Bool :=
  [0x09, 0x0a, 0x0b, 0x0c, 0x0d, 0x20, 0xa0, 0x1680, 0x2028, 0x2029, 0x202f, 0x205f, 0x3000,
    0xfeff].contains c.toNat || (0x2000 ≤ c.toNat && c.toNat ≤ 0x200a)

def trimStart (s : Text) : Text := s.dropWhile isSpace
def trimEnd (s : Text) : Text := s.rdropWhile isSpace
def trim (s : Text) : Text := trimEnd (trimStart s)

/-- Lower case on the ASCII letters: the addresses, hashes and selectors that are lowered are
hexadecimal.  Other letters, as a decoder may put into a selector, are left as they are. -/
def toLowerCase (s : Text) : Text := s.map Char.toLower

/-! ## Numerals -/

/-- A character of the class `[0-9]`. -/
def isDigit (c : Char) : Bool := 48 ≤ c.toNat && c.toNat ≤ 57

/-- A character of the class `[0-9a-fA-F]`. -/
def isHexDigit (c : Char) : Bool :=
  isDigit c || (97 ≤ c.toNat && c.toNat ≤ 102) || (65 ≤ c.toNat && c.toNat ≤ 70)

/-- The value of a hexadecimal digit. -/
def digitValue (c : Char) : Nat :=
  if c.toNat ≤ 57 then c.toNat - 48 else if c.toNat ≤ 70 then c.toNat - 55 else c.toNat - 87

/-- The number a digit string denotes. -/
def numeral (b : Nat) (s : Text) : Nat := Positional.value b (s.map digitValue)

/-- `n.toString(16)`. -/
def toHex (n : Nat) : Text := Nat.toDigits 16 n

/-- The decimal numeral of a bigint. -/
def toDecimal (n : Int) : Text :=
  if n < 0 then '-' :: Nat.toDigits 10 n.natAbs else Nat.toDigits 10 n.natAbs

/-- `BigInt("0x" + w)`: white space may follow the digits, and there must be some. -/
def bigIntHex (w : Text) : Except JsError Nat :=
  let body := trimEnd w
  if body ≠ [] ∧ body.all isHexDigit then .ok (numeral 16 body)
  else .error ⟨"SyntaxError".toList, "Cannot convert 0x".toList ++ w ++ " to a BigInt".toList⟩

/-- Digits of a base with a sign, as a bigint literal wants them. -/
def signedNumeral (b : Nat) (isBaseDigit : Char → Bool) (sign : Int) (digits : Text) :
    Except JsError Int :=
  if digits ≠ [] ∧ digits.all isBaseDigit then .ok (sign * (numeral b digits : Nat))
  else .error ⟨"SyntaxError".toList, "Cannot convert to a BigInt".toList⟩

/-- `BigInt(s)` of a string: white space around it is dropped, and no digits are 0. -/
def bigInt (s : Text) : Except JsError Int :=
  match trim s with
  | [] => .ok 0
  | '0' :: 'x' :: digits | '0' :: 'X' :: digits => signedNumeral 16 isHexDigit 1 digits
  | '0' :: 'o' :: digits | '0' :: 'O' :: digits =>
      signedNumeral 8 (fun c => isDigit c && c.toNat < 56) 1 digits
  | '0' :: 'b' :: digits | '0' :: 'B' :: digits =>
      signedNumeral 2 (fun c => isDigit c && c.toNat < 50) 1 digits
  | '-' :: digits => signedNumeral 10 isDigit (-1) digits
  | '+' :: digits => signedNumeral 10 isDigit 1 digits
  | digits => signedNumeral 10 isDigit 1 digits

/-- `parseInt(s, 16)`; `none` is `NaN`. -/
def parseIntHex (s : Text) : Option Int :=
  let s := trimStart s
  let (sign, s) : Int × Text := match s with
    | '-' :: rest => (-1, rest)
    | '+' :: rest => (1, rest)
    | _ => (1, s)
  let s := match s with
    | '0' :: 'x' :: rest => rest
    | '0' :: 'X' :: rest => rest
    | _ => s
  let digits := s.takeWhile isHexDigit
  if digits = [] then none else some (sign * (numeral 16 digits : Nat))

/-- `a & mask` for a mask of `2^k - 1`, on 32-bit integers; `NaN` counts as 0. -/
def maskBits (a : Option Int) (k : Nat) : Nat := ((a.getD 0) % (2 ^ k : Int)).toNat

/-- The part of a text behind `front`. -/
theorem slice_append {front part rest : Text} {start stop : Nat} (first : front.length = start)
    (last : start + part.length = stop) : slice (front ++ (part ++ rest)) start stop = part := by
  have size : stop - start = part.length := by omega
  rw [slice, size, ← first, List.drop_left, List.take_left]

/-! ## Decimal numerals -/

/-- A string of digits, with white space around it. -/
theorem bigInt_of_digits {raw : Text} (nonempty : trim raw ≠ [])
    (digits : (trim raw).all isDigit = true) : bigInt raw = .ok (numeral 10 (trim raw) : Nat) := by
  unfold bigInt
  generalize trim raw = body at nonempty digits
  split
  case h_1 => exact absurd rfl nonempty
  case h_10 =>
    rw [signedNumeral, if_pos ⟨nonempty, digits⟩, one_mul]
  -- the letters and signs the other literals start with are no digits
  all_goals simp [isDigit] at digits

theorem isDigit_iff {c : Char} : isDigit c = true ↔ c.isDigit = true := by
  simp [isDigit, Char.isDigit, UInt32.le_iff_toNat_le]

theorem digitValue_digitChar_ten : ∀ d < 10, digitValue (Nat.digitChar d) = d := by decide

theorem all_isDigit_toDigits (n : Nat) : (Nat.toDigits 10 n).all isDigit = true := by
  rw [List.all_eq_true]
  exact fun c mem => isDigit_iff.mpr (Nat.isDigit_of_mem_toDigits (by norm_num) (by norm_num) mem)

/-- Decimal digits read back. -/
theorem numeral_toDigits (n : Nat) : numeral 10 (Nat.toDigits 10 n) = n := by
  induction n using Nat.strongRecOn with
  | ind n ih =>
      rcases Nat.lt_or_ge n 10 with small | large
      · rw [Nat.toDigits_of_lt_base small, numeral, List.map_singleton,
          digitValue_digitChar_ten n small]
        simp [Positional.value]
      · have shorter : n / 10 < n := by omega
        have front := ih (n / 10) shorter
        rw [numeral] at front
        rw [Nat.toDigits_of_base_le (by norm_num) large, numeral, List.map_append,
          List.map_singleton, Positional.value_concat, front,
          digitValue_digitChar_ten _ (Nat.mod_lt _ (by norm_num))]
        omega

/-- A text without spaces is not trimmed. -/
theorem trim_of_solid {s : Text} (solid : ∀ c ∈ s, isSpace c = false) : trim s = s := by
  have start : trimStart s = s := by
    rw [trimStart, List.dropWhile_eq_self_iff]
    intro nonempty
    rw [solid _ (List.getElem_mem nonempty)]
    exact Bool.false_ne_true
  rw [trim, start, trimEnd, List.rdropWhile_eq_self_iff]
  intro nonempty
  rw [solid _ (List.getLast_mem nonempty)]
  exact Bool.false_ne_true

theorem trim_of_all_isDigit {s : Text} (digits : s.all isDigit = true) : trim s = s := by
  refine trim_of_solid fun c mem => ?_
  have digit : isDigit c = true := List.all_eq_true.mp digits c mem
  simp only [isDigit, Bool.and_eq_true, decide_eq_true_eq] at digit
  have plain : ¬ (8192 ≤ c.toNat ∧ c.toNat ≤ 8202) := by omega
  simp [isSpace]
  omega

/-- A string of digits and nothing else. -/
theorem bigInt_of_all_isDigit {s : Text} (nonempty : s ≠ []) (digits : s.all isDigit = true) :
    bigInt s = .ok (numeral 10 s : Nat) := by
  have whole := trim_of_all_isDigit digits
  have read := @bigInt_of_digits s (by rwa [whole]) (by rwa [whole])
  rwa [whole] at read

/-- A number written in decimal reads back. -/
theorem bigInt_toDecimal (n : Nat) : bigInt (toDecimal n) = .ok n := by
  have text : toDecimal n = Nat.toDigits 10 n := by
    rw [toDecimal, if_neg (by omega)]
    rfl
  rw [text, bigInt_of_all_isDigit Nat.toDigits_ne_nil (all_isDigit_toDigits n), numeral_toDigits]

theorem toDigits_injective : Function.Injective (Nat.toDigits 10) := fun m n same => by
  rw [← numeral_toDigits m, same, numeral_toDigits]

theorem toDecimal_injective : Function.Injective toDecimal := by
  intro m n same
  have signed : ∀ k l : Nat, '-' :: Nat.toDigits 10 k ≠ Nat.toDigits 10 l := fun k l equal => by
    have digits := all_isDigit_toDigits l
    rw [← equal, List.all_cons, Bool.and_eq_true] at digits
    exact absurd digits.1 (by decide)
  unfold toDecimal at same
  split_ifs at same with left right right
  · have absolute := toDigits_injective (List.cons.inj same).2
    omega
  · exact absurd same (signed _ _)
  · exact absurd same.symm (signed _ _)
  · have absolute := toDigits_injective same
    omega

/-! ## Fixed-width hexadecimal -/

/-- The low `k` hexadecimal digits of `v`. -/
def fixedHex (k v : Nat) : Text := (Positional.digits 16 k v).map Nat.digitChar

@[simp] theorem length_fixedHex (k v : Nat) : (fixedHex k v).length = k := by
  simp [fixedHex]

theorem digitValue_digitChar : ∀ d < 16, digitValue (Nat.digitChar d) = d := by decide

theorem isHexDigit_digitChar : ∀ d < 16, isHexDigit (Nat.digitChar d) = true := by decide

/-- Digits below the base read back. -/
theorem numeral_map_digitChar {ds : List Nat} (inRange : ∀ d ∈ ds, d < 16) :
    numeral 16 (ds.map Nat.digitChar) = Positional.value 16 ds := by
  rw [numeral, List.map_map]
  refine congrArg (Positional.value 16) ((List.map_congr_left fun d mem => ?_).trans
    (List.map_id ds))
  exact digitValue_digitChar d (inRange d mem)

/-- Text made of hexadecimal digits only. -/
def AllHex (s : Text) : Prop := s.all isHexDigit = true

instance : DecidablePred AllHex := fun s => inferInstanceAs (Decidable (s.all isHexDigit = true))

theorem AllHex.append {s t : Text} (left : AllHex s) (right : AllHex t) : AllHex (s ++ t) := by
  simp only [AllHex, List.all_append, Bool.and_eq_true] at left right ⊢
  exact ⟨left, right⟩

theorem AllHex.slice {s : Text} (hex : AllHex s) (start stop : Nat) :
    AllHex (Js.slice s start stop) := by
  simp only [AllHex, List.all_eq_true, Js.slice] at hex ⊢
  exact fun c mem => hex c (List.mem_of_mem_drop (List.mem_of_mem_take mem))

theorem allHex_fixedHex (k v : Nat) : AllHex (fixedHex k v) := by
  simp only [AllHex, fixedHex, List.all_eq_true, List.mem_map]
  rintro _ ⟨d, mem, rfl⟩
  have small : d < 16 := Positional.lt_of_mem_digits (by norm_num) mem
  exact isHexDigit_digitChar d small

theorem isSpace_of_isHexDigit {c : Char} (hex : isHexDigit c = true) : isSpace c = false := by
  simp only [isHexDigit, isDigit, Bool.or_eq_true, Bool.and_eq_true, decide_eq_true_eq] at hex
  have plain : ¬ (8192 ≤ c.toNat ∧ c.toNat ≤ 8202) := by omega
  simp [isSpace]
  omega

/-- Hexadecimal text has no white space to trim. -/
theorem trimEnd_of_allHex {s : Text} (hex : AllHex s) : trimEnd s = s := by
  rw [trimEnd, List.rdropWhile_eq_self_iff]
  intro nonempty
  simp only [AllHex, List.all_eq_true] at hex
  rw [isSpace_of_isHexDigit (hex _ (List.getLast_mem nonempty))]
  exact Bool.false_ne_true

/-- On hexadecimal text the conversion is the numeral. -/
theorem bigIntHex_of_allHex {w : Text} (hex : AllHex w) (nonempty : w ≠ []) :
    bigIntHex w = .ok (numeral 16 w) := by
  rw [bigIntHex, trimEnd_of_allHex hex, if_pos ⟨nonempty, hex⟩]

theorem numeral_fixedHex (k v : Nat) : numeral 16 (fixedHex k v) = v % 16 ^ k := by
  rw [fixedHex, numeral_map_digitChar fun d mem => Positional.lt_of_mem_digits (by norm_num) mem,
    Positional.value_digits]

theorem fixedHex_succ (k v : Nat) :
    fixedHex (k + 1) v = fixedHex k (v / 16) ++ [Nat.digitChar (v % 16)] := by
  simp [fixedHex, Positional.digits]

theorem fixedHex_zero_right (k : Nat) : fixedHex k 0 = List.replicate k '0' := by
  induction k with
  | zero => rfl
  | succ k ih =>
      rw [fixedHex_succ, Nat.zero_div, ih, List.replicate_succ']
      rfl

theorem take_fixedHex (k j y : Nat) : (fixedHex (k + j) y).take k = fixedHex k (y / 16 ^ j) := by
  induction j generalizing y with
  | zero => rw [Nat.add_zero, pow_zero, Nat.div_one, List.take_of_length_le (length_fixedHex k y).le]
  | succ j ih =>
      rw [← Nat.add_assoc, fixedHex_succ, List.take_append_of_le_length
        (by rw [length_fixedHex]; omega), ih, Nat.div_div_eq_div_mul, ← pow_succ']

/-- A number written without leading zeros and padded is the fixed-width numeral. -/
theorem padStart_toHex {k v : Nat} (fits : v < 16 ^ k) (pos : 0 < k) :
    padStart k '0' (toHex v) = fixedHex k v := by
  rw [padStart, toHex]
  induction k generalizing v with
  | zero => exact absurd pos (by omega)
  | succ k ih =>
      rcases Nat.lt_or_ge v 16 with small | large
      · rw [Nat.toDigits_of_lt_base small, fixedHex_succ, Nat.div_eq_of_lt small,
          fixedHex_zero_right, Nat.mod_eq_of_lt small]
        rfl
      · have shorter : v / 16 < 16 ^ k := by
          rw [pow_succ] at fits
          exact Nat.div_lt_of_lt_mul (by rwa [Nat.mul_comm])
        have pos' : 0 < k := by
          rcases Nat.eq_zero_or_pos k with rfl | pos'
          · simp at fits
            omega
          · exact pos'
        rw [Nat.toDigits_of_base_le (by norm_num) large, fixedHex_succ, ← ih shorter pos',
          List.length_append, List.length_singleton, Nat.add_sub_add_right, List.append_assoc]

/-! ## Bytes as text -/

/-- Two digits for each byte. -/
def hexText (bs : Bytes) : Text := bs.flatMap fun b => fixedHex 2 b.toNat

@[simp] theorem hexText_nil : hexText [] = [] := rfl

@[simp] theorem hexText_cons (b : Byte) (bs : Bytes) :
    hexText (b :: bs) = fixedHex 2 b.toNat ++ hexText bs := rfl

@[simp] theorem hexText_append (bs cs : Bytes) : hexText (bs ++ cs) = hexText bs ++ hexText cs :=
  List.flatMap_append

@[simp] theorem length_hexText (bs : Bytes) : (hexText bs).length = 2 * bs.length := by
  induction bs with
  | nil => rfl
  | cons b bs ih =>
      rw [hexText_cons, List.length_append, length_fixedHex, ih, List.length_cons]
      omega

theorem allHex_hexText (bs : Bytes) : AllHex (hexText bs) := by
  induction bs with
  | nil => rfl
  | cons b bs ih => exact (allHex_fixedHex 2 b.toNat).append ih

theorem drop_hexText (bs : Bytes) (n : Nat) : (hexText bs).drop (2 * n) = hexText (bs.drop n) := by
  induction bs generalizing n with
  | nil => simp
  | cons b bs ih =>
      cases n with
      | zero => rfl
      | succ n =>
          rw [hexText_cons, List.drop_succ_cons, ← ih,
            show 2 * (n + 1) = (fixedHex 2 b.toNat).length + 2 * n by simp; omega,
            List.drop_length_add_append]

theorem take_hexText (bs : Bytes) (n : Nat) : (hexText bs).take (2 * n) = hexText (bs.take n) := by
  induction bs generalizing n with
  | nil => simp
  | cons b bs ih =>
      cases n with
      | zero => rfl
      | succ n =>
          rw [hexText_cons, List.take_succ_cons, hexText_cons, ← ih,
            show 2 * (n + 1) = (fixedHex 2 b.toNat).length + 2 * n by simp; omega,
            List.take_length_add_append]

/-- A slice of the rendering at byte positions renders the bytes between them. -/
theorem slice_hexText (bs : Bytes) (start stop : Nat) :
    slice (hexText bs) (2 * start) (2 * stop) = hexText ((bs.drop start).take (stop - start)) := by
  rw [slice, drop_hexText, ← Nat.mul_sub, take_hexText]

/-- The rendering as a base-16 numeral is the big-endian number of the bytes. -/
theorem numeral_hexText (bs : Bytes) : numeral 16 (hexText bs) = bs.toNat := by
  induction bs with
  | nil => rfl
  | cons b bs ih =>
      have high : b.toNat < 16 ^ 2 := b.isLt
      have length : ((hexText bs).map digitValue).length = 2 * bs.length := by simp
      have lead := numeral_fixedHex 2 b.toNat
      rw [numeral] at lead
      rw [numeral] at ih
      rw [hexText_cons, numeral, List.map_append, Positional.value_append, lead, ih, length,
        Bytes.toNat_cons, Nat.mod_eq_of_lt high, pow_mul]
      rfl

/-- Different byte strings have different renderings. -/
theorem hexText_injective : Function.Injective hexText := by
  intro bs cs same
  have length : bs.length = cs.length := by
    have lengths := congrArg List.length same
    rw [length_hexText, length_hexText] at lengths
    omega
  have number : bs.toNat = cs.toNat := by
    rw [← numeral_hexText, same, numeral_hexText]
  rw [← Bytes.ofNat_toNat bs, length, number, Bytes.ofNat_toNat]

/-- A word written in hexadecimal is the rendering of its bytes. -/
theorem hexText_ofNat (n v : Nat) : hexText (Bytes.ofNat n v) = fixedHex (2 * n) v := by
  rw [hexText, Bytes.ofNat, fixedHex, Positional.digits_mul_self 16, List.map_flatMap,
    List.flatMap_map]
  refine List.flatMap_congr fun d mem => ?_
  have small : d < 256 := Positional.lt_of_mem_digits (by norm_num) mem
  have number : (BitVec.ofNat 8 d).toNat = d := by
    rw [BitVec.toNat_ofNat]
    omega
  rw [number, fixedHex]
  simp only [Positional.digits, List.nil_append, List.singleton_append, List.map_cons,
    List.map_nil]
  rw [Nat.mod_eq_of_lt (by omega : d / 16 < 16)]

theorem parseIntHex_fixedHex : ∀ b : Byte, parseIntHex (fixedHex 2 b.toNat) = some (b.toNat : Int) := by
  decide +kernel

/-- Bytes parsed one after another, two digits each. -/
theorem map_parseIntHex (bs : Bytes) :
    (List.range bs.length).map (fun k =>
      parseIntHex (slice (hexText bs) (k * 2) (k * 2 + 2))) =
        bs.map fun b => some (b.toNat : Int) := by
  refine List.ext_getElem (by simp) fun k left right => ?_
  have inside : k < bs.length := by simpa using right
  have digits : slice (hexText bs) (k * 2) (k * 2 + 2) = fixedHex 2 bs[k].toNat := by
    have bytes := slice_hexText bs k (k + 1)
    rw [Nat.mul_comm k, ← Nat.mul_succ]
    rw [bytes, Nat.add_sub_cancel_left, List.drop_eq_getElem_cons inside, List.take_succ_cons,
      List.take_zero, hexText_cons, hexText_nil, List.append_nil]
  rw [List.getElem_map, List.getElem_map, List.getElem_range, digits, parseIntHex_fixedHex]

end Js

end AgentProof
