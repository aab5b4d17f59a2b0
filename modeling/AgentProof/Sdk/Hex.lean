import AgentProof.Sdk.Types

/-!
# Hex and units

`utils/hex.ts` and `utils/units.ts`: the slice of ABI decoding the SDK needs,
address normalisation, and the text forms of amounts.  The last section reads
the words and addresses of a byte string's rendering.
-/

namespace AgentProof

namespace Sdk

open Js

/-! ## `utils/hex.ts` -/

def isHex : Text → Bool
  | '0' :: 'x' :: body => body.all isHexDigit
  | _ => false

/-- First four bytes of calldata, `0x` for shorter data. -/
def selectorOf (data : Text) : Text :=
  if data.length ≥ 10 then slice data 0 10 else "0x".toList

/-- The nth 32-byte word after the selector. -/
def readWord (data : Text) (index : Nat) : Except JsError Nat :=
  let start := 10 + index * 64
  let word := slice data start (start + 64)
  if word.length ≠ 64 then thrown ("Calldata too short for word ".toList ++ toDecimal index)
  else bigIntHex word

/-- `/^0x[0-9a-fA-F]{40}$/`. -/
def isAddress : Text → Bool
  | '0' :: 'x' :: body => body.length == 40 && body.all isHexDigit
  | _ => false

/-- Lowercases an address for set membership. -/
def normalizeAddress (value : Text) : Except JsError Text :=
  if isAddress value then .ok (toLowerCase value)
  else thrown ("Not an address: ".toList ++ value)

/-- An integer as an address: `0x` and at least 40 digits. -/
def addressDigits (value : Nat) : Text := '0' :: 'x' :: padStart 40 '0' (toHex value)

/-- The nth word as a left-padded address; dirty upper bytes make it no address. -/
def readAddress (data : Text) (index : Nat) : Except JsError Text := do
  let value ← readWord data index
  normalizeAddress (addressDigits value)

/-- A set keeps the first occurrence of each value. -/
def addressSet (values : List Text) : Except JsError (List Text) := do
  let normalised ← values.mapM normalizeAddress
  .ok normalised.eraseDups

def isUnlimitedApproval (amount : Int) : Bool := amount ≥ 2 ^ 128 - 1

/-- `0x` and two digits a byte. -/
def bytesToHex (bytes : Bytes) : Text := '0' :: 'x' :: hexText bytes

theorem isHex_bytesToHex (bs : Bytes) : isHex (bytesToHex bs) = true := allHex_hexText bs

theorem bytesToHex_injective : Function.Injective bytesToHex := fun _ _ same =>
  hexText_injective (List.cons.inj (List.cons.inj same).2).2

/-! ## `utils/units.ts` -/

/-- The sentinel for an outflow that cannot be bounded. -/
def UNBOUNDED : Int := 2 ^ 255

def isUnbounded (amount : Int) : Bool := amount ≥ UNBOUNDED

def USDC_SCALE : Int := 10 ^ 6

/-- Commas after every third character, from the low end. -/
def commas : Text → Text
  | a :: b :: c :: d :: rest => a :: b :: c :: ',' :: commas (d :: rest)
  | s => s

/-- `toLocaleString('en-US')` of a bigint. -/
def toLocaleString (n : Int) : Text :=
  let digits := (commas (Nat.toDigits 10 n.natAbs).reverse).reverse
  if n < 0 then '-' :: digits else digits

def displayUsdc (amount : Int) : Text :=
  if isUnbounded amount then "an UNBOUNDED amount".toList
  else
    let whole := amount.tdiv USDC_SCALE
    let cents := padStart 2 '0' (toDecimal ((amount.tmod USDC_SCALE).tdiv 10000))
    toLocaleString whole ++ ".".toList ++ cents ++ " USDC".toList

/-- `JSON.stringify` of a string. -/
def jsonString (s : Text) : Text :=
  let escape (c : Char) : Text :=
    if c = '"' then ['\\', '"'] else if c = '\\' then ['\\', '\\']
    else if c.toNat = 8 then ['\\', 'b'] else if c.toNat = 12 then ['\\', 'f']
    else if c = '\n' then ['\\', 'n'] else if c = '\r' then ['\\', 'r']
    else if c = '\t' then ['\\', 't']
    else if c.toNat < 32 then ['\\', 'u'] ++ fixedHex 4 c.toNat
    else [c]
  '"' :: s.flatMap escape ++ ['"']

/-- Base-unit amounts only: an integer of one to six digits without a leading
zero is taken for an old display-unit value and refused. -/
def parseBaseUnitPolicyAmount (value : Text) : Except JsError Int :=
  let trimmed := trim value
  if ¬ (trimmed ≠ [] ∧ trimmed.all isDigit) then
    thrown ("Invalid base-unit policy amount: ".toList ++ jsonString value)
  else if trimmed.head? ≠ some '0' ∧ trimmed.length ≤ 6 then
    thrown ("Policy amount ".toList ++ jsonString value ++
      (" looks like an old display-unit value. The PRD schema stores USDC base units; " ++
        "use \"100000000\" for 100 USDC.").toList)
  else .ok (numeral 10 trimmed : Nat)

/-! ## Addresses -/

/-- The lower-case text of an address. -/
def addressText (a : Address) : Text := bytesToHex (Bytes.ofNat 20 a.toNat)

/-- The address a text denotes. -/
def addressOf (t : Text) : Address := BitVec.ofNat 160 (numeral 16 (t.drop 2))

theorem addressText_eq (a : Address) : addressText a = '0' :: 'x' :: fixedHex 40 a.toNat := by
  rw [addressText, bytesToHex, hexText_ofNat]

@[simp] theorem addressOf_addressText (a : Address) : addressOf (addressText a) = a := by
  have fits : a.toNat < 16 ^ 40 := a.isLt
  rw [addressText_eq, addressOf, List.drop_succ_cons, List.drop_succ_cons, List.drop_zero,
    numeral_fixedHex, Nat.mod_eq_of_lt fits]
  exact BitVec.ofNat_toNat 160 a

theorem addressText_injective : Function.Injective addressText :=
  Function.LeftInverse.injective addressOf_addressText

/-- An address is written in hexadecimal digits, but for the `x`. -/
theorem hex_of_mem_addressText {a : Address} {c : Char} (mem : c ∈ addressText a) :
    c = 'x' ∨ isHexDigit c = true := by
  rw [addressText_eq] at mem
  rcases List.mem_cons.mp mem with rfl | mem
  · exact .inr (by decide)
  · rcases List.mem_cons.mp mem with rfl | mem
    · exact .inl rfl
    · exact .inr (List.all_eq_true.mp (allHex_fixedHex 40 a.toNat) c mem)

@[simp] theorem isAddress_addressText (a : Address) : isAddress (addressText a) = true := by
  have hex : (fixedHex 40 a.toNat).all isHexDigit = true := allHex_fixedHex 40 a.toNat
  rw [addressText_eq]
  simp [isAddress, hex]

/-- A hexadecimal digit in lower case is the digit of its value. -/
theorem toLower_of_isHexDigit {c : Char} (hex : isHexDigit c = true) :
    digitValue c < 16 ∧ c.toLower = Nat.digitChar (digitValue c) := by
  have code : c = Char.ofNat c.toNat := (Char.ofNat_toNat c).symm
  simp only [isHexDigit, isDigit, Bool.or_eq_true, Bool.and_eq_true, decide_eq_true_eq] at hex
  generalize c.toNat = n at hex code
  subst code
  rcases hex with (⟨low, high⟩ | ⟨low, high⟩) | ⟨low, high⟩ <;> interval_cases n <;> decide

/-- Lower-case hexadecimal text is the fixed-width numeral of its value. -/
theorem toLowerCase_of_allHex {s : Text} (hex : AllHex s) :
    toLowerCase s = fixedHex s.length (numeral 16 s) := by
  simp only [AllHex, List.all_eq_true] at hex
  have inRange : ∀ d ∈ s.map digitValue, d < 16 := by
    rintro _ mem
    obtain ⟨c, cmem, rfl⟩ := List.mem_map.mp mem
    exact (toLower_of_isHexDigit (hex c cmem)).1
  have digits := Positional.digits_value inRange
  rw [List.length_map] at digits
  rw [fixedHex, numeral, digits, List.map_map, toLowerCase]
  exact List.map_congr_left fun c mem => (toLower_of_isHexDigit (hex c mem)).2

theorem numeral_lt {s : Text} (hex : AllHex s) : numeral 16 s < 16 ^ s.length := by
  have small : Positional.value 16 (s.map digitValue) < 16 ^ (s.map digitValue).length :=
    Positional.value_lt fun d mem => by
      obtain ⟨c, cmem, rfl⟩ := List.mem_map.mp mem
      exact (toLower_of_isHexDigit (List.all_eq_true.mp hex c cmem)).1
  rwa [List.length_map] at small

/-- The digits of an address and their number. -/
theorem isAddress_eq_true {t : Text} (valid : isAddress t = true) :
    ∃ body, t = '0' :: 'x' :: body ∧ body.length = 40 ∧ AllHex body ∧
      (addressOf t).toNat = numeral 16 body := by
  unfold isAddress at valid
  split at valid
  · next body =>
      simp only [Bool.and_eq_true, beq_iff_eq] at valid
      obtain ⟨length, hex⟩ := valid
      have bound : numeral 16 body < 2 ^ 160 := by
        have small := numeral_lt hex
        rw [length] at small
        exact small
      refine ⟨body, rfl, length, hex, ?_⟩
      rw [addressOf, BitVec.toNat_ofNat]
      exact Nat.mod_eq_of_lt bound
  · simp at valid

/-- Normalising keeps the address and forgets the letter case. -/
theorem normalizeAddress_of_isAddress {t : Text} (valid : isAddress t = true) :
    normalizeAddress t = .ok (addressText (addressOf t)) := by
  rw [normalizeAddress, if_pos valid]
  obtain ⟨body, rfl, length, hex, number⟩ := isAddress_eq_true valid
  have lower := toLowerCase_of_allHex hex
  rw [length] at lower
  rw [addressText_eq, number, ← lower]
  rfl

theorem normalizeAddress_eq_ok_iff {t normalised : Text} :
    normalizeAddress t = .ok normalised ↔
      isAddress t = true ∧ normalised = addressText (addressOf t) := by
  by_cases valid : isAddress t = true
  · rw [normalizeAddress_of_isAddress valid, Except.ok.injEq, and_iff_right valid]
    exact eq_comm
  · rw [normalizeAddress, if_neg valid]
    simp [thrown, valid]

@[simp] theorem normalizeAddress_addressText (a : Address) :
    normalizeAddress (addressText a) = .ok (addressText a) := by
  rw [normalizeAddress_of_isAddress (isAddress_addressText a), addressOf_addressText]

theorem toLowerCase_addressText (a : Address) : toLowerCase (addressText a) = addressText a := by
  have normal := normalizeAddress_addressText a
  rw [normalizeAddress, if_pos (isAddress_addressText a)] at normal
  exact Except.ok.inj normal

/-- An address-sized integer is written as its address. -/
theorem normalizeAddress_addressDigits {v : Nat} (fits : v < 2 ^ 160) :
    normalizeAddress (addressDigits v) = .ok (addressText (BitVec.ofNat 160 v)) := by
  have number : (BitVec.ofNat 160 v).toNat = v := by
    rw [BitVec.toNat_ofNat, Nat.mod_eq_of_lt fits]
  have text : addressDigits v = addressText (BitVec.ofNat 160 v) := by
    rw [addressDigits, addressText_eq, number, padStart_toHex fits (by norm_num)]
  rw [text, normalizeAddress_addressText]

/-- A larger integer has too many digits to be an address. -/
theorem normalizeAddress_addressDigits_of_ge {v : Nat} (large : 2 ^ 160 ≤ v) :
    ∃ e, normalizeAddress (addressDigits v) = .error e := by
  have long : ¬ (toHex v).length ≤ 40 := by
    rw [toHex, Nat.length_toDigits_le_iff (by norm_num) (by norm_num)]
    exact not_lt.mpr large
  have body : (padStart 40 '0' (toHex v)).length ≠ 40 := by
    rw [padStart, List.length_append, List.length_replicate]
    omega
  have invalid : ¬ isAddress (addressDigits v) = true := by
    simp [isAddress, addressDigits, body]
  exact ⟨_, if_neg invalid⟩

/-! ## Words of rendered bytes -/

/-- The digits of a word inside a byte string. -/
theorem slice_word_hexText {bs : Bytes} {offset : Nat} (inside : offset + 32 ≤ bs.length) :
    slice (hexText bs) (2 * offset) (2 * offset + 64) = hexText (readPadded bs offset 32) := by
  have inner := slice_hexText bs offset (offset + 32)
  rw [Nat.add_sub_cancel_left] at inner
  rw [readPadded_eq_take inside, ← inner]
  rfl

/-- The same behind the `0x`. -/
theorem slice_word_bytesToHex {bs : Bytes} {offset : Nat} (inside : offset + 32 ≤ bs.length) :
    slice (bytesToHex bs) (2 * offset + 2) (2 * offset + 66) = hexText (readPadded bs offset 32) := by
  rw [← slice_word_hexText inside]
  simp only [slice, bytesToHex, List.drop_succ_cons]
  congr 1
  omega

/-- A word's digits denote the word. -/
theorem bigIntHex_word (bs : Bytes) (offset : Nat) :
    bigIntHex (hexText (readPadded bs offset 32)) = .ok (wordAt bs offset).toNat := by
  have bound : (readPadded bs offset 32).toNat < 2 ^ 256 := by
    have small := Bytes.toNat_lt (readPadded bs offset 32)
    rw [length_readPadded] at small
    exact small
  have nonempty : hexText (readPadded bs offset 32) ≠ [] := by
    rw [← List.length_pos_iff, length_hexText, length_readPadded]
    omega
  rw [bigIntHex_of_allHex (allHex_hexText _) nonempty, numeral_hexText, wordAt,
    BitVec.toNat_ofNat, Nat.mod_eq_of_lt bound]

/-- A word inside the calldata reads as the EVM word. -/
theorem readWord_bytesToHex {bs : Bytes} {index : Nat}
    (inside : 4 + 32 * index + 32 ≤ bs.length) :
    readWord (bytesToHex bs) index = .ok (wordAt bs (4 + 32 * index)).toNat := by
  have word : slice (bytesToHex bs) (10 + index * 64) (10 + index * 64 + 64) =
      hexText (readPadded bs (4 + 32 * index) 32) := by
    rw [← slice_word_bytesToHex inside]
    congr 1
    all_goals omega
  unfold readWord
  simp only [word, length_hexText, length_readPadded, ne_eq, not_true_eq_false, if_false]
  exact bigIntHex_word bs _

/-- An address argument reads as the EVM address, when its word is clean. -/
theorem readAddress_bytesToHex {bs : Bytes} {index : Nat}
    (inside : 4 + 32 * index + 32 ≤ bs.length)
    (clean : (wordAt bs (4 + 32 * index)).toNat < 2 ^ 160) :
    readAddress (bytesToHex bs) index =
      .ok (addressText ((wordAt bs (4 + 32 * index)).setWidth 160)) := by
  rw [readAddress, readWord_bytesToHex inside]
  exact normalizeAddress_addressDigits clean

/-- The selector text is the rendering of the first four bytes. -/
theorem selectorOf_bytesToHex {bs : Bytes} (four : 4 ≤ bs.length) :
    selectorOf (bytesToHex bs) = bytesToHex (bs.take 4) := by
  have long : (bytesToHex bs).length ≥ 10 := by
    simp [bytesToHex]
    omega
  have head := slice_hexText bs 0 4
  rw [selectorOf, if_pos long]
  simp only [slice, bytesToHex, Nat.mul_zero, List.drop_zero, Nat.sub_zero] at head ⊢
  rw [← head]
  rfl

/-- Four bytes that denote a selector are its rendering. -/
theorem selectorOf_of_bytes {calldata : Bytes} {selector : Bytes4} (four : 4 ≤ calldata.length)
    (denotes : AgentProof.selectorOf calldata = selector) :
    selectorOf (bytesToHex calldata) = bytesToHex (Bytes.ofNat 4 selector.toNat) := by
  have head : (calldata.take 4).length = 4 := by
    rw [List.length_take]
    omega
  have number : Bytes.toNat (calldata.take 4) = selector.toNat := by
    have bound := Bytes.toNat_lt (calldata.take 4)
    have same := congrArg BitVec.toNat denotes
    rw [AgentProof.selectorOf, readPadded_eq_take (by omega), List.drop_zero,
      BitVec.toNat_ofNat] at same
    rw [head] at bound
    exact (Nat.mod_eq_of_lt bound).symm.trans same
  have bytes := Bytes.ofNat_toNat (calldata.take 4)
  rw [head, number] at bytes
  rw [selectorOf_bytesToHex four, bytes]

end Sdk

end AgentProof
