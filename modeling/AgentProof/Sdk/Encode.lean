import AgentProof.Lib.FoldM
import AgentProof.Sdk.CommandStream

/-!
# Calldata encoders

`testing/calldata.ts`: the words, `bytes` arguments, router calls and swap
inputs that agents and fixtures build.  A router call reads back: the parser
finds the head and every element where the encoder put them.
-/

namespace AgentProof

namespace Sdk

namespace Calldata

open Js UniswapV4

/-- The length of the longest string the language has. -/
def MAX_LENGTH : Nat := 2 ^ 53 - 1

def word (value : Nat) : Text := padStart 64 '0' (toHex value)

def padBytes (hexBody : Text) : Text :=
  let words := (hexBody.length + 63) / 64
  padEnd (words * 64) '0' hexBody

/-- The length word, in bytes, and the content; `BigInt` takes no half. -/
def encodeBytes (hexBody : Text) : Except JsError Text :=
  if hexBody.length % 2 ≠ 0 then
    .error ⟨"RangeError".toList, "The number ".toList ++ toDecimal (hexBody.length / 2 : Nat) ++
      ".5 cannot be converted to a BigInt because it is not an integer".toList⟩
  else .ok (word (hexBody.length / 2) ++ padBytes hexBody)

/-- The offsets of the elements, relative to the first of them. -/
def offsetWords (cursor : Nat) : List Text → Text
  | [] => []
  | element :: rest => word cursor ++ offsetWords (cursor + element.length / 2) rest

def encodeUniversalRouterExecute (commands : List Nat) (inputs : List Text) :
    Except JsError Text := do
  if commands.length ≠ inputs.length then
    thrown "encodeUniversalRouterExecute: commands and inputs must be the same length".toList
  else
    let commandsBody := commands.flatMap fun c => padStart 2 '0' (toHex c)
    let commandsSection ← encodeBytes commandsBody
    let elements ← inputs.mapM encodeBytes
    let inputsSection := word elements.length ++ offsetWords (elements.length * 32) elements ++
      elements.flatten
    let offsetCommands := 64
    let offsetInputs := offsetCommands + commandsSection.length / 2
    let call := "0x24856bc3".toList ++ word offsetCommands ++ word offsetInputs ++
      commandsSection ++ inputsSection
    if MAX_LENGTH < call.length then
      .error ⟨"RangeError".toList, "Invalid string length".toList⟩
    else .ok call

/-! ## Words and frames -/

theorem word_eq {v : Nat} (fits : v < 2 ^ 256) : word v = fixedHex 64 v := by
  have digits : v < 16 ^ 64 := fits
  exact padStart_toHex digits (by norm_num)

theorem length_word {v : Nat} (fits : v < 2 ^ 256) : (word v).length = 64 := by
  rw [word_eq fits, length_fixedHex]

theorem length_word_ge (v : Nat) : 64 ≤ (word v).length := by
  rw [word, padStart, List.length_append, List.length_replicate]
  omega

/-- A word reads back. -/
theorem bigIntHex_word {v : Nat} (fits : v < 2 ^ 256) : bigIntHex (word v) = .ok v := by
  have digits : v < 16 ^ 64 := fits
  have nonempty : fixedHex 64 v ≠ [] := by
    rw [← List.length_pos_iff, length_fixedHex]
    norm_num
  rw [word_eq fits, bigIntHex_of_allHex (allHex_fixedHex 64 v) nonempty, numeral_fixedHex,
    Nat.mod_eq_of_lt digits]

/-- A word behind anything. -/
theorem bigIntHex_slice_word {front rest : Text} {start stop v : Nat} (fits : v < 2 ^ 256)
    (first : front.length = start) (last : start + 64 = stop) :
    bigIntHex (slice (front ++ (word v ++ rest)) start stop) = .ok v := by
  rw [slice_append first (by rw [length_word fits]; exact last), bigIntHex_word fits]

/-- Of a number too large for a word, the 64 digits of the greatest weight are read. -/
theorem take_word (y : Nat) :
    ∃ j, (word y).take 64 = fixedHex 64 (y / 16 ^ j) ∧ y / 16 ^ j < 16 ^ 64 := by
  have fits : y < 16 ^ (64 + ((toHex y).length - 64)) :=
    (Nat.length_toDigits_le_iff (by norm_num) (by omega)).mp (by rw [toHex]; omega)
  have digits : word y = fixedHex (64 + ((toHex y).length - 64)) y := by
    rw [← padStart_toHex fits (by omega), word, padStart, padStart]
    congr 2
    omega
  refine ⟨(toHex y).length - 64, ?_, ?_⟩
  · rw [digits, take_fixedHex]
  · rw [pow_add, Nat.mul_comm] at fits
    exact Nat.div_lt_of_lt_mul fits

theorem length_word_address (a : Address) : (word a.toNat).length = 64 :=
  length_word (a.isLt.trans (by norm_num))

/-- A word behind others reads back. -/
theorem readWord_append {front rest : Text} {index v : Nat} (fits : v < 2 ^ 256)
    (behind : front.length = 10 + index * 64) :
    readWord (front ++ (word v ++ rest)) index = .ok v := by
  have length := length_word fits
  have whole : slice (front ++ (word v ++ rest)) (10 + index * 64) (10 + index * 64 + 64) =
      word v := slice_append behind (by rw [length])
  simp only [readWord, whole, length, ne_eq, not_true_eq_false, if_false]
  exact bigIntHex_word fits

theorem readAddress_append {front rest : Text} {index : Nat} (a : Address)
    (behind : front.length = 10 + index * 64) :
    readAddress (front ++ (word a.toNat ++ rest)) index = .ok (addressText a) := by
  have fits : a.toNat < 2 ^ 160 := a.isLt
  have word := @readWord_append front rest index a.toNat (fits.trans (by norm_num)) behind
  have text := normalizeAddress_addressDigits fits
  rw [BitVec.ofNat_toNat, BitVec.setWidth_eq] at text
  rw [readAddress, word]
  exact text

/-- The text of a `bytes` argument. -/
def frameText (content : Text) : Text := word (content.length / 2) ++ padBytes content

theorem encodeBytes_eq_ok_iff {content element : Text} :
    encodeBytes content = .ok element ↔ content.length % 2 = 0 ∧ frameText content = element := by
  rw [encodeBytes, guard_eq_ok_iff, not_not, Except.ok.injEq, frameText]

theorem mapM_encodeBytes_eq_ok_iff {inputs elements : List Text} :
    inputs.mapM encodeBytes = .ok elements ↔
      (∀ input ∈ inputs, input.length % 2 = 0) ∧ inputs.map frameText = elements :=
  FoldM.mapM_eq_ok_iff fun _ _ => encodeBytes_eq_ok_iff

theorem length_padBytes (content : Text) :
    (padBytes content).length = (content.length + 63) / 64 * 64 := by
  rw [padBytes, padEnd, List.length_append, List.length_replicate]
  omega

/-- The length of a frame whose length word fits. -/
def frameLength (content : Text) : Nat := 64 + (content.length + 63) / 64 * 64

theorem length_frameText_ge (content : Text) : frameLength content ≤ (frameText content).length := by
  have first := length_word_ge (content.length / 2)
  rw [frameText, List.length_append, length_padBytes, frameLength]
  omega

theorem length_frameText {content : Text} (fits : frameLength content < 2 ^ 256) :
    (frameText content).length = frameLength content := by
  unfold frameLength at fits ⊢
  rw [frameText, List.length_append, length_padBytes, length_word (by omega)]

/-- A frame behind anything. -/
theorem frameAt_append {front rest content : Text} {p : Nat} (even : content.length % 2 = 0)
    (fits : content.length < 2 ^ 256) (at_p : front.length = p * 2) :
    FrameAt (front ++ (frameText content ++ rest)) p content where
  number := by
    rw [frameText, List.append_assoc]
    exact bigIntHex_slice_word (by omega) at_p rfl
  even := even
  content_eq := by
    have split : front ++ (frameText content ++ rest) = (front ++ word (content.length / 2)) ++
        (content ++ (List.replicate ((content.length + 63) / 64 * 64 - content.length) '0' ++
          rest)) := by
      simp only [frameText, padBytes, padEnd, List.append_assoc]
    rw [split]
    refine slice_append ?_ rfl
    rw [List.length_append, at_p, length_word (by omega)]

/-! ## The array -/

/-- How far the elements before `i` reach, in bytes. -/
def reach (elements : List Text) (i : Nat) : Nat := ((elements.take i).flatten.length) / 2

theorem length_offsetWords_ge (cursor : Nat) (elements : List Text) :
    64 * elements.length ≤ (offsetWords cursor elements).length := by
  induction elements generalizing cursor with
  | nil => exact Nat.le_refl 0
  | cons element rest ih =>
      have first := length_word_ge cursor
      have later := ih (cursor + element.length / 2)
      rw [offsetWords, List.length_append, List.length_cons]
      omega

theorem length_offsetWords {cursor : Nat} {elements : List Text}
    (fits : cursor + elements.flatten.length < 2 ^ 256) :
    (offsetWords cursor elements).length = 64 * elements.length := by
  induction elements generalizing cursor with
  | nil => rfl
  | cons element rest ih =>
      rw [List.flatten_cons, List.length_append] at fits
      rw [offsetWords, List.length_append, length_word (by omega), ih (by omega), List.length_cons]
      omega

/-- The offset word of element `i` stands behind `i` others. -/
theorem offsetWords_split {cursor i : Nat} {elements : List Text} {element : Text}
    (evens : ∀ e ∈ elements, e.length % 2 = 0) (at_i : elements[i]? = some element)
    (fits : cursor + elements.flatten.length < 2 ^ 256) :
    ∃ front rest, offsetWords cursor elements =
      front ++ (word (cursor + reach elements i) ++ rest) ∧ front.length = 64 * i := by
  induction elements generalizing cursor i with
  | nil => simp at at_i
  | cons head tail ih =>
      rw [List.flatten_cons, List.length_append] at fits
      have even := evens head List.mem_cons_self
      cases i with
      | zero => exact ⟨[], offsetWords (cursor + head.length / 2) tail, by simp [offsetWords, reach], rfl⟩
      | succ i =>
          obtain ⟨front, rest, split, length⟩ := @ih (cursor + head.length / 2) i
            (fun e mem => evens e (List.mem_cons_of_mem head mem)) (by simpa using at_i) (by omega)
          have reached : cursor + head.length / 2 + reach tail i =
              cursor + reach (head :: tail) (i + 1) := by
            simp only [reach, List.take_succ_cons, List.flatten_cons, List.length_append]
            omega
          refine ⟨word cursor ++ front, rest, ?_, ?_⟩
          · rw [offsetWords, split, reached, List.append_assoc]
          · rw [List.length_append, length_word (by omega), length]
            omega

/-- Element `i` between those before and those after it. -/
theorem flatten_split {elements : List Text} {i : Nat} {element : Text}
    (at_i : elements[i]? = some element) :
    elements.flatten = (elements.take i).flatten ++ (element ++ (elements.drop (i + 1)).flatten) := by
  obtain ⟨inside, rfl⟩ := List.getElem?_eq_some_iff.mp at_i
  rw [← List.flatten_cons, ← List.drop_eq_getElem_cons inside, ← List.flatten_append,
    List.take_append_drop]

theorem flatten_even {es : List Text} (evens : ∀ e ∈ es, e.length % 2 = 0) :
    es.flatten.length % 2 = 0 := by
  induction es with
  | nil => rfl
  | cons e rest ih =>
      have first := evens e List.mem_cons_self
      have later := ih fun e mem => evens e (List.mem_cons_of_mem _ mem)
      rw [List.flatten_cons, List.length_append]
      omega

/-! ## The call -/

/-- The arguments of the call. -/
def argumentsText (commandsBody : Text) (inputs : List Text) : Text :=
  word 64 ++ (word (64 + (frameText commandsBody).length / 2) ++ (frameText commandsBody ++
    (word inputs.length ++ (offsetWords (inputs.length * 32) (inputs.map frameText) ++
      (inputs.map frameText).flatten))))

theorem flatMap_padStart (commands : Bytes) :
    (commands.map BitVec.toNat).flatMap (fun c => padStart 2 '0' (toHex c)) = hexText commands := by
  rw [List.flatMap_map, hexText]
  refine List.flatMap_congr fun b _ => ?_
  have small : b.toNat < 16 ^ 2 := b.isLt
  exact padStart_toHex small (by norm_num)

/-- When the encoder returns, and what. -/
theorem encodeUniversalRouterExecute_eq_ok_iff {commands : Bytes} {inputs : List Text}
    {data : Text} :
    encodeUniversalRouterExecute (commands.map BitVec.toNat) inputs = .ok data ↔
      commands.length = inputs.length ∧ (∀ input ∈ inputs, input.length % 2 = 0) ∧
        10 + (argumentsText (hexText commands) inputs).length ≤ MAX_LENGTH ∧
        "0x24856bc3".toList ++ argumentsText (hexText commands) inputs = data := by
  have even : (hexText commands).length % 2 = 0 := by
    rw [length_hexText]
    omega
  have section_ : encodeBytes (hexText commands) = .ok (frameText (hexText commands)) :=
    encodeBytes_eq_ok_iff.mpr ⟨even, rfl⟩
  have call : "0x24856bc3".toList ++ word 64 ++
      word (64 + (frameText (hexText commands)).length / 2) ++ frameText (hexText commands) ++
        (word (inputs.map frameText).length ++ offsetWords ((inputs.map frameText).length * 32)
          (inputs.map frameText) ++ (inputs.map frameText).flatten) =
      "0x24856bc3".toList ++ argumentsText (hexText commands) inputs := by
    simp only [argumentsText, List.length_map, List.append_assoc]
  have length_map_toNat : (commands.map BitVec.toNat).length = commands.length :=
    List.length_map BitVec.toNat
  have ten : ∀ rest : Text, ("0x24856bc3".toList ++ rest).length = 10 + rest.length :=
    fun rest => List.length_append
  unfold encodeUniversalRouterExecute
  simp only [flatMap_padStart, section_, bind_eq_ok_iff, mapM_encodeBytes_eq_ok_iff, thrown,
    guard_eq_ok_iff, Except.ok.injEq, not_lt, not_not,
    length_map_toNat]
  constructor
  · rintro ⟨same, _, rfl, _, ⟨evens, rfl⟩, short, rfl⟩
    rw [call, ten] at short
    exact ⟨same, evens, short, call.symm⟩
  · rintro ⟨same, evens, short, rfl⟩
    refine ⟨same, _, rfl, _, ⟨evens, rfl⟩, ?_, call⟩
    rw [call, ten]
    exact short

/-! ## Reading it back -/

section Layout

variable {body : Text} {commands : Bytes} {inputs : List Text}

/-- Byte position of the inputs array. -/
def inputsAt (body : Text) : Nat := 64 + (frameText body).length / 2

theorem evens_frameText (content : Text) (fits : (frameText content).length < 2 ^ 256) :
    (frameText content).length % 2 = 0 := by
  rw [length_frameText (lt_of_le_of_lt (length_frameText_ge content) fits), frameLength]
  omega

/-- What a short call leaves room for. -/
theorem argumentsText_fits (short : 10 + (argumentsText body inputs).length ≤ MAX_LENGTH) :
    (frameText body).length < 2 ^ 53 ∧
      inputs.length * 64 + (inputs.map frameText).flatten.length < 2 ^ 53 := by
  have offsets := length_offsetWords_ge (inputs.length * 32) (inputs.map frameText)
  rw [List.length_map] at offsets
  simp only [argumentsText, List.length_append, MAX_LENGTH] at short
  constructor
  · omega
  · omega

/-- The call up to its array, and the array. -/
theorem argumentsText_split (short : 10 + (argumentsText body inputs).length ≤ MAX_LENGTH) :
    ∃ front, argumentsText body inputs = front ++ (word inputs.length ++
        (offsetWords (inputs.length * 32) (inputs.map frameText) ++
          (inputs.map frameText).flatten)) ∧
      front.length = inputsAt body * 2 := by
  obtain ⟨room, -⟩ := argumentsText_fits short
  have even := evens_frameText body (by omega)
  refine ⟨word 64 ++ (word (64 + (frameText body).length / 2) ++ frameText body), ?_, ?_⟩
  · simp only [argumentsText, List.append_assoc]
  · rw [List.length_append, List.length_append, length_word (by norm_num), length_word (by omega),
      inputsAt]
    omega

/-- The length of the arguments when every word fits. -/
def argumentsSize (body : Text) (inputs : List Text) : Nat :=
  192 + frameLength body + (inputs.map fun input => 64 + frameLength input).sum

theorem argumentsSize_le (body : Text) (inputs : List Text) :
    argumentsSize body inputs ≤ (argumentsText body inputs).length := by
  have first := length_word_ge 64
  have second := length_word_ge (64 + (frameText body).length / 2)
  have count := length_word_ge inputs.length
  have commands := length_frameText_ge body
  have offsets := length_offsetWords_ge (inputs.length * 32) (inputs.map frameText)
  have elements : (inputs.map fun input => 64 + frameLength input).sum ≤
      64 * inputs.length + (inputs.map frameText).flatten.length := by
    clear offsets count
    induction inputs with
    | nil => exact Nat.le_refl 0
    | cons input rest ih =>
        have here := length_frameText_ge input
        rw [List.map_cons, List.sum_cons, List.map_cons, List.flatten_cons, List.length_append,
          List.length_cons]
        omega
  rw [List.length_map] at offsets
  simp only [argumentsText, argumentsSize, List.length_append]
  omega

theorem length_map_frameText
    (small : (inputs.map fun input => 64 + frameLength input).sum < 2 ^ 256) :
    (inputs.map frameText).flatten.length + 64 * inputs.length =
      (inputs.map fun input => 64 + frameLength input).sum := by
  induction inputs with
  | nil => rfl
  | cons input rest ih =>
      rw [List.map_cons, List.sum_cons] at small
      rw [List.map_cons, List.map_cons, List.sum_cons, List.flatten_cons, List.length_append,
        List.length_cons, length_frameText (by omega), ← ih (by omega)]
      omega

theorem length_argumentsText (small : argumentsSize body inputs < 2 ^ 53) :
    (argumentsText body inputs).length = argumentsSize body inputs := by
  unfold argumentsSize at small ⊢
  have elements := @length_map_frameText inputs (by omega)
  simp only [argumentsText, List.length_append]
  rw [length_frameText (by omega), length_word (by norm_num), length_word (by omega),
    length_word (by omega), length_offsetWords (by omega), List.length_map]
  omega

/-- A call fits a string when its size does. -/
theorem argumentsText_short_iff : 10 + (argumentsText body inputs).length ≤ MAX_LENGTH ↔
    10 + argumentsSize body inputs ≤ MAX_LENGTH := by
  constructor
  · intro short
    exact (Nat.add_le_add_left (argumentsSize_le body inputs) 10).trans short
  · intro short
    rw [length_argumentsText (by rw [MAX_LENGTH] at short; omega)]
    exact short

theorem headAt_argumentsText (hasDeadline : Bool)
    (short : 10 + (argumentsText (hexText commands) inputs).length ≤ MAX_LENGTH) :
    HeadAt (argumentsText (hexText commands) inputs) hasDeadline commands
      (inputsAt (hexText commands)) inputs.length := by
  obtain ⟨room, array⟩ := argumentsText_fits short
  have whole := length_frameText_ge (hexText commands)
  rw [frameLength] at whole
  obtain ⟨front, split, behind⟩ := argumentsText_split short
  have first : (word 64).length = 64 := length_word (by norm_num)
  have second : (word (64 + (frameText (hexText commands)).length / 2)).length = 64 :=
    length_word (by omega)
  have small : inputsAt (hexText commands) < 2 ^ 256 := by
    rw [inputsAt]
    omega
  refine ⟨⟨64, ?_, ?_⟩, ?_, fun _ => ⟨(hexText commands).length / 2, ?_⟩, ?_⟩
  · exact @bigIntHex_slice_word [] _ 0 64 64 (by norm_num) rfl rfl
  · rw [argumentsText, ← List.append_assoc]
    refine frameAt_append ?_ (by omega) ?_
    · rw [length_hexText]
      omega
    · rw [List.length_append, first, second]
  · exact bigIntHex_slice_word small first rfl
  · have regroup : argumentsText (hexText commands) inputs =
        (word 64 ++ word (64 + (frameText (hexText commands)).length / 2)) ++
          (word ((hexText commands).length / 2) ++ (padBytes (hexText commands) ++
            (word inputs.length ++ (offsetWords (inputs.length * 32) (inputs.map frameText) ++
              (inputs.map frameText).flatten)))) := by
      simp only [argumentsText, frameText, List.append_assoc]
    rw [regroup]
    refine bigIntHex_slice_word (by omega) ?_ rfl
    rw [List.length_append, first, second]
  · rw [split]
    exact bigIntHex_slice_word (by omega) behind rfl

/-- Frames of an array that fits have whole bytes. -/
theorem evens_map_frameText (fits : (inputs.map frameText).flatten.length < 2 ^ 256) :
    ∀ frame ∈ inputs.map frameText, frame.length % 2 = 0 := by
  intro frame mem
  have inside := (List.sublist_flatten_of_mem mem).length_le
  obtain ⟨input, -, rfl⟩ := List.mem_map.mp mem
  exact evens_frameText input (by omega)

theorem elementAt_argumentsText {i : Nat} {input : Text}
    (short : 10 + (argumentsText body inputs).length ≤ MAX_LENGTH)
    (evens : ∀ input ∈ inputs, input.length % 2 = 0) (at_i : inputs[i]? = some input) :
    ElementAt (argumentsText body inputs) (inputsAt body) i input := by
  obtain ⟨-, room⟩ := argumentsText_fits short
  obtain ⟨front, split, behind⟩ := argumentsText_split short
  have frames := @evens_map_frameText inputs (by omega)
  have at_frame : (inputs.map frameText)[i]? = some (frameText input) := by
    rw [List.getElem?_map, at_i]
    rfl
  have count : (word inputs.length).length = 64 := length_word (by omega)
  have offsets : (offsetWords (inputs.length * 32) (inputs.map frameText)).length =
      64 * inputs.length := by
    rw [length_offsetWords (by omega), List.length_map]
  obtain ⟨before, after, words, position⟩ := offsetWords_split frames at_frame
    (show inputs.length * 32 + (inputs.map frameText).flatten.length < 2 ^ 256 by omega)
  have elements := flatten_split at_frame
  have total := congrArg List.length elements
  rw [List.length_append, List.length_append] at total
  have skipped := flatten_even fun e mem => frames e (List.mem_of_mem_take (i := i) mem)
  have near : inputs.length * 32 + reach (inputs.map frameText) i < 2 ^ 256 := by
    rw [reach]
    omega
  refine ⟨inputs.length * 32 + reach (inputs.map frameText) i, ?_, ?_⟩
  · -- the offset word stands behind `i` others
    have regroup : front ++ (word inputs.length ++ (before ++ (word (inputs.length * 32 +
        reach (inputs.map frameText) i) ++ after) ++ (inputs.map frameText).flatten)) =
        (front ++ (word inputs.length ++ before)) ++ (word (inputs.length * 32 +
          reach (inputs.map frameText) i) ++ (after ++ (inputs.map frameText).flatten)) := by
      simp only [List.append_assoc]
    rw [distanceAt, split, words, regroup]
    refine bigIntHex_slice_word near ?_ (by omega)
    rw [List.length_append, List.length_append, behind, count, position]
    omega
  · -- and points behind the elements before it
    rw [split, elements, ← List.append_assoc, ← List.append_assoc, ← List.append_assoc]
    refine frameAt_append (evens input (List.mem_of_getElem? at_i)) ?_ ?_
    · have long := length_frameText_ge input
      rw [frameLength] at long
      omega
    · rw [List.length_append, List.length_append, List.length_append, behind, count, offsets, reach]
      omega

/-- A built call reads back, whatever the texts of its inputs. -/
theorem readCommandStream_encodeUniversalRouterExecute {data : Text} (hasDeadline : Bool)
    (encoded : encodeUniversalRouterExecute (commands.map BitVec.toNat) inputs = .ok data) :
    readCommandStream data hasDeadline = .ok ⟨commandsOf commands, inputs⟩ := by
  obtain ⟨same, evens, short, rfl⟩ := encodeUniversalRouterExecute_eq_ok_iff.mp encoded
  exact readCommandStream_of_elements rfl (headAt_argumentsText hasDeadline short)
    (fun _ _ at_k => elementAt_argumentsText short evens at_k) same

end Layout

/-! ## The stream the router sees -/

/-- On calldata Solidity decodes, the parser returns what Solidity does or throws.  A call that
fits a string is built, and reads back. -/
theorem readCommandStream_faithful :
    (∀ (data : Bytes) (hasDeadline : Bool) (commands : Bytes) (inputs : List Bytes),
      4 ≤ data.length → Abi.decodeExecute data hasDeadline = some (commands, inputs) →
        readCommandStream (bytesToHex data) hasDeadline =
            .ok ⟨commandsOf commands, inputs.map hexText⟩ ∨
          ∃ e, readCommandStream (bytesToHex data) hasDeadline = .error e) ∧
      ∀ (commands : Bytes) (inputs : List Bytes) (hasDeadline : Bool),
        commands.length = inputs.length →
        10 + (argumentsText (hexText commands) (inputs.map hexText)).length ≤ MAX_LENGTH →
          ∃ data, encodeUniversalRouterExecute (commands.map BitVec.toNat) (inputs.map hexText) =
              .ok data ∧
            readCommandStream data hasDeadline = .ok ⟨commandsOf commands, inputs.map hexText⟩ := by
  constructor
  · intro data hasDeadline commands inputs four decoded
    exact readCommandStream_of_decodeExecute four decoded
  · intro commands inputs hasDeadline same short
    have evens : ∀ input ∈ inputs.map hexText, input.length % 2 = 0 := by
      intro input mem
      obtain ⟨bytes, -, rfl⟩ := List.mem_map.mp mem
      rw [length_hexText]
      omega
    have encoded := encodeUniversalRouterExecute_eq_ok_iff.mpr
      ⟨by rw [List.length_map, same], evens, short, rfl⟩
    exact ⟨_, encoded, readCommandStream_encodeUniversalRouterExecute hasDeadline encoded⟩

/-- Two tails that overlap, reached by offsets in the wrong order; and a built call. -/
theorem readCommandStream_faithful_overlapping :
    ∃ (commands : Bytes) (inputs : List Bytes) (data : Bytes),
      Abi.decodeExecute data false = some (commands, inputs) ∧
      (readCommandStream (bytesToHex data) false = .ok ⟨commandsOf commands, inputs.map hexText⟩ ∨
        ∃ e, readCommandStream (bytesToHex data) false = .error e) ∧
      ∃ built, encodeUniversalRouterExecute (commands.map BitVec.toNat) (inputs.map hexText) =
          .ok built ∧
        readCommandStream built false = .ok ⟨commandsOf commands, inputs.map hexText⟩ := by
  have decoded : Abi.decodeExecute ([0x24, 0x85, 0x6b, 0xc3] ++
      encodeWords [224, 64, 2, 64, 64, 32, 7, 2] ++ [0x0b, 0x0c]) false =
        some ([0x0b, 0x0c], [wordBytes 7, wordBytes 7]) := by decide +kernel
  exact ⟨[0x0b, 0x0c], [wordBytes 7, wordBytes 7], _, decoded,
    readCommandStream_faithful.1 _ false _ _ (by decide +kernel) decoded,
    readCommandStream_faithful.2 _ _ false rfl (by decide +kernel)⟩

end Calldata

end Sdk

end AgentProof
