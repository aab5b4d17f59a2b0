import AgentProof.Evm.AbiDecode
import AgentProof.Sdk.UniswapV4

/-!
# The command stream of calldata

What `readCommandStream` needs of a text to return: a readable head (`HeadAt`)
and an element of each number (`ElementAt`).  On calldata Solidity's decoder
accepts the head is there, and each element is or its distance is past the end,
where the parser throws.
-/

namespace AgentProof

namespace Sdk

namespace UniswapV4

open Js Abi

variable {text : Text} {commands : Bytes} {inputs : List Text} {base i : Nat}

/-! ## Frames in text -/

/-- A length word at byte `p` and the content behind it. -/
structure FrameAt (text : Text) (p : Nat) (content : Text) : Prop where
  number : bigIntHex (slice text (p * 2) (p * 2 + 64)) = .ok (content.length / 2)
  even : content.length % 2 = 0
  content_eq : slice text (p * 2 + 64) (p * 2 + 64 + content.length) = content

/-- The distance of element `i` from the first of them. -/
def distanceAt (text : Text) (base i : Nat) : Except JsError Nat :=
  bigIntHex (slice text (base * 2 + 64 + i * 64) (base * 2 + 128 + i * 64))

/-- Element `i` of the array at `base`. -/
def ElementAt (text : Text) (base i : Nat) (content : Text) : Prop :=
  ∃ distance, distanceAt text base i = .ok distance ∧
    FrameAt text (base + 32 + distance) content

/-- Element `i` would lie past the end. -/
def ElementPast (text : Text) (base i : Nat) : Prop :=
  ∃ distance, distanceAt text base i = .ok distance ∧ text.length ≤ (base + 32 + distance) * 2

theorem readInput_of_elementAt {content : Text} (element : ElementAt text base i content) :
    readInput text (base * 2) i = .ok content := by
  obtain ⟨distance, relative, frame⟩ := element
  unfold distanceAt at relative
  have start : base * 2 + 64 + distance * 2 = (base + 32 + distance) * 2 := by omega
  have half : content.length / 2 * 2 = content.length := by
    have even := frame.even
    omega
  simp only [readInput, relative, bind, Except.bind, start, frame.number, half, frame.content_eq,
    ne_eq, not_true_eq_false, if_false]

/-- Past the end there is no number, and the read throws. -/
theorem readInput_of_elementPast (past : ElementPast text base i) :
    ∃ e, readInput text (base * 2) i = .error e := by
  obtain ⟨distance, relative, far⟩ := past
  unfold distanceAt at relative
  have start : base * 2 + 64 + distance * 2 = (base + 32 + distance) * 2 := by omega
  have empty : slice text ((base + 32 + distance) * 2) ((base + 32 + distance) * 2 + 64) = [] := by
    rw [slice, List.drop_eq_nil_of_le far, List.take_nil]
  refine ⟨⟨"SyntaxError".toList, "Cannot convert 0x".toList ++ [] ++ " to a BigInt".toList⟩, ?_⟩
  simp only [readInput, relative, bind, Except.bind, start, empty]
  rfl

/-! ## The elements -/

theorem readInputs_ok {offset : Nat}
    (read : ∀ k content, inputs[k]? = some content →
      readInput text offset (i + k) = .ok content) :
    readInputs text offset i inputs.length = .ok inputs := by
  induction inputs generalizing i with
  | nil => rfl
  | cons input rest ih =>
      have first : readInput text offset i = .ok input := read 0 input rfl
      have later := ih fun k content at_k => by
        rw [show i + 1 + k = i + (k + 1) by omega]
        exact read (k + 1) content at_k
      rw [List.length_cons, readInputs, first, later]
      rfl

/-- Elements that each read or throw. -/
theorem readInputs_ok_or_error {offset : Nat}
    (read : ∀ k content, inputs[k]? = some content →
      readInput text offset (i + k) = .ok content ∨
        ∃ e, readInput text offset (i + k) = .error e) :
    readInputs text offset i inputs.length = .ok inputs ∨
      ∃ e, readInputs text offset i inputs.length = .error e := by
  induction inputs generalizing i with
  | nil => exact .inl rfl
  | cons input rest ih =>
      have head : readInput text offset i = .ok input ∨
          ∃ e, readInput text offset i = .error e := read 0 input rfl
      rcases head with first | ⟨e, first⟩
      · have later := ih fun k content at_k => by
          rw [show i + 1 + k = i + (k + 1) by omega]
          exact read (k + 1) content at_k
        rcases later with later | ⟨e, later⟩
        · left
          rw [List.length_cons, readInputs, first, later]
          rfl
        · right
          refine ⟨e, ?_⟩
          rw [List.length_cons, readInputs, first, later]
          rfl
      · right
        refine ⟨e, ?_⟩
        rw [List.length_cons, readInputs, first]
        rfl

/-! ## The stream -/

/-- The head of a stream: the commands, and an array of `count` elements at `base`. -/
structure HeadAt (text : Text) (hasDeadline : Bool) (commands : Bytes) (base count : Nat) :
    Prop where
  commands : ∃ offset, bigIntHex (slice text 0 64) = .ok offset ∧
    FrameAt text offset (hexText commands)
  inputs : bigIntHex (slice text 64 128) = .ok base
  deadline : hasDeadline = true → ∃ deadline, bigIntHex (slice text 128 192) = .ok deadline
  count : bigIntHex (slice text (base * 2) (base * 2 + 64)) = .ok count

/-- The commands as the parser returns them. -/
def commandsOf (commands : Bytes) : List (Option Int) :=
  commands.map fun b => some (b.toNat : Int)

/-- The parser on a readable head, up to the elements. -/
theorem readCommandStream_of_headAt {selector : Text} {hasDeadline : Bool} {count : Nat}
    (ten : selector.length = 10) (head : HeadAt text hasDeadline commands base count) :
    readCommandStream (selector ++ text) hasDeadline = (do
      let read ← readInputs text (base * 2) 0 count
      if commands.length ≠ read.length then thrown "commands and inputs length mismatch".toList
      else .ok ⟨commandsOf commands, read⟩) := by
  obtain ⟨⟨offset, word0, frame⟩, word1, deadline, number⟩ := head
  have body : (selector ++ text).drop 10 = text := by
    rw [← ten, List.drop_left]
  have whole : (hexText commands).length = commands.length * 2 := by
    rw [length_hexText, Nat.mul_comm]
  have size := frame.number
  have digits := frame.content_eq
  rw [whole, Nat.mul_div_cancel _ (by norm_num)] at size
  rw [whole] at digits
  have first : bigIntHex (slice text (0 * 64) (0 * 64 + 64)) = .ok offset := word0
  have second : bigIntHex (slice text (1 * 64) (1 * 64 + 64)) = .ok base := word1
  unfold readCommandStream
  cases hasDeadline with
  | false =>
      simp only [body, first, second, number, size, digits, whole, map_parseIntHex, bind,
        Except.bind, List.length_map, ne_eq, not_true_eq_false, if_false, Bool.false_eq_true,
        commandsOf]
  | true =>
      obtain ⟨expiry, word2⟩ := deadline rfl
      have third : bigIntHex (slice text (2 * 64) (2 * 64 + 64)) = .ok expiry := word2
      simp only [body, first, second, third, number, size, digits, whole, map_parseIntHex, bind,
        Except.bind, List.length_map, ne_eq, not_true_eq_false, if_false, if_true, commandsOf]

/-- Where every element is there the parser returns. -/
theorem readCommandStream_of_elements {selector : Text} {hasDeadline : Bool}
    (ten : selector.length = 10) (head : HeadAt text hasDeadline commands base inputs.length)
    (elements : ∀ k content, inputs[k]? = some content → ElementAt text base k content)
    (same : commands.length = inputs.length) :
    readCommandStream (selector ++ text) hasDeadline = .ok ⟨commandsOf commands, inputs⟩ := by
  have read := @readInputs_ok text inputs 0 (base * 2) fun k content at_k => by
    rw [Nat.zero_add]
    exact readInput_of_elementAt (elements k content at_k)
  rw [readCommandStream_of_headAt ten head, read]
  simp only [bind, Except.bind, same, ne_eq, not_true_eq_false, if_false]

/-- Where some may be past the end it returns or throws. -/
theorem readCommandStream_of_elements_or {selector : Text} {hasDeadline : Bool}
    (ten : selector.length = 10) (head : HeadAt text hasDeadline commands base inputs.length)
    (elements : ∀ k content, inputs[k]? = some content →
      ElementAt text base k content ∨ ElementPast text base k) :
    readCommandStream (selector ++ text) hasDeadline = .ok ⟨commandsOf commands, inputs⟩ ∨
      ∃ e, readCommandStream (selector ++ text) hasDeadline = .error e := by
  have read := @readInputs_ok_or_error text inputs 0 (base * 2) fun k content at_k => by
    rw [Nat.zero_add]
    rcases elements k content at_k with element | past
    · exact .inl (readInput_of_elementAt element)
    · exact .inr (readInput_of_elementPast past)
  rw [readCommandStream_of_headAt ten head]
  rcases read with read | ⟨e, failed⟩
  · rw [read]
    by_cases same : commands.length = inputs.length
    · left
      simp only [bind, Except.bind, same, ne_eq, not_true_eq_false, if_false]
    · right
      refine ⟨⟨"Error".toList, "commands and inputs length mismatch".toList⟩, ?_⟩
      simp only [bind, Except.bind, ne_eq, same, not_false_eq_true, if_true]
      rfl
  · right
    exact ⟨e, by rw [failed]; rfl⟩

/-! ## Calldata -/

section Bytes

variable {data body content : Bytes} {p : Nat}

/-- A word at twice its position. -/
theorem bigIntHex_slice {start stop : Nat} (inside : p + 32 ≤ body.length) (first : start = 2 * p)
    (last : stop = 2 * p + 64) :
    bigIntHex (slice (hexText body) start stop) = .ok (AgentProof.wordAt body p).toNat := by
  rw [first, last, slice_word_hexText inside, bigIntHex_word]

/-- A frame of bytes is one of text. -/
theorem frameAt_hexText (frame : Frame body p content) :
    FrameAt (hexText body) p (hexText content) where
  number := by
    have inside := frame.inside
    have half : (hexText content).length / 2 = content.length := by
      rw [length_hexText]
      omega
    rw [half, ← frame.length_eq]
    exact bigIntHex_slice (by omega) (by omega) (by omega)
  even := by
    rw [length_hexText]
    omega
  content_eq := by
    have bytes := slice_hexText body (p + 32) (p + 32 + content.length)
    rw [Nat.add_sub_cancel_left, frame.content_eq] at bytes
    rw [length_hexText, show p * 2 + 64 = 2 * (p + 32) by omega,
      show 2 * (p + 32) + 2 * content.length = 2 * (p + 32 + content.length) by omega, bytes]

theorem headAt_of_layout {hasDeadline : Bool} {inputs : List Bytes}
    (layout : Layout body commands inputs) (deadline : hasDeadline = true → 96 ≤ body.length) :
    HeadAt (hexText body) hasDeadline commands (AgentProof.wordAt body 32).toNat
      inputs.length where
  commands := by
    have head := layout.head
    exact ⟨_, bigIntHex_slice (by omega) (by omega) (by omega), frameAt_hexText layout.commands⟩
  inputs := by
    have head := layout.head
    exact bigIntHex_slice (by omega) (by omega) (by omega)
  deadline asked := by
    have long := deadline asked
    exact ⟨_, @bigIntHex_slice body 64 _ _ (by omega) rfl rfl⟩
  count := by
    have offsets := layout.offsets
    rw [← layout.count]
    exact bigIntHex_slice (by omega) (by omega) (by omega)

theorem distanceAt_of_layout {inputs : List Bytes} (layout : Layout body commands inputs) {k : Nat}
    (here : k < inputs.length) : distanceAt (hexText body) (AgentProof.wordAt body 32).toNat k =
      .ok (elementOffset body (AgentProof.wordAt body 32).toNat k) := by
  have offsets := layout.offsets
  exact bigIntHex_slice (by omega) (by omega) (by omega)

theorem elementAt_of_layout {inputs : List Bytes} (layout : Layout body commands inputs) {k : Nat}
    (at_k : inputs[k]? = some content) :
    ElementAt (hexText body) (AgentProof.wordAt body 32).toNat k (hexText content) ∨
      ElementPast (hexText body) (AgentProof.wordAt body 32).toNat k := by
  have distance := distanceAt_of_layout layout (List.getElem?_eq_some_iff.mp at_k).1
  rcases layout.elements k content at_k with far | frame
  · refine .inr ⟨_, distance, ?_⟩
    rw [length_hexText]
    omega
  · exact .inl ⟨_, distance, frameAt_hexText frame⟩

/-- The text of calldata, behind its selector. -/
theorem bytesToHex_eq (four : 4 ≤ data.length) :
    ∃ selector, selector.length = 10 ∧ bytesToHex data = selector ++ hexText (data.drop 4) := by
  refine ⟨'0' :: 'x' :: hexText (data.take 4), ?_, ?_⟩
  · rw [List.length_cons, List.length_cons, length_hexText, List.length_take]
    omega
  · rw [bytesToHex, List.cons_append, List.cons_append, ← hexText_append, List.take_append_drop]

/-- On calldata Solidity decodes, the parser returns the same stream or throws. -/
theorem readCommandStream_of_decodeExecute {hasDeadline : Bool} {inputs : List Bytes}
    (four : 4 ≤ data.length) (decoded : decodeExecute data hasDeadline = some (commands, inputs)) :
    readCommandStream (bytesToHex data) hasDeadline =
        .ok ⟨commandsOf commands, inputs.map hexText⟩ ∨
      ∃ e, readCommandStream (bytesToHex data) hasDeadline = .error e := by
  obtain ⟨layout, deadline⟩ := decodeExecute_layout decoded
  obtain ⟨selector, ten, text⟩ := bytesToHex_eq four
  have head := headAt_of_layout layout deadline
  rw [← List.length_map hexText] at head
  rw [text]
  refine readCommandStream_of_elements_or ten head fun k content at_k => ?_
  rw [List.getElem?_map, Option.map_eq_some_iff] at at_k
  obtain ⟨input, at_input, rfl⟩ := at_k
  exact elementAt_of_layout layout at_input

end Bytes

end UniswapV4

end Sdk

end AgentProof
