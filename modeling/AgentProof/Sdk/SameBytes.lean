import AgentProof.Lib.Alike
import AgentProof.Sdk.Readings

/-!
# Two texts of the same bytes

Hexadecimal text is read by its digits, and every reader of words, addresses,
paths, streams and arguments gives the same on two texts that differ in letter
case only.  What remains to the text itself is the selector.
-/

namespace AgentProof

namespace Sdk

open Js UniswapV4

/-! ## Texts of the same bytes -/

/-- Hexadecimal digits that differ in the letter case only. -/
structure SameDigits (t t' : Text) : Prop where
  hex : AllHex t
  hex' : AllHex t'
  lower : toLowerCase t = toLowerCase t'

/-- Two texts of the same bytes, both behind `0x`. -/
def SameBytes (t t' : Text) : Prop :=
  ∃ body body', t = '0' :: 'x' :: body ∧ t' = '0' :: 'x' :: body' ∧ SameDigits body body'

namespace SameDigits

variable {t t' s s' : Text}

theorem symm (same : SameDigits t t') : SameDigits t' t := ⟨same.hex', same.hex, same.lower.symm⟩

theorem length (same : SameDigits t t') : t.length = t'.length := by
  have lengths := congrArg List.length same.lower
  rwa [toLowerCase, toLowerCase, List.length_map, List.length_map] at lengths

theorem eq_nil_iff (same : SameDigits t t') : t = [] ↔ t' = [] := by
  rw [← List.length_eq_zero_iff, same.length, List.length_eq_zero_iff]

theorem drop (same : SameDigits t t') (n : Nat) : SameDigits (t.drop n) (t'.drop n) where
  hex := List.all_eq_true.mpr fun c mem =>
    List.all_eq_true.mp same.hex c (List.mem_of_mem_drop mem)
  hex' := List.all_eq_true.mpr fun c mem =>
    List.all_eq_true.mp same.hex' c (List.mem_of_mem_drop mem)
  lower := by
    have lower := congrArg (List.drop n) same.lower
    rwa [toLowerCase, toLowerCase, ← List.map_drop, ← List.map_drop] at lower

theorem slice (same : SameDigits t t') (start stop : Nat) :
    SameDigits (slice t start stop) (slice t' start stop) where
  hex := same.hex.slice start stop
  hex' := same.hex'.slice start stop
  lower := by
    have lower := congrArg (List.take (stop - start)) (same.drop start).lower
    rwa [toLowerCase, toLowerCase, ← List.map_take, ← List.map_take] at lower

theorem numeral (same : SameDigits t t') : numeral 16 t = numeral 16 t' := by
  have digits := congrArg (Js.numeral 16) same.lower
  rwa [toLowerCase_of_allHex same.hex, toLowerCase_of_allHex same.hex', numeral_fixedHex,
    numeral_fixedHex, Nat.mod_eq_of_lt (numeral_lt same.hex),
    Nat.mod_eq_of_lt (numeral_lt same.hex')] at digits

end SameDigits

/-! ## Readers -/

section Readers

variable {t t' : Text} {index : Nat}

theorem bigIntHex_alike (same : SameDigits t t') : Alike Eq (bigIntHex t) (bigIntHex t') := by
  by_cases empty : t = []
  · rw [empty, same.eq_nil_iff.mp empty]
    exact .refl _
  · rw [bigIntHex_of_allHex same.hex empty,
      bigIntHex_of_allHex same.hex' (mt same.eq_nil_iff.mpr empty), same.numeral]
    exact .refl _

/-- Digits have no sign and no prefix. -/
theorem parseIntHex_of_allHex (hex : AllHex t) :
    parseIntHex t = if t = [] then none else some ((numeral 16 t : Nat) : Int) := by
  have solid : trimStart t = t := by
    rw [trimStart, List.dropWhile_eq_self_iff]
    intro nonempty
    rw [isSpace_of_isHexDigit (List.all_eq_true.mp hex _ (List.getElem_mem nonempty))]
    exact Bool.false_ne_true
  have whole : t.takeWhile isHexDigit = t := List.takeWhile_eq_self_iff.mpr fun c mem =>
    List.all_eq_true.mp hex c mem
  have plain : ∀ c ∈ t, c ≠ '-' ∧ c ≠ '+' ∧ c ≠ 'x' ∧ c ≠ 'X' := by
    intro c mem
    have digit := List.all_eq_true.mp hex c mem
    refine ⟨?_, ?_, ?_, ?_⟩
    all_goals
      rintro rfl
      cases digit
  unfold parseIntHex
  rw [solid]
  cases t with
  | nil => rfl
  | cons c rest =>
      have first := plain c List.mem_cons_self
      cases rest with
      | nil => simp [first, whole]
      | cons d rest =>
          have second := plain d (List.mem_cons_of_mem _ List.mem_cons_self)
          simp [first, second, whole]

theorem parseIntHex_eq (same : SameDigits t t') : parseIntHex t = parseIntHex t' := by
  rw [parseIntHex_of_allHex same.hex, parseIntHex_of_allHex same.hex', same.numeral]
  simp only [same.eq_nil_iff]

theorem isAddress_eq (same : SameDigits t t') :
    isAddress ('0' :: 'x' :: t) = isAddress ('0' :: 'x' :: t') := by
  simp only [isAddress, same.length, List.all_eq_true.mpr (List.all_eq_true.mp same.hex),
    List.all_eq_true.mpr (List.all_eq_true.mp same.hex')]

theorem normalizeAddress_alike (same : SameDigits t t') :
    Alike Eq (normalizeAddress ('0' :: 'x' :: t)) (normalizeAddress ('0' :: 'x' :: t')) := by
  refine Alike.ite (by rw [isAddress_eq same]) (fun _ => ?_) fun _ => .throws _ _
  rw [toLowerCase, toLowerCase, List.map_cons, List.map_cons, List.map_cons, List.map_cons,
    ← toLowerCase, ← toLowerCase, same.lower]
  exact .refl _

theorem wordAt_alike (same : SameDigits t t') (index : Nat) :
    Alike Eq (UniswapV4.wordAt t index) (UniswapV4.wordAt t' index) := by
  have word := same.slice (index * 64) (index * 64 + 64)
  exact Alike.ite (by rw [word.length]) (fun _ => .throws _ _) fun _ => bigIntHex_alike word

theorem wordAsAddress_alike (same : SameDigits t t') (index : Nat) :
    Alike Eq (wordAsAddress t index) (wordAsAddress t' index) :=
  (wordAt_alike same index).bindEq fun _ => .refl _

theorem readPath_alike (same : SameDigits t t') (headIndex : Nat) :
    Option.Rel SameDigits (readPath t headIndex) (readPath t' headIndex) := by
  refine Alike.join ?_
  refine (wordAt_alike same headIndex).bindEq fun word => ?_
  refine (bigIntHex_alike (same.slice _ _)).bindEq fun length => ?_
  have path := same.slice (word * 2 + 64) (word * 2 + 64 + length * 2)
  refine .returns ?_
  rw [path.length]
  split_ifs
  · exact .none
  · exact .some path

theorem pathFirstToken_alike (same : SameDigits t t') (headIndex : Nat) :
    Alike Eq (pathFirstToken t headIndex) (pathFirstToken t' headIndex) := by
  have paths := readPath_alike same headIndex
  unfold pathFirstToken
  generalize readPath t headIndex = path, readPath t' headIndex = path' at paths
  cases paths with
  | none => exact .refl _
  | some path => exact (normalizeAddress_alike (path.slice 0 40)).bindEq fun _ => .refl _

theorem pathLastToken_alike (same : SameDigits t t') (headIndex : Nat) :
    Alike Eq (pathLastToken t headIndex) (pathLastToken t' headIndex) := by
  have paths := readPath_alike same headIndex
  unfold pathLastToken
  generalize readPath t headIndex = path, readPath t' headIndex = path' at paths
  cases paths with
  | none => exact .refl _
  | some path =>
      dsimp only
      rw [path.length]
      exact (normalizeAddress_alike (path.drop _)).bindEq fun _ => .refl _

end Readers

/-! ## Streams -/

/-- The same commands with inputs of the same bytes. -/
structure SameStream (stream stream' : CommandStream) : Prop where
  commands : stream.commands = stream'.commands
  inputs : List.Forall₂ SameDigits stream.inputs stream'.inputs

section Streams

variable {t t' body body' data data' : Text}

theorem readInput_alike (same : SameDigits body body') (inputsOffset i : Nat) :
    Alike SameDigits (readInput body inputsOffset i) (readInput body' inputsOffset i) := by
  refine (bigIntHex_alike (same.slice _ _)).bindEq fun relative => ?_
  refine (bigIntHex_alike (same.slice _ _)).bindEq fun length => ?_
  have element := same.slice (inputsOffset + 64 + relative * 2 + 64)
    (inputsOffset + 64 + relative * 2 + 64 + length * 2)
  exact Alike.ite (by rw [element.length]) (fun _ => .throws _ _) fun _ => .returns element

theorem readInputs_alike (same : SameDigits body body') (inputsOffset i count : Nat) :
    Alike (List.Forall₂ SameDigits) (readInputs body inputsOffset i count)
      (readInputs body' inputsOffset i count) := by
  induction count generalizing i with
  | zero => exact .returns .nil
  | succ count ih =>
      refine (readInput_alike same inputsOffset i).bind fun element element' first => ?_
      exact (ih (i + 1)).bind fun rest rest' later => .returns (.cons first later)

/-- The stream behind its head words. -/
def readBody (body : Text) (commandsOffset inputsOffset : Nat) : Except JsError CommandStream := do
  let commandsLength ← bigIntHex (slice body commandsOffset (commandsOffset + 64))
  let commandsHex := slice body (commandsOffset + 64) (commandsOffset + 64 + commandsLength * 2)
  if commandsHex.length ≠ commandsLength * 2 then
    thrown "commands run past the end of calldata".toList
  else
    let commands := (List.range commandsLength).map fun i =>
      parseIntHex (slice commandsHex (i * 2) (i * 2 + 2))
    let inputsLength ← bigIntHex (slice body inputsOffset (inputsOffset + 64))
    let inputs ← readInputs body inputsOffset 0 inputsLength
    if commands.length ≠ inputs.length then thrown "commands and inputs length mismatch".toList
    else .ok ⟨commands, inputs⟩

/-- The head words first, the deadline word if there is to be one, and the rest. -/
theorem readCommandStream_eq (data : Text) (hasDeadline : Bool) :
    readCommandStream data hasDeadline = (do
      let commandsAt ← bigIntHex (slice (data.drop 10) 0 64)
      let inputsAt ← bigIntHex (slice (data.drop 10) 64 128)
      if hasDeadline then
        let _ ← bigIntHex (slice (data.drop 10) 128 192)
        readBody (data.drop 10) (commandsAt * 2) (inputsAt * 2)
      else readBody (data.drop 10) (commandsAt * 2) (inputsAt * 2)) := by
  cases hasDeadline with
  | false => rfl
  | true => rfl

theorem readBody_alike (same : SameDigits body body') (commandsOffset inputsOffset : Nat) :
    Alike SameStream (readBody body commandsOffset inputsOffset)
      (readBody body' commandsOffset inputsOffset) := by
  refine (bigIntHex_alike (same.slice _ _)).bindEq fun count => ?_
  have hex := same.slice (commandsOffset + 64) (commandsOffset + 64 + count * 2)
  refine Alike.ite (by rw [hex.length]) (fun _ => .throws _ _) fun _ => ?_
  have commands : (List.range count).map (fun i => parseIntHex (slice
      (slice body (commandsOffset + 64) (commandsOffset + 64 + count * 2)) (i * 2) (i * 2 + 2))) =
      (List.range count).map fun i => parseIntHex (slice
        (slice body' (commandsOffset + 64) (commandsOffset + 64 + count * 2)) (i * 2) (i * 2 + 2)) :=
    List.map_congr_left fun i _ => parseIntHex_eq (hex.slice _ _)
  dsimp only
  rw [commands]
  refine (bigIntHex_alike (same.slice _ _)).bindEq fun number => ?_
  refine (readInputs_alike same inputsOffset 0 number).bind fun inputs inputs' read => ?_
  exact Alike.ite (by rw [read.length_eq]) (fun _ => .throws _ _) fun _ => .returns ⟨rfl, read⟩

theorem readCommandStream_alike (same : SameDigits (data.drop 10) (data'.drop 10))
    (hasDeadline : Bool) :
    Alike SameStream (readCommandStream data hasDeadline) (readCommandStream data' hasDeadline) := by
  rw [readCommandStream_eq, readCommandStream_eq]
  refine (bigIntHex_alike (same.slice _ _)).bindEq fun commandsAt => ?_
  refine (bigIntHex_alike (same.slice _ _)).bindEq fun inputsAt => ?_
  refine Alike.ite Iff.rfl (fun _ => ?_) fun _ => readBody_alike same _ _
  exact (bigIntHex_alike (same.slice _ _)).bindEq fun _ => readBody_alike same _ _

/-- Entries with the same number and texts of the same bytes. -/
def SameEntry (entry entry' : Option Int × Text) : Prop :=
  entry.1 = entry'.1 ∧ SameDigits entry.2 entry'.2

theorem SameStream.zip {stream stream' : CommandStream} (same : SameStream stream stream') :
    List.Forall₂ SameEntry (stream.commands.zip stream.inputs)
      (stream'.commands.zip stream'.inputs) := by
  obtain ⟨commands, inputs⟩ := same
  rw [← commands]
  generalize stream.commands = bytes, stream.inputs = read, stream'.inputs = read' at inputs ⊢
  induction inputs generalizing bytes with
  | nil => simp
  | cons first _ ih =>
      cases bytes with
      | nil => exact .nil
      | cons byte rest => exact .cons ⟨rfl, first⟩ (ih rest)

/-! ## Commands -/

theorem singleSwap_alike (same : SameDigits t t') (amountIndex : Nat) :
    Alike Eq (singleSwap t amountIndex) (singleSwap t' amountIndex) := by
  refine (wordAt_alike same 6).bindEq fun zeroForOne => ?_
  refine (wordAsAddress_alike same _).bindEq fun currency => ?_
  exact (wordAt_alike same amountIndex).bindEq fun _ => .refl _

theorem readV4Action_alike (same : SameDigits t t') (o : Outflow) (action : Option Int) :
    Alike Eq (readV4Action o action t) (readV4Action o action t') := by
  unfold readV4Action
  split
  · exact (singleSwap_alike same 7).bindEq fun _ => .refl _
  · exact (singleSwap_alike same 8).bindEq fun _ => .refl _
  · exact .refl _
  · exact .refl _
  · refine (wordAt_alike same 2).bindEq fun payerIsUser => ?_
    refine Alike.ite Iff.rfl (fun _ => ?_) fun _ => .refl _
    refine (wordAsAddress_alike same 0).bindEq fun currency => ?_
    exact (wordAt_alike same 1).bindEq fun _ => .refl _
  · refine (wordAsAddress_alike same 0).bindEq fun currency => ?_
    exact (wordAt_alike same 1).bindEq fun _ => .refl _
  all_goals exact .refl _

theorem readV4Actions_eq {entries entries' : List (Option Int × Text)}
    (same : List.Forall₂ SameEntry entries entries') (o : Outflow) :
    readV4Actions o entries = readV4Actions o entries' := by
  induction same generalizing o with
  | nil => rfl
  | @cons entry entry' rest rest' first _ ih =>
      obtain ⟨action, params⟩ := entry
      obtain ⟨action', params'⟩ := entry'
      obtain ⟨rfl, digits⟩ := first
      have turn := readV4Action_alike digits o action
      rw [readV4Actions, readV4Actions]
      generalize readV4Action o action params = y, readV4Action o action params' = z at turn
      cases turn with
      | throws e e' => rfl
      | @returns answer answer' related =>
          cases related
          cases answer with
          | none => rfl
          | some o' => exact ih o'

theorem readV4Outflow_eq (same : SameDigits t t') : readV4Outflow t = readV4Outflow t' := by
  have streams := (@readCommandStream_alike ("0x00000000".toList ++ t) ("0x00000000".toList ++ t')
    same false).toOption
  unfold readV4Outflow readV4Stream
  generalize (readCommandStream ("0x00000000".toList ++ t) false).toOption = y,
    (readCommandStream ("0x00000000".toList ++ t') false).toOption = z at streams
  cases streams with
  | none => rfl
  | some related => exact readV4Actions_eq related.zip .empty

theorem readCommand_alike (same : SameDigits t t') (g : UniswapV4.Gathered) (command : Nat) :
    Alike Eq (readCommand g command t) (readCommand g command t') := by
  have named (index : Nat) : Alike Eq (g.named (wordAsAddress t index))
      (g.named (wordAsAddress t' index)) := by
    unfold UniswapV4.Gathered.named
    cases g.recipient with
    | some known => exact .refl _
    | none => exact (wordAsAddress_alike same index).bindEq fun _ => .refl _
  have swapped (recipient currency : Option Text) (index : Nat) :
      Alike Eq (g.swap recipient currency (UniswapV4.wordAt t index))
        (g.swap recipient currency (UniswapV4.wordAt t' index)) := by
    unfold UniswapV4.Gathered.swap
    cases currency with
    | none => exact .refl _
    | some currency => exact (wordAt_alike same index).bindEq fun _ => .refl _
  unfold readCommand
  split
  · refine (named 0).bindEq fun recipient => ?_
    exact (pathFirstToken_alike same 3).bindEq fun currency => swapped _ _ _
  · refine (named 0).bindEq fun recipient => ?_
    exact (pathFirstToken_alike same 3).bindEq fun currency => swapped _ _ _
  · refine (named 0).bindEq fun recipient => ?_
    exact (pathLastToken_alike same 3).bindEq fun currency => swapped _ _ _
  · refine (named 0).bindEq fun recipient => ?_
    exact (pathLastToken_alike same 3).bindEq fun currency => swapped _ _ _
  · rw [readV4Outflow_eq same]
    exact .refl _
  · refine (named 1).bindEq fun recipient => ?_
    refine (wordAsAddress_alike same 0).bindEq fun currency => ?_
    exact (wordAt_alike same 2).bindEq fun _ => .refl _
  · refine (named 1).bindEq fun recipient => ?_
    refine (wordAsAddress_alike same 0).bindEq fun currency => ?_
    exact (wordAt_alike same 2).bindEq fun _ => .refl _
  · refine ((wordAt_alike same 1).bindEq fun _ => .refl _).bindEq fun allowance => ?_
    exact (wordAsAddress_alike same 0).bindEq fun _ => .refl _
  · exact (wordAt_alike same 1).bindEq fun _ => .refl _
  all_goals exact .refl _

theorem readCommands_eq {entries entries' : List (Option Int × Text)}
    (same : List.Forall₂ SameEntry entries entries') (g : UniswapV4.Gathered) :
    readCommands g entries = readCommands g entries' := by
  induction same generalizing g with
  | nil => rfl
  | @cons entry entry' rest rest' first _ ih =>
      obtain ⟨byte, input⟩ := entry
      obtain ⟨byte', input'⟩ := entry'
      obtain ⟨rfl, digits⟩ := first
      have turn := readCommand_alike digits g (maskBits byte 6)
      rw [readCommands, readCommands]
      generalize readCommand g (maskBits byte 6) input = y,
        readCommand g (maskBits byte 6) input' = z at turn
      cases turn with
      | throws e e' => rfl
      | @returns answer answer' related =>
          cases related
          cases answer with
          | error why => rfl
          | ok g' => exact ih g'

end Streams

/-! ## Intents -/

/-- The readings agree in what a decision is made of. -/
structure SameReading (intent intent' : NormalizedIntent) : Prop where
  kind : intent.kind = intent'.kind
  target : intent.target = intent'.target
  counterparty : intent.counterparty = intent'.counterparty
  outflow : intent.outflow = intent'.outflow
  nativeValue : intent.nativeValue = intent'.nativeValue
  notionalUSDC : intent.notionalUSDC = intent'.notionalUSDC

/-- Two actions of the same bytes and value. -/
structure SameAction (action action' : Action) : Prop where
  toAddress : SameBytes action.toAddress action'.toAddress
  data : SameBytes action.data action'.data
  value : action.value = action'.value

section Decoders

variable {action action' : Action} {ctx : DecoderContext}

theorem SameBytes.drop {t t' : Text} (same : SameBytes t t') (n : Nat) :
    SameDigits (t.drop (n + 2)) (t'.drop (n + 2)) := by
  obtain ⟨body, body', rfl, rfl, digits⟩ := same
  exact digits.drop n

theorem SameBytes.length {t t' : Text} (same : SameBytes t t') : t.length = t'.length := by
  obtain ⟨body, body', rfl, rfl, digits⟩ := same
  rw [List.length_cons, List.length_cons, List.length_cons, List.length_cons, digits.length]

namespace SameAction

theorem target_alike (same : SameAction action action') :
    Alike Eq (normalizeAddress action.toAddress) (normalizeAddress action'.toAddress) := by
  obtain ⟨body, body', first, second, digits⟩ := same.toAddress
  rw [first, second]
  exact normalizeAddress_alike digits

theorem lower_selector (same : SameAction action action') :
    toLowerCase (selectorOf action.data) = toLowerCase (selectorOf action'.data) := by
  have long := same.data.length
  obtain ⟨body, body', first, second, digits⟩ := same.data
  rw [selectorOf, selectorOf, long]
  split_ifs
  · rw [first, second]
    have head := (digits.slice 0 8).lower
    exact congrArg (fun text => '0' :: 'x' :: text) head
  · rfl

theorem word_alike (same : SameAction action action') (index : Nat) :
    Alike Eq (readWord action.data index) (readWord action'.data index) := by
  have cut (data : Text) : slice data (10 + index * 64) (10 + index * 64 + 64) =
      slice (data.drop (8 + index * 64 + 2)) 0 64 := by
    rw [slice, slice, List.drop_zero, Nat.add_sub_cancel_left, Nat.add_right_comm]
  have word := (same.data.drop (8 + index * 64)).slice 0 64
  rw [← cut, ← cut] at word
  exact Alike.ite (by rw [word.length]) (fun _ => .throws _ _) fun _ => bigIntHex_alike word

theorem address_alike (same : SameAction action action') (index : Nat) :
    Alike Eq (readAddress action.data index) (readAddress action'.data index) :=
  (same.word_alike index).bindEq fun _ => .refl _

end SameAction

/-- The arguments are read alike once the selectors are the same. -/
theorem erc20Decoder_alike (same : SameAction action action')
    (selectors : selectorOf action.data = selectorOf action'.data) :
    Alike (Option.Rel SameReading) (erc20Decoder.decode action ctx)
      (erc20Decoder.decode action' ctx) := by
  refine same.target_alike.bindEq fun asset => ?_
  refine Alike.ite (by rw [selectors]) (fun _ => ?_) fun _ => ?_
  · refine (same.address_alike 0).bindEq fun dst => ?_
    refine ((same.word_alike 1).bindEq fun _ => .refl _).bindEq fun amount => ?_
    exact .returns (.some ⟨rfl, rfl, rfl, rfl, same.value, rfl⟩)
  refine Alike.ite (by rw [selectors]) (fun _ => ?_) fun _ => ?_
  · refine (same.address_alike 0).bindEq fun src => ?_
    refine (same.address_alike 1).bindEq fun dst => ?_
    refine ((same.word_alike 2).bindEq fun _ => .refl _).bindEq fun amount => ?_
    exact .returns (.some ⟨rfl, rfl, rfl, rfl, same.value, rfl⟩)
  refine Alike.ite (by rw [selectors]) (fun _ => ?_) fun _ => ?_
  · refine (same.address_alike 0).bindEq fun spender => ?_
    refine ((same.word_alike 1).bindEq fun _ => .refl _).bindEq fun allowance => ?_
    exact .returns (.some ⟨rfl, rfl, rfl, rfl, same.value, rfl⟩)
  refine Alike.ite (by rw [selectors]) (fun _ => ?_) fun _ => .returns .none
  refine (same.address_alike 0).bindEq fun token => ?_
  refine (same.address_alike 1).bindEq fun spender => ?_
  refine ((same.word_alike 2).bindEq fun _ => .refl _).bindEq fun allowance => ?_
  exact .returns (.some ⟨rfl, rfl, rfl, rfl, same.value, rfl⟩)

theorem x402Decoder_alike (same : SameAction action action')
    (selectors : selectorOf action.data = selectorOf action'.data) :
    Alike (Option.Rel SameReading) (x402Decoder.decode action ctx)
      (x402Decoder.decode action' ctx) := by
  refine Alike.ite (by rw [selectors]) (fun _ => .returns .none) fun _ => ?_
  refine (same.address_alike 0).bindEq fun token => ?_
  refine (same.address_alike 1).bindEq fun payTo => ?_
  refine ((same.word_alike 2).bindEq fun _ => .refl _).bindEq fun amount => ?_
  refine same.target_alike.bindEq fun target => ?_
  exact .returns (.some ⟨rfl, rfl, rfl, rfl, same.value, rfl⟩)

theorem nativeDecoder_alike (same : SameAction action action') :
    Alike (Option.Rel SameReading) (nativeDecoder.decode action ctx)
      (nativeDecoder.decode action' ctx) := by
  refine Alike.ite (by rw [same.data.length, same.value]) (fun _ => .returns .none) fun _ => ?_
  refine same.target_alike.bindEq fun dst => ?_
  refine .returns (.some ⟨rfl, rfl, rfl, ?_, same.value, rfl⟩)
  dsimp only
  rw [same.value]

theorem settle_alike (same : SameAction action action') {answer answer' : Option NormalizedIntent}
    (answers : Option.Rel SameReading answer answer') :
    Alike SameReading (settle action ctx answer) (settle action' ctx answer') := by
  cases answers with
  | some read => exact .returns read
  | none =>
      exact same.target_alike.bindEq fun target => .returns ⟨rfl, rfl, rfl, rfl, same.value, rfl⟩

/-- What is made of the streams two calls carry, each read with the flag of its selector. -/
theorem swapIntent_alike (same : SameAction action action') (g : UniswapV4.Gathered)
    (router selector selector' : Text) :
    Alike SameReading (swapIntent action ctx router selector g)
      (swapIntent action' ctx router selector' g) := by
  refine (Alike.refl _).bindEq fun tracked => ?_
  refine (Alike.refl _).bindEq fun native => ?_
  refine .returns ⟨rfl, rfl, rfl, rfl, ?_, rfl⟩
  dsimp only
  rw [same.value]

theorem uniswapV4Decoder_alike (same : SameAction action action')
    (streams : Alike SameStream (streamOf action) (streamOf action')) :
    Alike (Option.Rel SameReading) (uniswapV4Decoder.decode action ctx)
      (uniswapV4Decoder.decode action' ctx) := by
  refine same.target_alike.bindEq fun router => ?_
  unfold streamOf at streams
  have fails (why why' : Text) : Option.Rel SameReading
      (some (unboundedSwap action router (selectorOf action.data) ctx.trackedAsset why))
      (some (unboundedSwap action' router (selectorOf action'.data) ctx.trackedAsset why')) :=
    .some ⟨rfl, rfl, rfl, rfl, same.value, rfl⟩
  generalize readCommandStream action.data (selectorOf action.data = SELECTOR_EXECUTE) = y,
    readCommandStream action'.data (selectorOf action'.data = SELECTOR_EXECUTE) = z at streams
  cases streams with
  | throws e e' => exact .returns (fails _ _)
  | @returns stream stream' related =>
      dsimp only
      rw [readCommands_eq related.zip]
      split
      · exact .returns (fails _ _)
      · exact (swapIntent_alike same _ router _ _).bind fun _ _ read => .returns (.some read)

end Decoders

end Sdk

end AgentProof
