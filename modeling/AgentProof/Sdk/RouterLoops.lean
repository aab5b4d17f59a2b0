import AgentProof.Lib.Counted
import AgentProof.Sdk.Readings
import AgentProof.Sdk.StreamMeaning

/-!
# How long the router decoder runs

The decoder once more, with every loop counted: it gives the same intents, and no
loop takes more turns than the calldata has digits.  The counts in calldata bound
nothing; a loop ends because a read past the end of the text throws.
-/

namespace AgentProof

namespace Sdk

namespace UniswapV4

open Js Counted

/-! ## The counted decoder -/

def readInputs_counted (body : Text) (inputsOffset count : Nat) : Counted JsError (List Text) :=
  forLoop (fun inputs i => do
    let element ← lift (readInput body inputsOffset i)
    pure (inputs ++ [element])) count []

def readCommandStream_counted (data : Text) (hasDeadline : Bool) :
    Counted JsError CommandStream := do
  let body := data.drop 10
  let word (index : Nat) := lift (bigIntHex (slice body (index * 64) (index * 64 + 64)))
  let commandsOffset := (← word 0) * 2
  let inputsOffset := (← word 1) * 2
  let deadline : Counted JsError Nat := if hasDeadline then word 2 else pure 0
  let _ ← deadline
  let commandsLength ← lift (bigIntHex (slice body commandsOffset (commandsOffset + 64)))
  let commandsHex := slice body (commandsOffset + 64) (commandsOffset + 64 + commandsLength * 2)
  if commandsHex.length ≠ commandsLength * 2 then
    lift (thrown "commands run past the end of calldata".toList)
  else
    let commands ← forLoop (fun commands i =>
      pure (commands ++ [parseIntHex (slice commandsHex (i * 2) (i * 2 + 2))])) commandsLength []
    let inputsLength ← lift (bigIntHex (slice body inputsOffset (inputsOffset + 64)))
    let inputs ← readInputs_counted body inputsOffset inputsLength
    if commands.length ≠ inputs.length then
      lift (thrown "commands and inputs length mismatch".toList)
    else pure ⟨commands, inputs⟩

/-- The action loop; leaving it early is leaving it with an error. -/
def readV4Actions_counted (actions : List (Option Int × Text)) : Counted JsError Outflow :=
  forEach (fun outflow turn => do
    match ← lift (readV4Action outflow turn.1 turn.2) with
    | some outflow => pure outflow
    | none => lift (thrown [])) actions .empty

def readV4Outflow_counted (input : Text) : Counted JsError (Option Outflow) := do
  match ← attempt (readCommandStream_counted ("0x00000000".toList ++ input) false) with
  | .error (_ : JsError) => pure none
  | .ok inner =>
      let outflow ← attempt (readV4Actions_counted (inner.commands.zip inner.inputs))
      pure (outflow : Except JsError Outflow).toOption

def merge_counted (o other : Outflow) : Counted JsError Outflow :=
  forEach (fun o entry => lift (o.add entry.1 entry.2)) other.byAsset.entries o

/-- One turn of the command loop. -/
def readCommand_counted (g : Gathered) (command : Nat) (input : Text) :
    Counted JsError (Except Text Gathered) :=
  if command = 0x10 then do
    match ← readV4Outflow_counted input with
    | none => pure (.error "v4 action stream is not decodable".toList)
    | some nested =>
        let outflow ← merge_counted g.outflow nested
        pure (.ok { g with outflow := outflow })
  else lift (readCommand g command input)

/-- The command loop; its errors are the reasons of a `fail`. -/
def readCommands_counted (stream : List (Option Int × Text)) : Counted Text Gathered :=
  forEach (fun g turn => do
    let command := maskBits turn.1 6
    match ← attempt (readCommand_counted g command turn.2) with
    | .ok (.ok g) => pure g
    | .ok (.error why) => lift (.error why)
    | .error (_ : JsError) => lift (.error
        ("input for command ".toList ++ commandText command ++ " is malformed".toList)))
    stream ⟨.empty, none⟩

def decode_counted (action : Action) (ctx : DecoderContext) :
    Counted JsError (Option NormalizedIntent) := do
  let selector := selectorOf action.data
  let router ← lift (normalizeAddress action.toAddress)
  let fail (why : Text) := unboundedSwap action router selector ctx.trackedAsset why
  match ← attempt (readCommandStream_counted action.data (selector = SELECTOR_EXECUTE)) with
  | .error (_ : JsError) => pure (some (fail "command stream is malformed".toList))
  | .ok stream =>
      match ← attempt (readCommands_counted (stream.commands.zip stream.inputs)) with
      | .error why => pure (some (fail why))
      | .ok g => do
          let intent ← lift (swapIntent action ctx router selector g)
          pure (some intent)

/-! ## It gives the same intents -/

theorem result_readInputs_counted (body : Text) (inputsOffset count : Nat) :
    (readInputs_counted body inputsOffset count).result = readInputs body inputsOffset 0 count := by
  have from_ (i : Nat) (inputs : List Text) :
      (List.range' i count).foldlM (fun inputs i => do
        let element ← readInput body inputsOffset i
        .ok (inputs ++ [element])) inputs =
          (do
            let rest ← readInputs body inputsOffset i count
            .ok (inputs ++ rest)) := by
    induction count generalizing i inputs with
    | zero =>
        rw [readInputs]
        exact congrArg Except.ok (List.append_nil inputs).symm
    | succ count ih =>
        rw [List.range'_succ, List.foldlM_cons, readInputs]
        cases readInput body inputsOffset i with
        | error e => rfl
        | ok element =>
            refine (ih (i + 1) (inputs ++ [element])).trans ?_
            simp only [bind, Except.bind]
            cases readInputs body inputsOffset (i + 1) count with
            | error e => rfl
            | ok rest => exact congrArg Except.ok (List.append_assoc _ _ _)
  have whole := from_ 0 []
  rw [← List.range_eq_range'] at whole
  rw [readInputs_counted, forLoop, result_forEach]
  simp only [result_bind, result_lift, result_pure]
  rw [whole]
  cases readInputs body inputsOffset 0 count with
  | error e => rfl
  | ok rest => rfl

/-- A loop that appends something for each number. -/
theorem foldlM_append_map {E B : Type} (f : Nat → B) (count : Nat) :
    (List.range count).foldlM (fun acc i => (.ok (acc ++ [f i]) : Except E (List B))) [] =
      .ok ((List.range count).map f) := by
  induction count with
  | zero => rfl
  | succ count ih =>
      rw [List.range_succ, List.foldlM_append, ih, List.map_append]
      rfl

theorem result_readCommandStream_counted (data : Text) (hasDeadline : Bool) :
    (readCommandStream_counted data hasDeadline).result = readCommandStream data hasDeadline := by
  unfold readCommandStream_counted readCommandStream
  have commands (commandsHex : Text) (count : Nat) :
      (forLoop (fun commands i => (pure (commands ++
        [parseIntHex (slice commandsHex (i * 2) (i * 2 + 2))]) : Counted JsError _)) count []).result =
          .ok ((List.range count).map fun i =>
            parseIntHex (slice commandsHex (i * 2) (i * 2 + 2))) := by
    rw [forLoop, result_forEach]
    exact foldlM_append_map _ count
  cases hasDeadline with
  | false =>
      simp only [result_bind, result_lift, Bool.false_eq_true, if_false, result_pure,
        apply_ite Counted.result, commands, result_readInputs_counted]
      rfl
  | true =>
      simp only [result_bind, result_lift, if_true, result_pure,
        apply_ite Counted.result, commands, result_readInputs_counted]
      rfl

theorem result_readV4Actions_counted (actions : List (Option Int × Text)) :
    (readV4Actions_counted actions).result.toOption = readV4Actions .empty actions := by
  rw [readV4Actions_counted, result_forEach]
  generalize Outflow.empty = o
  induction actions generalizing o with
  | nil => rfl
  | cons turn rest ih =>
      obtain ⟨action, params⟩ := turn
      rw [List.foldlM_cons, readV4Actions, result_bind, result_lift]
      cases readV4Action o action params with
      | error e => rfl
      | ok outflow =>
          cases outflow with
          | none => rfl
          | some outflow => exact ih outflow

theorem result_readV4Outflow_counted (input : Text) :
    (readV4Outflow_counted input).result = .ok (readV4Outflow input) := by
  unfold readV4Outflow_counted
  rw [result_bind, result_attempt, result_readCommandStream_counted]
  cases read : readCommandStream ("0x00000000".toList ++ input) false with
  | error e =>
      rw [readV4Outflow, readV4Stream, read]
      rfl
  | ok inner =>
      have stream : readV4Stream input = some inner := by
        rw [readV4Stream, read]
        rfl
      rw [readV4Outflow_of_stream stream, ← result_readV4Actions_counted]
      rfl

theorem result_merge_counted (o other : Outflow) :
    (merge_counted o other).result = o.merge other := by
  rw [merge_counted, result_forEach]
  rfl

theorem result_readCommand_counted (g : Gathered) (command : Nat) (input : Text) :
    (readCommand_counted g command input).result = readCommand g command input := by
  unfold readCommand_counted
  by_cases v4 : command = 0x10
  · subst v4
    rw [if_pos rfl, result_bind, result_readV4Outflow_counted, readCommand]
    cases readV4Outflow input with
    | none => rfl
    | some nested =>
        refine (result_bind).trans ?_
        rw [result_merge_counted]
        rfl
  · rw [if_neg v4, result_lift]

theorem result_readCommands_counted (stream : List (Option Int × Text)) :
    (readCommands_counted stream).result = readCommands ⟨.empty, none⟩ stream := by
  rw [readCommands_counted, result_forEach]
  generalize (⟨.empty, none⟩ : Gathered) = g
  induction stream generalizing g with
  | nil => rfl
  | cons turn rest ih =>
      obtain ⟨byte, input⟩ := turn
      rw [List.foldlM_cons, readCommands, result_bind, result_attempt,
        result_readCommand_counted]
      cases readCommand g (maskBits byte 6) input with
      | error e => rfl
      | ok answer =>
          cases answer with
          | error why => rfl
          | ok g => exact ih g

/-- Counting changes nothing. -/
theorem result_decode_counted (action : Action) (ctx : DecoderContext) :
    (decode_counted action ctx).result = decode action ctx := by
  unfold decode_counted decode
  rw [result_bind, result_lift]
  cases normalizeAddress action.toAddress with
  | error e => rfl
  | ok router =>
      refine (result_bind).trans ?_
      rw [result_attempt, result_readCommandStream_counted]
      simp only [bind, Except.bind]
      cases readCommandStream action.data (selectorOf action.data = SELECTOR_EXECUTE) with
      | error e => rfl
      | ok stream =>
          refine (result_bind).trans ?_
          rw [result_attempt, result_readCommands_counted]
          simp only [bind, Except.bind]
          cases readCommands ⟨.empty, none⟩ (stream.commands.zip stream.inputs) with
          | error why => rfl
          | ok g => exact result_bind

/-! ## What a parsed stream is made of -/

/-- Digits of a text from a byte position on. -/
def Inside (text part : Text) : Prop :=
  ∃ p, 2 * p + part.length ≤ text.length ∧ slice text (2 * p) (2 * p + part.length) = part

section Inside

variable {text part inner : Text}

theorem slice_slice {start n first last : Nat} (fits : last ≤ n) :
    slice (slice text start (start + n)) first last =
      slice text (start + first) (start + last) := by
  simp only [slice, Nat.add_sub_cancel_left, List.drop_take, List.drop_drop, List.take_take,
    Nat.add_sub_add_left]
  congr 1
  omega

theorem Inside.trans (outer : Inside text part) (deeper : Inside part inner) :
    Inside text inner := by
  obtain ⟨p, fits, same⟩ := outer
  obtain ⟨q, within, at_q⟩ := deeper
  refine ⟨p + q, by omega, ?_⟩
  rw [← same, slice_slice within] at at_q
  rw [Nat.mul_add, Nat.add_assoc]
  exact at_q

theorem Inside.length_le (inside : Inside text part) : part.length ≤ text.length := by
  obtain ⟨p, fits, -⟩ := inside
  omega

/-- A slice of the length asked for. -/
theorem inside_slice {start n : Nat} (even : start % 2 = 0)
    (complete : (slice text start (start + n)).length = n) :
    Inside text (slice text start (start + n)) := by
  rcases Nat.eq_zero_or_pos n with rfl | pos
  · refine ⟨0, ?_, ?_⟩
    · rw [complete]
      omega
    · rw [complete, slice, slice, Nat.add_sub_cancel_left]
      simp
  · have room : start + n ≤ text.length := by
      have length := complete
      rw [slice, List.length_take, List.length_drop] at length
      omega
    have twice : 2 * (start / 2) = start := by omega
    refine ⟨start / 2, ?_, ?_⟩
    · rw [twice, complete]
      exact room
    · rw [twice, complete]

end Inside

/-- A parsed stream has an input for each command, all taken from the text. -/
structure Parsed (body : Text) (stream : CommandStream) : Prop where
  same : stream.commands.length = stream.inputs.length
  short : 2 * stream.commands.length ≤ body.length
  inputs : ∀ input ∈ stream.inputs, Inside body input

section Parsed

variable {body : Text} {stream : CommandStream}

theorem inside_of_readInput {inputsOffset i : Nat} {input : Text}
    (read : readInput body (inputsOffset * 2) i = .ok input) : Inside body input := by
  simp only [readInput, bind_eq_ok_iff] at read
  obtain ⟨relative, -, length, -, read⟩ := read
  split_ifs at read with incomplete
  · cases read
  · cases read
    exact inside_slice (by omega) (not_not.mp incomplete)

theorem inside_of_readInputs {inputsOffset i count : Nat} {inputs : List Text}
    (read : readInputs body (inputsOffset * 2) i count = .ok inputs) :
    ∀ input ∈ inputs, Inside body input := by
  induction count generalizing i inputs with
  | zero =>
      cases read
      simp
  | succ count ih =>
      simp only [readInputs, bind_eq_ok_iff, Except.ok.injEq] at read
      obtain ⟨element, first, rest, later, rfl⟩ := read
      exact List.forall_mem_cons.mpr ⟨inside_of_readInput first, ih later⟩

theorem parsed_of_readCommandStream {data : Text} {hasDeadline : Bool}
    (read : readCommandStream data hasDeadline = .ok stream) :
    Parsed (data.drop 10) stream := by
  unfold readCommandStream at read
  obtain ⟨commandsOffset, -, read⟩ := bind_eq_ok_iff.mp read
  obtain ⟨inputsOffset, -, read⟩ := bind_eq_ok_iff.mp read
  cases hasDeadline
  case' true => obtain ⟨deadline, -, read⟩ := bind_eq_ok_iff.mp read
  all_goals
    obtain ⟨commandsLength, -, read⟩ := bind_eq_ok_iff.mp read
    dsimp only at read
    split_ifs at read with incomplete
    · cases read
    · obtain ⟨inputsLength, -, read⟩ := bind_eq_ok_iff.mp read
      obtain ⟨inputs, elements, read⟩ := bind_eq_ok_iff.mp read
      split_ifs at read with differ
      · cases read
      · cases read
        have complete := not_not.mp incomplete
        rw [slice, List.length_take] at complete
        have room := @List.length_drop _ (commandsOffset * 2 + 64) (data.drop 10)
        refine ⟨not_not.mp differ, ?_, inside_of_readInputs elements⟩
        rw [List.length_map, List.length_range]
        omega

end Parsed

/-! ## The bounds -/

section Bounds

variable {bound : Nat} {data body : Text}

/-- Behind the end of the text there is no element. -/
theorem readInput_throws {inputsOffset i : Nat} (past : body.length ≤ i) (element : Text) :
    readInput body inputsOffset i ≠ .ok element := by
  intro read
  rw [readInput] at read
  obtain ⟨relative, offset, -⟩ := bind_eq_ok_iff.mp read
  have empty : slice body (inputsOffset + 64 + i * 64) (inputsOffset + 128 + i * 64) = [] := by
    rw [slice, List.drop_eq_nil_of_le (by omega), List.take_nil]
  rw [empty] at offset
  cases offset

theorem within_readInputs_counted {inputsOffset count : Nat} (room : body.length < bound) :
    Within bound (readInputs_counted body inputsOffset count) := by
  refine within_forLoop_of_throws (fun inputs i => ?_)
    (fun inputs i (past : body.length ≤ i) next turned => ?_) room
  · exact (within_lift _).bind fun element _ => within_pure _
  · rw [result_bind, result_lift] at turned
    obtain ⟨element, read, -⟩ := bind_eq_ok_iff.mp turned
    exact readInput_throws past element read

theorem within_readCommandStream_counted {hasDeadline : Bool}
    (room : (data.drop 10).length < bound) :
    Within bound (readCommandStream_counted data hasDeadline) := by
  unfold readCommandStream_counted
  refine (within_lift _).bind fun commandsOffset _ => ?_
  refine (within_lift _).bind fun inputsOffset _ => ?_
  refine Within.bind ?_ fun deadline _ => ?_
  · cases hasDeadline with
    | false => exact within_pure _
    | true => exact within_lift _
  refine (within_lift _).bind fun commandsLength _ => ?_
  dsimp only
  split_ifs with incomplete
  · exact within_lift _
  · refine Within.bind ?_ fun commands _ => ?_
    · refine within_forEach_of_length (fun _ _ _ => within_pure _) ?_
      have complete := not_not.mp incomplete
      rw [slice, List.length_take] at complete
      rw [List.length_range]
      have length := @List.length_drop _ (commandsOffset * 2 + 64) (data.drop 10)
      omega
    · refine (within_lift _).bind fun inputsLength _ => ?_
      refine (within_readInputs_counted room).bind fun inputs _ => ?_
      split_ifs
      · exact within_lift _
      · exact within_pure _

theorem within_readV4Actions_counted {actions : List (Option Int × Text)}
    (short : actions.length ≤ bound) : Within bound (readV4Actions_counted actions) := by
  refine within_forEach_of_length (fun outflow turn _ => ?_) short
  refine (within_lift _).bind fun answer _ => ?_
  cases answer with
  | none => exact within_lift _
  | some outflow => exact within_pure _

/-- An action adds one entry at most. -/
theorem length_entries_of_readV4Actions {o o' : Outflow} {actions : List (Option Int × Text)}
    (read : readV4Actions o actions = some o') :
    o'.byAsset.entries.length ≤ o.byAsset.entries.length + actions.length := by
  induction actions generalizing o with
  | nil =>
      cases read
      exact le_refl _
  | cons head rest ih =>
      obtain ⟨action, params⟩ := head
      rw [readV4Actions] at read
      split at read
      · next next turned =>
          have later := ih read
          have here : next.byAsset.entries.length ≤ o.byAsset.entries.length + 1 := by
            rcases readV4Action_cases turned with rfl | ⟨_, _, added⟩ | ⟨_, _, raised⟩
            · exact Nat.le_succ _
            · obtain ⟨key, -, rfl⟩ := Outflow.add_eq_ok added
              exact OrderedMap.length_set_le _ _ _
            · rw [Outflow.atLeast] at raised
              obtain ⟨key, -, same⟩ := bind_eq_ok_iff.mp raised
              cases same
              split_ifs
              · exact OrderedMap.length_set_le _ _ _
              · exact Nat.le_succ _
          rw [List.length_cons]
          omega
      · cases read
      · cases read

/-- A nested stream is bounded by its input, and so is the outflow it makes. -/
theorem within_readV4Outflow_counted {input : Text} (room : input.length < bound) :
    Within bound (readV4Outflow_counted input) := by
  unfold readV4Outflow_counted
  have prefixed : ("0x00000000".toList ++ input).drop 10 = input := rfl
  refine Within.bind ?_ fun answer answered => ?_
  · refine (within_readCommandStream_counted ?_).attempt
    rw [prefixed]
    exact room
  · cases answer with
    | error e => exact within_pure _
    | ok inner =>
        rw [result_attempt, result_readCommandStream_counted] at answered
        have parsed := parsed_of_readCommandStream (Except.ok.inj answered)
        rw [prefixed] at parsed
        have short := parsed.short
        refine (within_readV4Actions_counted ?_).attempt.bind fun outflow _ => within_pure _
        rw [List.length_zip]
        omega

theorem length_entries_of_readV4Outflow {input : Text} {nested : Outflow}
    (read : readV4Outflow input = some nested) :
    2 * nested.byAsset.entries.length ≤ input.length := by
  obtain ⟨inner, streamed, actions⟩ := Option.bind_eq_some_iff.mp read
  have entries := length_entries_of_readV4Actions actions
  have parsed := parsed_of_readCommandStream (toOption_eq_some_iff.mp streamed)
  have short := parsed.short
  have prefixed : ("0x00000000".toList ++ input).drop 10 = input := rfl
  rw [prefixed] at short
  rw [List.length_zip] at entries
  change nested.byAsset.entries.length ≤ 0 + _ at entries
  omega

theorem within_readCommand_counted {g : Gathered} {command : Nat} {input : Text}
    (room : input.length < bound) : Within bound (readCommand_counted g command input) := by
  unfold readCommand_counted
  split_ifs
  · refine (within_readV4Outflow_counted room).bind fun answer answered => ?_
    cases answer with
    | none => exact within_pure _
    | some nested =>
        rw [result_readV4Outflow_counted] at answered
        have entries := length_entries_of_readV4Outflow (Except.ok.inj answered)
        refine Within.bind ?_ fun outflow _ => within_pure _
        exact within_forEach_of_length (fun _ _ _ => within_lift _) (by omega)
  · exact within_lift _

theorem within_readCommands_counted {stream : List (Option Int × Text)}
    (short : stream.length ≤ bound) (room : ∀ turn ∈ stream, turn.2.length < bound) :
    Within bound (readCommands_counted stream) := by
  refine within_forEach_of_length (fun g turn mem => ?_) short
  refine (within_readCommand_counted (room turn mem)).attempt.bind fun answer _ => ?_
  cases answer with
  | error e => exact within_lift _
  | ok answer =>
      cases answer with
      | error why => exact within_lift _
      | ok g => exact within_pure _

/-- No loop takes more turns than the calldata has digits. -/
theorem within_decode_counted {action : Action} {ctx : DecoderContext}
    (long : 10 ≤ action.data.length) :
    Within (action.data.length - 2) (decode_counted action ctx) := by
  have body := @List.length_drop _ 10 action.data
  unfold decode_counted
  refine (within_lift _).bind fun router _ => ?_
  refine (within_readCommandStream_counted (by omega)).attempt.bind fun answer answered => ?_
  cases answer with
  | error e => exact within_pure _
  | ok stream =>
      rw [result_attempt, result_readCommandStream_counted] at answered
      have parsed := parsed_of_readCommandStream (Except.ok.inj answered)
      have short := parsed.short
      refine Within.bind (Within.attempt (within_readCommands_counted ?_ ?_)) fun answer _ => ?_
      · rw [List.length_zip]
        omega
      · intro turn mem
        have inside := (parsed.inputs turn.2 (List.of_mem_zip mem).2).length_le
        omega
      · cases answer with
        | error why => exact within_pure _
        | ok g => exact (within_lift _).bind fun intent _ => within_pure _

end Bounds

end UniswapV4

end Sdk

end AgentProof
