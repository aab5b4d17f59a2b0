import AgentProof.Sdk.EngineSpec
import AgentProof.Sdk.SameBytes
import AgentProof.Sdk.Unbounded

/-!
# The letter case of a selector

The registry finds a decoder by the selector in lower case, but the decoders
compare the selector as it is written: a token or payment selector in another
case is no longer recognised, and `execute` is read without its deadline.
-/

namespace AgentProof

namespace Sdk

open Js UniswapV4

/-! ## Calls without commands -/

theorem numeral_append (s t : Text) :
    numeral 16 (s ++ t) = numeral 16 s * 16 ^ t.length + numeral 16 t := by
  rw [numeral, List.map_append, Positional.value_append, List.length_map]
  rfl

theorem slice_split (s : Text) {start mid stop : Nat} (first : start ≤ mid) (last : mid ≤ stop) :
    slice s start stop = slice s start mid ++ slice s mid stop := by
  rw [slice, slice, slice, show stop - start = (mid - start) + (stop - mid) by omega, List.take_add,
    List.drop_drop, Nat.add_sub_cancel' first]

theorem length_slice {s : Text} {start stop : Nat} (order : start ≤ stop) (inside : stop ≤ s.length) :
    (slice s start stop).length = stop - start := by
  rw [slice, List.length_take, List.length_drop]
  omega

/-- Calldata that ends before a deadline and whose two counts are zero. -/
structure EmptyCall (data : Text) : Prop where
  short : data.length ≤ 138
  empty : ∃ commandsAt inputsAt, bigIntHex (slice (data.drop 10) 0 64) = .ok commandsAt ∧
    bigIntHex (slice (data.drop 10) 64 128) = .ok inputsAt ∧
    bigIntHex (slice (data.drop 10) (commandsAt * 2) (commandsAt * 2 + 64)) = .ok 0 ∧
    bigIntHex (slice (data.drop 10) (inputsAt * 2) (inputsAt * 2 + 64)) = .ok 0

section Empty

variable {body : Text} {commandsAt count : Nat}

/-- Two words leave no room for a command: the word that gives the position of the count would
be part of the count. -/
theorem count_eq_zero (hex : AllHex body) (short : body.length ≤ 128)
    (offset : bigIntHex (slice body 0 64) = .ok commandsAt)
    (number : bigIntHex (slice body (commandsAt * 2) (commandsAt * 2 + 64)) = .ok count)
    (inside : (slice body (commandsAt * 2 + 64) (commandsAt * 2 + 64 + count * 2)).length =
      count * 2) : count = 0 := by
  by_contra counted
  have positive : 0 < commandsAt := by
    rw [Nat.pos_iff_ne_zero]
    rintro rfl
    rw [Nat.zero_mul, Nat.zero_add, offset] at number
    exact counted (Except.ok.inj number).symm
  have room : commandsAt * 2 + 64 + count * 2 ≤ body.length := by
    rw [slice, List.length_take, List.length_drop] at inside
    omega
  have read {start stop value : Nat} (order : start < stop) (within : stop ≤ body.length)
      (word : bigIntHex (slice body start stop) = .ok value) :
      numeral 16 (slice body start stop) = value := by
    have length := length_slice order.le within
    have nonempty : slice body start stop ≠ [] := by
      rw [← List.length_pos_iff, length]
      omega
    rw [bigIntHex_of_allHex (hex.slice start stop) nonempty] at word
    exact Except.ok.inj word
  have head := read (by omega) (by omega) offset
  have whole := read (by omega) (by omega) number
  rw [slice_split body (Nat.zero_le _) (show commandsAt * 2 ≤ 64 by omega), numeral_append,
    length_slice (by omega) (by omega)] at head
  rw [slice_split body (show commandsAt * 2 ≤ 64 by omega) (by omega), numeral_append,
    length_slice (by omega) (by omega), Nat.add_sub_cancel] at whole
  set front := numeral 16 (slice body 0 (commandsAt * 2))
  set back := numeral 16 (slice body (commandsAt * 2) 64)
  have wide : 16 ^ 2 ≤ 16 ^ (64 - commandsAt * 2) := Nat.pow_le_pow_right (by norm_num) (by omega)
  have apart : 16 ^ 2 ≤ 16 ^ (commandsAt * 2) := Nat.pow_le_pow_right (by norm_num) (by omega)
  have clean : front = 0 := by
    by_contra some_
    have large := Nat.mul_le_mul (Nat.one_le_iff_ne_zero.mpr some_) wide
    omega
  have position : back = commandsAt := by
    rw [clean, Nat.zero_mul, Nat.zero_add] at head
    exact head
  have large := Nat.mul_le_mul (show 1 ≤ back by omega) apart
  omega

theorem length_of_readInputs {offset i : Nat} {inputs : List Text}
    (read : readInputs body offset i count = .ok inputs) : inputs.length = count := by
  induction count generalizing i inputs with
  | zero =>
      cases read
      rfl
  | succ count ih =>
      obtain ⟨element, -, read⟩ := bind_eq_ok_iff.mp read
      obtain ⟨rest, later, read⟩ := bind_eq_ok_iff.mp read
      cases read
      rw [List.length_cons, ih later]

/-- The stream of a short call has no command, and both counts are zero. -/
theorem readBody_of_short {inputsAt : Nat} {stream : CommandStream} (hex : AllHex body)
    (short : body.length ≤ 128) (offset : bigIntHex (slice body 0 64) = .ok commandsAt)
    (read : readBody body (commandsAt * 2) (inputsAt * 2) = .ok stream) :
    bigIntHex (slice body (commandsAt * 2) (commandsAt * 2 + 64)) = .ok 0 ∧
      bigIntHex (slice body (inputsAt * 2) (inputsAt * 2 + 64)) = .ok 0 ∧ stream = ⟨[], []⟩ := by
  obtain ⟨count, number, read⟩ := bind_eq_ok_iff.mp read
  simp only [thrown] at read
  split_ifs at read with past
  obtain ⟨inputCount, inputNumber, read⟩ := bind_eq_ok_iff.mp read
  obtain ⟨inputs, elements, read⟩ := bind_eq_ok_iff.mp read
  have none_ := count_eq_zero hex short offset number (not_not.mp past)
  subst none_
  split_ifs at read with mismatch
  cases read
  have empty : inputs = [] := by simpa [eq_comm] using mismatch
  have zero := length_of_readInputs elements
  rw [empty, List.length_nil] at zero
  rw [number, inputNumber, ← zero, empty]
  exact ⟨rfl, rfl, rfl⟩

theorem readBody_of_counts {inputsAt : Nat}
    (commands : bigIntHex (slice body (commandsAt * 2) (commandsAt * 2 + 64)) = .ok 0)
    (inputs : bigIntHex (slice body (inputsAt * 2) (inputsAt * 2 + 64)) = .ok 0) :
    readBody body (commandsAt * 2) (inputsAt * 2) = .ok ⟨[], []⟩ := by
  have nothing : slice body (commandsAt * 2 + 64) (commandsAt * 2 + 64 + 0 * 2) = [] := by
    rw [slice, Nat.zero_mul, Nat.add_zero, Nat.sub_self, List.take_zero]
  simp only [readBody, commands, inputs, nothing, bind, Except.bind, List.length_nil, Nat.zero_mul,
    ne_eq, not_true_eq_false, if_false, List.range_zero, List.map_nil, readInputs]

theorem readCommandStream_of_emptyCall {data : Text} (empty : EmptyCall data) :
    readCommandStream data false = .ok ⟨[], []⟩ := by
  obtain ⟨-, commandsAt, inputsAt, first, second, commands, inputs⟩ := empty
  rw [readCommandStream_eq]
  simp only [first, second, bind, Except.bind, Bool.false_eq_true, if_false,
    readBody_of_counts commands inputs]

/-- Without the deadline a call that ends before it is read exactly when it is empty. -/
theorem readCommandStream_of_short {data : Text} (hex : AllHex (data.drop 10))
    (short : data.length ≤ 138) (full : ¬ EmptyCall data) :
    ∃ e, readCommandStream data false = .error e := by
  cases read : readCommandStream data false with
  | error e => exact ⟨e, rfl⟩
  | ok stream =>
      rw [readCommandStream_eq] at read
      obtain ⟨commandsAt, first, read⟩ := bind_eq_ok_iff.mp read
      obtain ⟨inputsAt, second, read⟩ := bind_eq_ok_iff.mp read
      have within : (data.drop 10).length ≤ 128 := by
        rw [List.length_drop]
        omega
      obtain ⟨commands, inputs, -⟩ := readBody_of_short hex within first read
      exact absurd ⟨short, commandsAt, inputsAt, first, second, commands, inputs⟩ full

/-- With the deadline it is never read. -/
theorem readCommandStream_deadline_of_short {data : Text} (short : data.length ≤ 138) :
    ∃ e, readCommandStream data true = .error e := by
  have past : slice (data.drop 10) 128 192 = [] := by
    rw [slice, List.drop_eq_nil_of_le (by rw [List.length_drop]; omega), List.take_nil]
  cases read : readCommandStream data true with
  | error e => exact ⟨e, rfl⟩
  | ok stream =>
      rw [readCommandStream_eq] at read
      obtain ⟨commandsAt, first, read⟩ := bind_eq_ok_iff.mp read
      obtain ⟨inputsAt, second, read⟩ := bind_eq_ok_iff.mp read
      obtain ⟨deadline, third, -⟩ := bind_eq_ok_iff.mp read
      rw [past] at third
      cases third

/-- Behind the deadline's place the deadline makes no difference. -/
theorem readCommandStream_deadline_of_long {data : Text} (hex : AllHex (data.drop 10))
    (long : 138 < data.length) : readCommandStream data true = readCommandStream data false := by
  have nonempty : slice (data.drop 10) 128 192 ≠ [] := by
    rw [← List.length_pos_iff, slice, List.length_take, List.length_drop, List.length_drop]
    omega
  rw [readCommandStream_eq, readCommandStream_eq, bigIntHex_of_allHex (hex.slice 128 192) nonempty]
  rfl

end Empty

/-! ## Selectors as they are written -/

/-- The selector is written in lower case. -/
def InLowerCase (data : Text) : Prop := toLowerCase (selectorOf data) = selectorOf data

instance : DecidablePred InLowerCase := fun data =>
  inferInstanceAs (Decidable (toLowerCase (selectorOf data) = selectorOf data))

section Selectors

variable {action action' : Action} {ctx : DecoderContext}

theorem erc20_selectors_lower : ∀ selector ∈ erc20Decoder.selectors,
    toLowerCase selector = selector := by decide

theorem x402_selectors_lower : ∀ selector ∈ x402Decoder.selectors,
    toLowerCase selector = selector := by decide

/-- A selector in another case is none of the decoder's. -/
theorem erc20Decoder_declines (mixed : ¬ InLowerCase action.data) :
    erc20Decoder.decode action ctx = (do
      let _ ← normalizeAddress action.toAddress
      .ok none) := by
  have other (selector : Text) (listed : selector ∈ erc20Decoder.selectors) :
      selectorOf action.data ≠ selector := by
    rintro rfl
    exact mixed (erc20_selectors_lower _ listed)
  simp only [erc20Decoder, other _ (show SELECTOR_TRANSFER ∈ _ by decide),
    other _ (show SELECTOR_TRANSFER_FROM ∈ _ by decide), other _ (show SELECTOR_APPROVE ∈ _ by decide),
    other _ (show SELECTOR_INCREASE_ALLOWANCE ∈ _ by decide),
    other _ (show SELECTOR_PERMIT2_APPROVE ∈ _ by decide), or_self, if_false]

theorem x402Decoder_declines (mixed : ¬ InLowerCase action.data) :
    x402Decoder.decode action ctx = .ok none := by
  have other : selectorOf action.data ≠ SELECTOR_X402_SETTLE := by
    intro same
    rw [InLowerCase, same] at mixed
    exact mixed (x402_selectors_lower _ List.mem_cons_self)
  exact if_pos other

/-- One of its selectors is read or throws. -/
theorem erc20Decoder_ne_none (listed : selectorOf action.data ∈ erc20Decoder.selectors) :
    erc20Decoder.decode action ctx ≠ .ok none := by
  intro declines
  simp only [erc20Decoder, bind_eq_ok_iff] at declines
  obtain ⟨asset, -, declines⟩ := declines
  split_ifs at declines with transfer transferFrom approve permit2
  · simp only [decodeTransfer, bind_eq_ok_iff] at declines
    obtain ⟨dst, -, amount, -, found⟩ := declines
    cases found
  · simp only [decodeTransferFrom, bind_eq_ok_iff] at declines
    obtain ⟨src, -, dst, -, amount, -, found⟩ := declines
    cases found
  · simp only [decodeApprove, bind_eq_ok_iff] at declines
    obtain ⟨spender, -, allowance, -, found⟩ := declines
    cases found
  · simp only [decodePermit2Approve, bind_eq_ok_iff] at declines
    obtain ⟨token, -, spender, -, allowance, -, found⟩ := declines
    cases found
  · have one : selectorOf action.data ∈ [SELECTOR_TRANSFER, SELECTOR_TRANSFER_FROM,
        SELECTOR_APPROVE, SELECTOR_INCREASE_ALLOWANCE, SELECTOR_PERMIT2_APPROVE] := listed
    simp only [List.mem_cons, transfer, transferFrom, permit2, not_or.mp approve,
      List.not_mem_nil, or_self] at one

theorem x402Decoder_ne_none (listed : selectorOf action.data ∈ x402Decoder.selectors) :
    x402Decoder.decode action ctx ≠ .ok none := by
  intro declines
  have same : selectorOf action.data = SELECTOR_X402_SETTLE := List.mem_singleton.mp listed
  simp only [x402Decoder, if_neg (not_not.mpr same), bind_eq_ok_iff] at declines
  obtain ⟨token, -, payTo, -, amount, -, target, -, found⟩ := declines
  cases found

/-- What is read has an address as its target. -/
theorem isAddress_of_decode {intent : NormalizedIntent}
    (decoded : createDefaultRegistry.decode action ctx = .ok intent) :
    isAddress action.toAddress = true := by
  have target : normalizeAddress action.toAddress = .ok intent.target := by
    cases reading_of_decode decoded with
    | token claimed read => exact read.target
    | native read => exact read.target
    | swap claimed read => exact read.target
    | unbounded read => exact read.target
  exact (normalizeAddress_eq_ok_iff.mp target).1

theorem claimant_erc20 {selector : Text} (listed : selector ∈ erc20Decoder.selectors) :
    claimant selector = some erc20Decoder := if_pos listed

theorem claimant_x402 {selector : Text} (listed : selector ∈ x402Decoder.selectors) :
    claimant selector = some x402Decoder := by
  obtain rfl : selector = SELECTOR_X402_SETTLE := List.mem_singleton.mp listed
  rfl

theorem claimant_execute : claimant SELECTOR_EXECUTE = some uniswapV4Decoder := by
  rfl

/-- A token or payment selector in lower case is read as what it is. -/
theorem kind_of_lower {intent : NormalizedIntent} (lower : InLowerCase action.data)
    (listed : toLowerCase (selectorOf action.data) ∈ erc20Decoder.selectors ∨
      toLowerCase (selectorOf action.data) ∈ x402Decoder.selectors)
    (decoded : createDefaultRegistry.decode action ctx = .ok intent) : intent.kind ≠ .unknown := by
  have token : TokenIntent action ctx intent := by
    rcases listed with listed | listed
    · rw [decode_of_claimed (claimant_erc20 listed)] at decoded
      rw [lower] at listed
      obtain ⟨answer, asked, settles⟩ := bind_eq_ok_iff.mp decoded
      cases answer with
      | none => exact absurd asked (erc20Decoder_ne_none listed)
      | some given =>
          cases settles
          exact erc20Decoder_tokenIntent asked
    · rw [decode_of_claimed (claimant_x402 listed)] at decoded
      rw [lower] at listed
      obtain ⟨answer, asked, settles⟩ := bind_eq_ok_iff.mp decoded
      cases answer with
      | none => exact absurd asked (x402Decoder_ne_none listed)
      | some given =>
          cases settles
          exact x402Decoder_tokenIntent asked
  rcases token.kind with kind | kind | kind
  all_goals
    rw [kind]
    decide

/-- In another case it is not recognised. -/
theorem decode_of_mixed (address : isAddress action.toAddress = true)
    (mixed : ¬ InLowerCase action.data)
    (listed : toLowerCase (selectorOf action.data) ∈ erc20Decoder.selectors ∨
      toLowerCase (selectorOf action.data) ∈ x402Decoder.selectors) :
    createDefaultRegistry.decode action ctx =
      .ok (unreadIntent action ctx (addressText (addressOf action.toAddress))) := by
  have normal := normalizeAddress_of_isAddress address
  rcases listed with listed | listed
  · rw [decode_of_claimed (claimant_erc20 listed), erc20Decoder_declines mixed, normal]
    simp only [bind, Except.bind, settle, normal]
  · rw [decode_of_claimed (claimant_x402 listed), x402Decoder_declines mixed]
    simp only [bind, Except.bind, settle, normal]

end Selectors

/-! ## Two actions of the same bytes -/

section Pair

variable {action action' : Action} {ctx : DecoderContext}

theorem SameAction.symm (same : SameAction action action') : SameAction action' action := by
  obtain ⟨⟨body, body', first, second, digits⟩, ⟨text, text', left, right, letters⟩, value⟩ := same
  exact ⟨⟨body', body, second, first, digits.symm⟩, ⟨text', text, right, left, letters.symm⟩,
    value.symm⟩

theorem SameAction.isAddress (same : SameAction action action') :
    isAddress action.toAddress = Sdk.isAddress action'.toAddress := by
  obtain ⟨body, body', first, second, digits⟩ := same.toAddress
  rw [first, second, isAddress_eq digits]

theorem EmptyCall.of_same (same : SameAction action action') (empty : EmptyCall action.data) :
    EmptyCall action'.data := by
  obtain ⟨short, commandsAt, inputsAt, first, second, commands, inputs⟩ := empty
  have again {start stop value : Nat}
      (word : bigIntHex (slice (action.data.drop 10) start stop) = .ok value) :
      bigIntHex (slice (action'.data.drop 10) start stop) = .ok value := by
    have read := bigIntHex_alike ((same.data.drop 8).slice start stop)
    rw [word] at read
    exact read.eq_ok
  exact ⟨by rw [← same.data.length]; exact short, commandsAt, inputsAt, again first, again second,
    again commands, again inputs⟩

/-- What keeps the two apart: a selector some decoder compares as it is written. -/
def Written (action : Action) : Prop :=
  toLowerCase (selectorOf action.data) ∈ erc20Decoder.selectors ∨
    toLowerCase (selectorOf action.data) ∈ x402Decoder.selectors ∨
    toLowerCase (selectorOf action.data) = SELECTOR_EXECUTE ∧ EmptyCall action.data

theorem Written.of_same (same : SameAction action action') (written : Written action) :
    Written action' := by
  unfold Written at written ⊢
  rw [← same.lower_selector]
  exact written.imp_right (Or.imp_right (And.imp_right (EmptyCall.of_same same)))

/-- A short `execute` call is unbounded in lower case. -/
theorem decode_of_short (address : isAddress action.toAddress = true)
    (execute : toLowerCase (selectorOf action.data) = SELECTOR_EXECUTE)
    (lower : InLowerCase action.data) (short : action.data.length ≤ 138) :
    ∃ intent, createDefaultRegistry.decode action ctx = .ok intent ∧ intent.kind = .unknown := by
  have normal := normalizeAddress_of_isAddress address
  have written : selectorOf action.data = SELECTOR_EXECUTE := by rw [← lower, execute]
  obtain ⟨e, malformed⟩ := readCommandStream_deadline_of_short short
  rw [decode_of_claimed (by rw [execute]; exact claimant_execute)]
  have answer : uniswapV4Decoder.decode action ctx =
      .ok (some (unboundedSwap action (addressText (addressOf action.toAddress))
        (selectorOf action.data) ctx.trackedAsset "command stream is malformed".toList)) := by
    change UniswapV4.decode action ctx = _
    simp only [UniswapV4.decode, normal, written, decide_true, malformed, bind, Except.bind]
  rw [answer]
  exact ⟨_, rfl, rfl⟩

/-- Without the deadline an empty one is a swap of nothing. -/
theorem decode_of_emptyCall (address : isAddress action.toAddress = true)
    (execute : toLowerCase (selectorOf action.data) = SELECTOR_EXECUTE)
    (mixed : ¬ InLowerCase action.data) (empty : EmptyCall action.data) :
    createDefaultRegistry.decode action ctx =
      swapIntent action ctx (addressText (addressOf action.toAddress)) (selectorOf action.data)
        ⟨.empty, none⟩ := by
  have normal := normalizeAddress_of_isAddress address
  have written : selectorOf action.data ≠ SELECTOR_EXECUTE := by
    intro same
    rw [InLowerCase, execute, same] at mixed
    exact mixed rfl
  have stream := readCommandStream_of_emptyCall empty
  rw [decode_of_claimed (by rw [execute]; exact claimant_execute)]
  change (UniswapV4.decode action ctx >>= settle action ctx) = _
  simp only [UniswapV4.decode, normal, written, decide_false, stream, List.zip_nil_left,
    readCommands, bind, Except.bind]
  cases swapIntent action ctx (addressText (addressOf action.toAddress)) (selectorOf action.data)
    ⟨.empty, none⟩ with
  | error e => rfl
  | ok intent => rfl

theorem kind_of_swapIntent {router selector : Text} {g : UniswapV4.Gathered}
    {intent : NormalizedIntent} (built : swapIntent action ctx router selector g = .ok intent) : intent.kind = .swap := by
  obtain ⟨tracked, -, built⟩ := bind_eq_ok_iff.mp built
  obtain ⟨native, -, built⟩ := bind_eq_ok_iff.mp built
  cases built
  rfl

/-- One in lower case and one in another are not read alike. -/
theorem not_alike_of_lower (same : SameAction action action')
    (address : isAddress action.toAddress = true) (written : Written action)
    (lower : InLowerCase action.data) (mixed : ¬ InLowerCase action'.data) :
    ¬ Alike SameReading (createDefaultRegistry.decode action ctx)
      (createDefaultRegistry.decode action' ctx) := by
  intro alike
  have address' : isAddress action'.toAddress = true := by rw [← same.isAddress, address]
  have written' := written.of_same same
  have token (listed : toLowerCase (selectorOf action.data) ∈ erc20Decoder.selectors ∨
      toLowerCase (selectorOf action.data) ∈ x402Decoder.selectors) : False := by
    have listed' := listed
    rw [same.lower_selector] at listed'
    rw [decode_of_mixed address' mixed listed'] at alike
    cases decoded : createDefaultRegistry.decode action ctx with
    | error e =>
        rw [decoded] at alike
        exact Alike.not_error_ok alike
    | ok intent =>
        rw [decoded, Alike.ok_iff] at alike
        exact kind_of_lower lower listed decoded alike.kind
  rcases written with listed | listed | ⟨execute, empty⟩
  · exact token (.inl listed)
  · exact token (.inr listed)
  · obtain ⟨intent, decoded, unknown⟩ := @decode_of_short _ ctx address execute lower empty.short
    rw [same.lower_selector] at execute
    rw [decoded, decode_of_emptyCall address' execute mixed (empty.of_same same)] at alike
    cases built : swapIntent action' ctx (addressText (addressOf action'.toAddress))
        (selectorOf action'.data) ⟨.empty, none⟩ with
    | error e =>
        rw [built] at alike
        exact Alike.not_ok_error alike
    | ok intent' =>
        rw [built, Alike.ok_iff] at alike
        have swap := kind_of_swapIntent built
        rw [← alike.kind, unknown] at swap
        cases swap

/-- With the flag or without it: a long call has the same stream, and a short one that is not empty
has none. -/
theorem stream_of_full {data : Text} (hex : AllHex (data.drop 10)) (full : ¬ EmptyCall data)
    (hasDeadline : Bool) :
    (data.length ≤ 138 ∧ ∃ e, readCommandStream data hasDeadline = .error e) ∨
      (138 < data.length ∧ readCommandStream data hasDeadline = readCommandStream data false) := by
  rcases Nat.lt_or_ge 138 data.length with long | short
  · cases hasDeadline with
    | false => exact .inr ⟨long, rfl⟩
    | true => exact .inr ⟨long, readCommandStream_deadline_of_long hex long⟩
  · cases hasDeadline with
    | false => exact .inl ⟨short, readCommandStream_of_short hex short full⟩
    | true => exact .inl ⟨short, readCommandStream_deadline_of_short short⟩

/-- Streams are read alike, unless the deadline is asked of one only and the call is empty. -/
theorem streams_alike (same : SameAction action action')
    (safe : toLowerCase (selectorOf action.data) = SELECTOR_EXECUTE → EmptyCall action.data →
      (InLowerCase action.data ↔ InLowerCase action'.data)) :
    Alike SameStream (streamOf action) (streamOf action') := by
  have digits := same.data.drop 8
  by_cases flags : selectorOf action.data = SELECTOR_EXECUTE ↔
      selectorOf action'.data = SELECTOR_EXECUTE
  · have flag : decide (selectorOf action.data = SELECTOR_EXECUTE) =
        decide (selectorOf action'.data = SELECTOR_EXECUTE) := decide_eq_decide.mpr flags
    rw [streamOf, streamOf, flag]
    exact readCommandStream_alike digits _
  · have execute : toLowerCase (selectorOf action.data) = SELECTOR_EXECUTE := by
      by_cases written : selectorOf action.data = SELECTOR_EXECUTE
      · rw [written]
        rfl
      · have written' : selectorOf action'.data = SELECTOR_EXECUTE := by
          by_contra other
          exact flags (iff_of_false written other)
        rw [same.lower_selector, written']
        rfl
    have full : ¬ EmptyCall action.data := by
      intro empty
      have lowers := safe execute empty
      rw [InLowerCase, InLowerCase, ← same.lower_selector, execute] at lowers
      exact flags (eq_comm.trans (lowers.trans eq_comm))
    have full' : ¬ EmptyCall action'.data := mt (EmptyCall.of_same same.symm) full
    have length := same.data.length
    rw [streamOf, streamOf]
    rcases stream_of_full digits.hex full (selectorOf action.data = SELECTOR_EXECUTE) with
      ⟨short, e, failed⟩ | ⟨long, read⟩
    · rcases stream_of_full digits.hex' full' (selectorOf action'.data = SELECTOR_EXECUTE) with
        ⟨-, e', failed'⟩ | ⟨long', -⟩
      · rw [failed, failed']
        exact .throws e e'
      · omega
    · rcases stream_of_full digits.hex' full' (selectorOf action'.data = SELECTOR_EXECUTE) with
        ⟨short', -⟩ | ⟨-, read'⟩
      · omega
      · rw [read, read']
        exact readCommandStream_alike digits false

/-- The condition under which two actions of the same bytes are read alike: no decoder compares
their selector, or both write it in lower case, or neither does. -/
def CaseSafe (action action' : Action) : Prop :=
  isAddress action.toAddress = true → Written action →
    (InLowerCase action.data ↔ InLowerCase action'.data)

theorem alike_of_caseSafe (same : SameAction action action') (safe : CaseSafe action action') :
    Alike SameReading (createDefaultRegistry.decode action ctx)
      (createDefaultRegistry.decode action' ctx) := by
  by_cases address : isAddress action.toAddress = true
  swap
  · have address' : ¬ isAddress action'.toAddress = true := by rwa [← same.isAddress]
    cases decoded : createDefaultRegistry.decode action ctx with
    | ok intent => exact absurd (isAddress_of_decode decoded) address
    | error e =>
        cases decoded' : createDefaultRegistry.decode action' ctx with
        | ok intent => exact absurd (isAddress_of_decode decoded') address'
        | error e' => exact .throws e e'
  have lowers := safe address
  -- two selectors in lower case are the same text
  have selectors (lower : InLowerCase action.data) (lower' : InLowerCase action'.data) :
      selectorOf action.data = selectorOf action'.data := by
    rw [← lower, ← lower', same.lower_selector]
  have asked {decoder : SelectorDecoder}
      (claimed : claimant (toLowerCase (selectorOf action.data)) = some decoder)
      (answers : Alike (Option.Rel SameReading) (decoder.decode action ctx)
        (decoder.decode action' ctx)) :
      Alike SameReading (createDefaultRegistry.decode action ctx)
        (createDefaultRegistry.decode action' ctx) := by
    have claimed' := claimed
    rw [same.lower_selector] at claimed'
    rw [decode_of_claimed claimed, decode_of_claimed claimed']
    exact answers.bind fun _ _ related => settle_alike same related
  by_cases erc20 : toLowerCase (selectorOf action.data) ∈ erc20Decoder.selectors
  · refine asked (claimant_erc20 erc20) ?_
    by_cases lower : InLowerCase action.data
    · exact erc20Decoder_alike same (selectors lower ((lowers (.inl erc20)).mp lower))
    · rw [erc20Decoder_declines lower,
        erc20Decoder_declines (mt (lowers (.inl erc20)).mpr lower)]
      exact same.target_alike.bindEq fun _ => .returns .none
  by_cases uniswap : toLowerCase (selectorOf action.data) ∈ uniswapV4Decoder.selectors
  · refine asked ((if_neg erc20).trans (if_pos uniswap)) (uniswapV4Decoder_alike same ?_)
    exact streams_alike same fun execute empty => lowers (.inr (.inr ⟨execute, empty⟩))
  by_cases x402 : toLowerCase (selectorOf action.data) ∈ x402Decoder.selectors
  · refine asked (claimant_x402 x402) ?_
    by_cases lower : InLowerCase action.data
    · exact x402Decoder_alike same (selectors lower ((lowers (.inr (.inl x402))).mp lower))
    · rw [x402Decoder_declines lower,
        x402Decoder_declines (mt (lowers (.inr (.inl x402))).mpr lower)]
      exact .returns .none
  · have unclaimed : claimant (toLowerCase (selectorOf action.data)) = none := by
      rw [claimant, if_neg erc20, if_neg uniswap, if_neg x402]
    have unclaimed' := unclaimed
    rw [same.lower_selector] at unclaimed'
    rw [decode_of_unclaimed unclaimed, decode_of_unclaimed unclaimed']
    exact (nativeDecoder_alike same).bind fun _ _ related => settle_alike same related

theorem SameReading.symm {intent intent' : NormalizedIntent} (read : SameReading intent intent') :
    SameReading intent' intent :=
  ⟨read.kind.symm, read.target.symm, read.counterparty.symm, read.outflow.symm,
    read.nativeValue.symm, read.notionalUSDC.symm⟩

theorem alike_iff_caseSafe (same : SameAction action action') :
    Alike SameReading (createDefaultRegistry.decode action ctx)
      (createDefaultRegistry.decode action' ctx) ↔ CaseSafe action action' := by
  refine ⟨fun alike address written => ?_, alike_of_caseSafe same⟩
  by_contra differ
  by_cases lower : InLowerCase action.data
  · have mixed : ¬ InLowerCase action'.data := fun lower' => differ (iff_of_true lower lower')
    exact not_alike_of_lower same address written lower mixed alike
  · have lower' : InLowerCase action'.data := by
      by_contra mixed
      exact differ (iff_of_false lower mixed)
    have address' : isAddress action'.toAddress = true := by rw [← same.isAddress, address]
    exact not_alike_of_lower same.symm address' (written.of_same same) lower' lower
      (alike.symm.mono fun _ _ read => read.symm)

end Pair

/-! ## The decision -/

section Decision

variable {intent intent' : NormalizedIntent} {state : PolicyState} {action action' : Action}

theorem SameReading.admits_iff (read : SameReading intent intent') (contracts recipients : List Text)
    (allowUnknownSelectors : Bool) : Admits contracts recipients allowUnknownSelectors intent ↔
      Admits contracts recipients allowUnknownSelectors intent' := by
  unfold Admits movesValue
  rw [read.kind, read.target, read.counterparty, read.outflow]

theorem SameReading.decision_eq (read : SameReading intent intent') (policy : ResolvedPolicy)
    (allowUnknownSelectors : Bool) (state : PolicyState) :
    (PolicyEngine.evaluate (createEngine policy allowUnknownSelectors).policies intent
        state).decision =
      (PolicyEngine.evaluate (createEngine policy allowUnknownSelectors).policies intent'
        state).decision := by
  have listed : ((AllowlistPolicy policy.allowedContracts policy.allowedRecipients
      allowUnknownSelectors).evaluate intent state).decision =
      ((AllowlistPolicy policy.allowedContracts policy.allowedRecipients
        allowUnknownSelectors).evaluate intent' state).decision := by
    have same := read.admits_iff policy.allowedContracts policy.allowedRecipients
      allowUnknownSelectors
    by_cases admits : Admits policy.allowedContracts policy.allowedRecipients
        allowUnknownSelectors intent
    · rw [allowlist_eq_allow_iff.mpr admits, allowlist_eq_allow_iff.mpr (same.mp admits)]
    · rw [allowlist_eq_block_iff.mpr admits, allowlist_eq_block_iff.mpr (mt same.mpr admits)]
  refine PolicyEngine.evaluate_congr fun entry mem => ?_
  simp only [createEngine, List.mem_cons, List.not_mem_nil, or_false] at mem
  rcases mem with rfl | rfl | rfl | rfl | rfl
  · exact listed
  · rw [PolicyEngine.verdict, PolicyEngine.verdict, maxTransaction_decision,
      maxTransaction_decision, read.notionalUSDC]
  · rw [PolicyEngine.verdict, PolicyEngine.verdict, minBalance_decision, minBalance_decision,
      read.notionalUSDC]
  · rw [PolicyEngine.verdict, PolicyEngine.verdict, dailySpend_decision, dailySpend_decision,
      read.notionalUSDC]
  · rw [PolicyEngine.verdict, PolicyEngine.verdict, approvalThreshold_decision,
      approvalThreshold_decision, read.notionalUSDC]

/-- The engine with the five policies of a document, in a context. -/
def engineIn (policy : ResolvedPolicy) (allowUnknownSelectors : Bool) (ctx : DecoderContext) :
    PolicyEngineOptions :=
  { createEngine policy allowUnknownSelectors with decoderContext := ctx }

/-- Two actions of the same bytes are read alike and decided alike exactly when the target is no
address, or no decoder compares their selector as it is written, or both write it in lower case, or
neither does. -/
theorem decode_case_insensitive_iff (same : SameAction action action') (ctx : DecoderContext) :
    (Alike SameReading (createDefaultRegistry.decode action ctx)
        (createDefaultRegistry.decode action' ctx) ∧
      ∀ policy allowUnknownSelectors state,
        Alike Eq ((engineIn policy allowUnknownSelectors ctx).decision action state)
          ((engineIn policy allowUnknownSelectors ctx).decision action' state)) ↔
      CaseSafe action action' := by
  rw [← @alike_iff_caseSafe _ _ ctx same]
  refine ⟨And.left, fun alike => ⟨alike, fun policy allowUnknownSelectors state => ?_⟩⟩
  have verified : Alike (fun result result' : PolicyResult => result.decision = result'.decision)
      ((engineIn policy allowUnknownSelectors ctx).verify action state)
      ((engineIn policy allowUnknownSelectors ctx).verify action' state) :=
    alike.bind fun _ _ read => .returns (read.decision_eq policy allowUnknownSelectors state)
  exact verified.bind fun _ _ decided => .returns decided

end Decision

/-! ### A transfer in two letter cases -/

/-- A transfer of 1 to `0x22`, its selector and its target as written. -/
def writtenTransfer (target selector : Text) : Action where
  toAddress := target
  data := selector ++ wordText 0x22 ++ wordText 1
  value := 0

def upperTarget : Text := "0x00000000000000000000000000000000000A55E7".toList

theorem sameAction_writtenTransfer :
    SameAction (writtenTransfer (addressText 0xa55e7) "0xa9059cbb".toList)
        (writtenTransfer upperTarget "0xa9059cbb".toList) ∧
      SameAction (writtenTransfer (addressText 0xa55e7) "0xa9059cbb".toList)
        (writtenTransfer (addressText 0xa55e7) "0xA9059CBB".toList) := by
  have digits {t t' : Text} (first : t = '0' :: 'x' :: t.drop 2) (second : t' = '0' :: 'x' :: t'.drop 2)
      (hex : AllHex (t.drop 2)) (hex' : AllHex (t'.drop 2))
      (lower : toLowerCase (t.drop 2) = toLowerCase (t'.drop 2)) : SameBytes t t' :=
    ⟨_, _, first, second, hex, hex', lower⟩
  constructor
  all_goals
    constructor
    · exact digits (by decide +kernel) (by decide +kernel) (by decide +kernel) (by decide +kernel)
        (by decide +kernel)
    · exact digits (by decide +kernel) (by decide +kernel) (by decide +kernel) (by decide +kernel)
        (by decide +kernel)
    · decide +kernel

theorem decode_case_insensitive_writtenTransfer :
    Alike SameReading
      (createDefaultRegistry.decode (writtenTransfer (addressText 0xa55e7) "0xa9059cbb".toList)
        sampleContext)
      (createDefaultRegistry.decode (writtenTransfer upperTarget "0xa9059cbb".toList)
        sampleContext) :=
  ((decode_case_insensitive_iff sameAction_writtenTransfer.1 sampleContext).mpr
    fun _ _ => by decide +kernel).1

/-- With its selector in upper case the transfer is unknown. -/
theorem not_case_insensitive_writtenTransfer :
    SameAction (writtenTransfer (addressText 0xa55e7) "0xa9059cbb".toList)
        (writtenTransfer (addressText 0xa55e7) "0xA9059CBB".toList) ∧
      ¬ Alike SameReading
        (createDefaultRegistry.decode (writtenTransfer (addressText 0xa55e7) "0xa9059cbb".toList)
          sampleContext)
        (createDefaultRegistry.decode (writtenTransfer (addressText 0xa55e7) "0xA9059CBB".toList)
          sampleContext) :=
  ⟨sameAction_writtenTransfer.2, not_alike_of_lower sameAction_writtenTransfer.2
    (isAddress_addressText _) (.inl (by decide +kernel)) (by decide +kernel) (by decide +kernel)⟩

end Sdk

end AgentProof
