import AgentProof.Sdk.RouterLoops

/-!
# Where the router decoder's numbers come from

A swap is reported for a stream of modelled commands and actions only, and every
amount and currency it counts was read from a complete word, or from complete
path bytes, of the calldata.  Everything else is unbounded.
-/

namespace AgentProof

namespace Sdk

namespace UniswapV4

open Js Counted

/-- A complete word of the calldata denotes the number. -/
def WordOf (data : Text) (v : Nat) : Prop :=
  ∃ word, Inside data word ∧ word.length = 64 ∧ bigIntHex word = .ok v

/-- A currency is named by a word, by twenty bytes of a path, or, for what a wrap pays, by
nothing. -/
inductive CurrencyOf (data : Text) : Text → Prop
  | word {v : Nat} {currency : Text} (read : WordOf data v)
      (normal : normalizeAddress (addressDigits v) = .ok currency) : CurrencyOf data currency
  | path {digits currency : Text} (inside : Inside data digits) (twenty : digits.length = 40)
      (normal : normalizeAddress ('0' :: 'x' :: digits) = .ok currency) : CurrencyOf data currency
  | native : CurrencyOf data NATIVE_ASSET

/-- An amount is a word, or stands for a Permit2 allowance that is unlimited. -/
inductive AmountOf (data : Text) : Int → Prop
  | word {v : Nat} (read : WordOf data v) : AmountOf data v
  | unlimited {v : Nat} (read : WordOf data v) (large : PERMIT2_UNLIMITED ≤ v) :
      AmountOf data UNBOUNDED

/-- An outflow put together from currencies and amounts of the calldata. -/
inductive Drawn (data : Text) : Outflow → Prop
  | empty : Drawn data .empty
  | add {o : Outflow} {currency key : Text} {amount : Int} (drawn : Drawn data o)
      (named : CurrencyOf data currency) (canonical : canonicalAsset currency = .ok key)
      (read : AmountOf data amount) : Drawn data (o.addAt key amount)
  | atLeast {o : Outflow} {currency key : Text} {amount : Int} (drawn : Drawn data o)
      (named : CurrencyOf data currency) (canonical : canonicalAsset currency = .ok key)
      (read : AmountOf data amount) : Drawn data (o.atLeastAt key amount)
  | merge {o nested : Outflow} (drawn : Drawn data o) (inner : Drawn data nested) :
      Drawn data (o.addAll nested.byAsset.entries)

/-- The commands the decoder models. -/
def modelledCommands : List Nat :=
  [0x00, 0x01, 0x02, 0x04, 0x05, 0x06, 0x08, 0x09, 0x0a, 0x0b, 0x0c, 0x10]

/-- The v4 actions the decoder models; the multi-hop swaps are refused. -/
def modelledActions : List Int :=
  [0x06, 0x08, 0x0b, 0x0c, 0x0d, 0x0e, 0x0f, 0x10, 0x11, 0x12, 0x13]

/-- A command is modelled, and so is every action nested in it. -/
structure Modelled (turn : Option Int × Text) : Prop where
  command : maskBits turn.1 6 ∈ modelledCommands
  actions : maskBits turn.1 6 = 0x10 → ∃ inner, readV4Stream turn.2 = some inner ∧
    ∀ action ∈ inner.commands, ∃ code ∈ modelledActions, action = some code

section Words

variable {data input : Text} {index v : Nat}

theorem wordOf_of_wordAt (inside : Inside data input) (read : wordAt input index = .ok v) :
    WordOf data v := by
  rw [wordAt] at read
  split_ifs at read with short
  · cases read
  · have complete := not_not.mp short
    exact ⟨_, inside.trans (inside_slice (by omega) complete), complete, read⟩

theorem currencyOf_of_wordAsAddress {currency : Text} (inside : Inside data input)
    (read : wordAsAddress input index = .ok currency) : CurrencyOf data currency := by
  obtain ⟨value, word, normal⟩ := bind_eq_ok_iff.mp read
  exact .word (wordOf_of_wordAt inside word) normal

theorem inside_of_readPath {path : Text} (read : readPath input index = some path) :
    Inside input path ∧ path.length % 2 = 0 ∧ 40 ≤ path.length := by
  rw [readPath] at read
  obtain ⟨offset, -, read⟩ := bind_eq_ok_iff.mp (toOption_join_eq_some_iff.mp read)
  obtain ⟨length, -, read⟩ := bind_eq_ok_iff.mp read
  dsimp only at read
  split_ifs at read with refused
  · cases read
  · rw [not_or, ne_eq, not_not, not_lt] at refused
    cases read
    obtain ⟨complete, long⟩ := refused
    refine ⟨inside_slice (by omega) complete, ?_, ?_⟩
    · rw [complete]
      omega
    · rw [complete]
      omega

theorem currencyOf_of_pathFirstToken {currency : Text} (inside : Inside data input)
    (read : pathFirstToken input index = .ok (some currency)) : CurrencyOf data currency := by
  rw [pathFirstToken] at read
  split at read
  · cases read
  · next path found =>
      obtain ⟨within, -, long⟩ := inside_of_readPath found
      obtain ⟨token, normal, same⟩ := bind_eq_ok_iff.mp read
      cases same
      have complete : (slice path 0 (0 + 40)).length = 40 := by
        rw [slice, List.length_take, List.length_drop]
        omega
      exact .path (inside.trans (within.trans (inside_slice (by omega) complete))) complete normal

theorem currencyOf_of_pathLastToken {currency : Text} (inside : Inside data input)
    (read : pathLastToken input index = .ok (some currency)) : CurrencyOf data currency := by
  rw [pathLastToken] at read
  split at read
  · cases read
  · next path found =>
      obtain ⟨within, even, long⟩ := inside_of_readPath found
      obtain ⟨token, normal, same⟩ := bind_eq_ok_iff.mp read
      cases same
      have last : path.drop (path.length - 40) =
          slice path (path.length - 40) (path.length - 40 + 40) := by
        rw [slice, List.take_of_length_le]
        rw [List.length_drop]
        omega
      have complete : (slice path (path.length - 40) (path.length - 40 + 40)).length = 40 := by
        rw [← last, List.length_drop]
        omega
      rw [last] at normal
      exact .path (inside.trans (within.trans (inside_slice (by omega) complete))) complete normal

end Words

/-! ## Actions -/

section Actions

variable {data params input : Text} {o o' : Outflow}

/-- What a turn of the action loop reads, and that the action is modelled. -/
theorem readV4Action_words {action : Option Int} (read : readV4Action o action params = .ok (some o')) :
    (∃ code ∈ modelledActions, action = some code) ∧
      (o' = o ∨ ∃ (currency : Text) (amount i j : Nat), wordAsAddress params i = .ok currency ∧
        wordAt params j = .ok amount ∧
          (o.add currency amount = .ok o' ∨ o.atLeast currency amount = .ok o')) := by
  have single (index : Nat) (read : (do
      let swap ← singleSwap params index
      let outflow ← o.add swap.1 swap.2
      .ok (some outflow) : Except JsError (Option Outflow)) = .ok (some o')) :
      ∃ (currency : Text) (amount i j : Nat), wordAsAddress params i = .ok currency ∧
        wordAt params j = .ok amount ∧
          (o.add currency amount = .ok o' ∨ o.atLeast currency amount = .ok o') := by
    simp only [bind_eq_ok_iff, Except.ok.injEq, Option.some.injEq, singleSwap] at read
    obtain ⟨_, ⟨zeroForOne, -, currency, named, amount, word, rfl⟩, outflow, added, rfl⟩ := read
    exact ⟨currency, amount, _, index, named, word, .inl added⟩
  unfold readV4Action at read
  split at read
  case h_1 => exact ⟨⟨0x06, by decide, rfl⟩, .inr (single 7 read)⟩
  case h_2 => exact ⟨⟨0x08, by decide, rfl⟩, .inr (single 8 read)⟩
  -- SETTLE
  case h_5 =>
    refine ⟨⟨0x0b, by decide, rfl⟩, ?_⟩
    simp only [bind_eq_ok_iff] at read
    obtain ⟨payer, -, read⟩ := read
    split_ifs at read
    · simp only [bind_eq_ok_iff, Except.ok.injEq, Option.some.injEq] at read
      obtain ⟨currency, named, amount, word, outflow, added, rfl⟩ := read
      exact .inr ⟨currency, amount, 0, 1, named, word, .inl added⟩
    · cases read
      exact .inl rfl
  -- SETTLE_ALL
  case h_6 =>
    refine ⟨⟨0x0c, by decide, rfl⟩, ?_⟩
    simp only [bind_eq_ok_iff, Except.ok.injEq, Option.some.injEq] at read
    obtain ⟨currency, named, amount, word, outflow, raised, rfl⟩ := read
    exact .inr ⟨currency, amount, 0, 1, named, word, .inr raised⟩
  all_goals
    cases read
    try exact ⟨⟨_, by decide, rfl⟩, .inl rfl⟩

theorem Outflow.atLeast_eq_ok {asset : Text} {amount : Int} (raised : o.atLeast asset amount = .ok o') :
    ∃ key, canonicalAsset asset = .ok key ∧ o' = o.atLeastAt key amount := by
  obtain ⟨key, canonical, same⟩ := bind_eq_ok_iff.mp raised
  exact ⟨key, canonical, (Except.ok.inj same).symm⟩

theorem Drawn.action {action : Option Int} (drawn : Drawn data o) (inside : Inside data params)
    (read : readV4Action o action params = .ok (some o')) : Drawn data o' := by
  rcases (readV4Action_words read).2 with rfl | ⟨currency, amount, i, j, named, word, recorded⟩
  · exact drawn
  · have who := currencyOf_of_wordAsAddress inside named
    have much := AmountOf.word (wordOf_of_wordAt inside word)
    rcases recorded with added | raised
    · obtain ⟨key, canonical, rfl⟩ := Outflow.add_eq_ok added
      exact drawn.add who canonical much
    · obtain ⟨key, canonical, rfl⟩ := Outflow.atLeast_eq_ok raised
      exact drawn.atLeast who canonical much

theorem drawn_of_readV4Actions {actions : List (Option Int × Text)} (drawn : Drawn data o)
    (inside : ∀ turn ∈ actions, Inside data turn.2) (read : readV4Actions o actions = some o') :
    Drawn data o' ∧ ∀ turn ∈ actions, ∃ code ∈ modelledActions, turn.1 = some code := by
  induction actions generalizing o with
  | nil =>
      cases read
      exact ⟨drawn, by simp⟩
  | cons head rest ih =>
      obtain ⟨action, params⟩ := head
      obtain ⟨here, later⟩ := List.forall_mem_cons.mp inside
      rw [readV4Actions] at read
      split at read
      · next next turned =>
          obtain ⟨whole, modelled⟩ := ih (drawn.action here turned) later read
          exact ⟨whole, List.forall_mem_cons.mpr ⟨(readV4Action_words turned).1, modelled⟩⟩
      · cases read
      · cases read

/-- A nested stream that is read has modelled actions only. -/
theorem drawn_of_readV4Outflow {nested : Outflow} (inside : Inside data input)
    (read : readV4Outflow input = some nested) :
    Drawn data nested ∧ ∃ inner, readV4Stream input = some inner ∧
      ∀ action ∈ inner.commands, ∃ code ∈ modelledActions, action = some code := by
  obtain ⟨inner, streamed, actions⟩ := Option.bind_eq_some_iff.mp read
  have parsed := parsed_of_readCommandStream (toOption_eq_some_iff.mp streamed)
  have prefixed : ("0x00000000".toList ++ input).drop 10 = input := rfl
  rw [prefixed] at parsed
  obtain ⟨drawn, modelled⟩ := drawn_of_readV4Actions .empty
    (fun turn mem => inside.trans (parsed.inputs turn.2 (List.of_mem_zip mem).2)) actions
  refine ⟨drawn, inner, streamed, fun action mem => ?_⟩
  rw [← List.map_fst_zip parsed.same.le] at mem
  obtain ⟨turn, listed, rfl⟩ := List.mem_map.mp mem
  exact modelled turn listed

end Actions

/-! ## Commands -/

section Commands

variable {data input : Text} {o : Outflow} {pay : Payments}

/-- One payment of a currency and an amount that come from the calldata. -/
theorem Drawn.paid {currency : Option Text} {amount : Option Int} (drawn : Drawn data o)
    (named : ∀ asset, currency = some asset → CurrencyOf data asset)
    (read : ∀ value, amount = some value → AmountOf data value)
    (pays : paid currency amount = some pay) : Drawn data (o.addAll pay) := by
  obtain ⟨asset, key, value, who, canonical, much, rfl⟩ := paid_eq_some_iff.mp pays
  exact drawn.add (named asset who) canonical (read value much)

/-- What a command pays is drawn from the calldata, and the command is modelled. -/
theorem Drawn.payments {byte : Option Int} (drawn : Drawn data o) (inside : Inside data input)
    (pays : payments (maskBits byte 6) input = some pay) :
    Drawn data (o.addAll pay) ∧ Modelled (byte, input) := by
  have word (index : Nat) : ∀ value, amountWord input index = some value → AmountOf data value := by
    intro value read
    obtain ⟨amount, word, rfl⟩ := amountWord_eq_some_iff.mp read
    exact .word (wordOf_of_wordAt inside word)
  have token : ∀ asset, (wordAsAddress input 0).toOption = some asset → CurrencyOf data asset :=
    fun asset read => currencyOf_of_wordAsAddress inside (toOption_eq_some_iff.mp read)
  have first : ∀ asset, (pathFirstToken input 3).toOption.join = some asset → CurrencyOf data asset :=
    fun asset read => currencyOf_of_pathFirstToken inside (toOption_join_eq_some_iff.mp read)
  have last : ∀ asset, (pathLastToken input 3).toOption.join = some asset → CurrencyOf data asset :=
    fun asset read => currencyOf_of_pathLastToken inside (toOption_join_eq_some_iff.mp read)
  have plain (command : Nat) (code : maskBits byte 6 = command) (listed : command ∈ modelledCommands)
      (other : command ≠ 0x10) : Modelled (byte, input) :=
    ⟨code ▸ listed, fun nested => absurd (code.symm.trans nested) other⟩
  generalize code : maskBits byte 6 = command at pays
  unfold UniswapV4.payments at pays
  split at pays
  case h_1 | h_2 => exact ⟨drawn.paid first (word 1) pays, plain _ code (by decide) (by decide)⟩
  case h_3 | h_4 => exact ⟨drawn.paid last (word 2) pays, plain _ code (by decide) (by decide)⟩
  -- V4_SWAP
  case h_5 =>
    obtain ⟨nested, read, rfl⟩ := Option.map_eq_some_iff.mp pays
    obtain ⟨inner, modelled⟩ := drawn_of_readV4Outflow inside read
    refine ⟨drawn.merge inner, ?_, fun _ => modelled⟩
    dsimp only
    rw [code]
    decide
  case h_6 | h_7 => exact ⟨drawn.paid token (word 2) pays, plain _ code (by decide) (by decide)⟩
  -- PERMIT2_PERMIT
  case h_8 =>
    refine ⟨drawn.paid token (fun value read => ?_) pays, plain _ code (by decide) (by decide)⟩
    obtain ⟨_, allowance, rfl⟩ := Option.map_eq_some_iff.mp read
    obtain ⟨amount, word, rfl⟩ := amountWord_eq_some_iff.mp allowance
    rw [permitted]
    split_ifs with large
    · exact .unlimited (wordOf_of_wordAt inside word) large
    · exact .word (wordOf_of_wordAt inside word)
  -- WRAP_ETH
  case h_9 =>
    refine ⟨drawn.paid (fun asset same => ?_) (word 1) pays, plain _ code (by decide) (by decide)⟩
    cases same
    exact .native
  case h_10 | h_11 | h_12 =>
    cases pays
    exact ⟨drawn, plain _ code (by decide) (by decide)⟩
  case h_13 => cases pays

theorem drawn_of_paymentsOf {stream : List (Option Int × Text)} (drawn : Drawn data o)
    (inside : ∀ turn ∈ stream, Inside data turn.2) (pays : paymentsOf stream = some pay) :
    Drawn data (o.addAll pay) ∧ ∀ turn ∈ stream, Modelled turn := by
  induction stream generalizing o pay with
  | nil =>
      cases pays
      exact ⟨drawn, by simp⟩
  | cons head rest ih =>
      obtain ⟨byte, input⟩ := head
      obtain ⟨first, others⟩ := List.forall_mem_cons.mp inside
      simp only [paymentsOf, Option.bind_eq_bind, Option.bind_eq_some_iff, Option.some.injEq] at pays
      obtain ⟨here, paysHere, later, paysLater, rfl⟩ := pays
      obtain ⟨next, modelled⟩ := drawn.payments first paysHere
      obtain ⟨whole, models⟩ := ih next others paysLater
      rw [Outflow.addAll_append]
      exact ⟨whole, List.forall_mem_cons.mpr ⟨modelled, models⟩⟩

end Commands

/-! ## The decoder -/

section Decoder

variable {action : Action} {ctx : DecoderContext} {intent : NormalizedIntent}

/-- A swap of a modelled stream, with everything it counts drawn from the calldata. -/
structure BoundedIntent (action : Action) (ctx : DecoderContext) (intent : NormalizedIntent)
    (stream : CommandStream) (g : Gathered) : Prop where
  kind : intent.kind = .swap
  read : SwapIntent action ctx intent stream g
  modelled : ∀ turn ∈ stream.commands.zip stream.inputs, Modelled turn
  drawn : Drawn action.data g.outflow

/-- A text behind the selector. -/
theorem inside_drop {data : Text} (long : 10 ≤ data.length) : Inside data (data.drop 10) := by
  refine ⟨5, ?_, ?_⟩
  · rw [List.length_drop]
    omega
  · rw [slice, Nat.add_sub_cancel_left, List.take_length]

theorem bounded_of_swapIntent {stream : CommandStream} {g : Gathered} (long : 10 ≤ action.data.length)
    (read : SwapIntent action ctx intent stream g) : BoundedIntent action ctx intent stream g := by
  have parsed := parsed_of_readCommandStream read.streamed
  obtain ⟨final, pay, -, pays, same⟩ := readCommands_eq_ok_iff.mp read.gathered
  obtain ⟨drawn, modelled⟩ := drawn_of_paymentsOf .empty
    (fun turn mem => (inside_drop long).trans (parsed.inputs turn.2 (List.of_mem_zip mem).2)) pays
  refine ⟨?_, read, modelled, ?_⟩
  · obtain ⟨tracked, -, rest⟩ := bind_eq_ok_iff.mp read.built
    obtain ⟨native, -, rest⟩ := bind_eq_ok_iff.mp rest
    generalize intent.target = router at rest
    cases rest
    rfl
  · rw [← same]
    exact drawn

/-- The decoder answers every call of the router, in a context whose tracked asset is an
address: without a bound, or with a swap. -/
theorem decode_answers (router : isAddress action.toAddress = true)
    (tracked : isAddress ctx.trackedAsset = true) :
    ∃ intent, uniswapV4Decoder.decode action ctx = .ok (some intent) := by
  change ∃ intent, decode action ctx = .ok (some intent)
  rw [decode, normalizeAddress_of_isAddress router]
  simp only [bind, Except.bind]
  split
  · exact ⟨_, rfl⟩
  · split
    · exact ⟨_, rfl⟩
    · next g _ =>
        rw [swapIntent, Outflow.get, canonicalAsset, normalizeAddress_of_isAddress tracked]
        have native : g.outflow.get NATIVE_ASSET = .ok (g.outflow.amountAt NATIVE_ASSET) := by
          have canonical : canonicalAsset NATIVE_ASSET = .ok NATIVE_ASSET := by decide +kernel
          rw [Outflow.get, canonical]
          rfl
        rw [native]
        exact ⟨_, rfl⟩

/-- On every calldata with a selector of the router the loops are bounded by the number of its
digits, nothing is thrown, and the answer has no bound or is a swap of a modelled stream. -/
theorem decode_fails_closed (router : isAddress action.toAddress = true)
    (tracked : isAddress ctx.trackedAsset = true)
    (selector : selectorOf action.data ∈ uniswapV4Decoder.selectors) :
    (decode_counted action ctx).result = uniswapV4Decoder.decode action ctx ∧
      Within (action.data.length - 2) (decode_counted action ctx) ∧
      ∃ intent, uniswapV4Decoder.decode action ctx = .ok (some intent) ∧
        (UnboundedIntent action ctx intent ∨
          ∃ stream g, BoundedIntent action ctx intent stream g) := by
  have long : 10 ≤ action.data.length := by
    by_contra short
    rw [selectorOf, if_neg short] at selector
    revert selector
    decide
  refine ⟨result_decode_counted action ctx, within_decode_counted long, ?_⟩
  obtain ⟨intent, decoded⟩ := decode_answers router tracked
  refine ⟨intent, decoded, ?_⟩
  rcases uniswapV4Decoder_cases decoded with unbounded | ⟨stream, g, swap⟩
  · exact .inl unbounded
  · exact .inr ⟨stream, g, bounded_of_swapIntent long swap⟩

theorem decode_fails_closed_sampleTransfers :
    ∃ intent, uniswapV4Decoder.decode (sampleTransfers 0x22) sampleContext = .ok (some intent) ∧
      (UnboundedIntent (sampleTransfers 0x22) sampleContext intent ∨
        ∃ stream g, BoundedIntent (sampleTransfers 0x22) sampleContext intent stream g) := by
  have selector : selectorOf (sampleTransfers 0x22).data ∈ uniswapV4Decoder.selectors := by
    decide +kernel
  exact (decode_fails_closed (isAddress_addressText 0x77) (isAddress_addressText 0x11) selector).2.2

end Decoder

end UniswapV4

end Sdk

end AgentProof
