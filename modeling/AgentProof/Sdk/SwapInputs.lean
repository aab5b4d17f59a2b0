import AgentProof.Sdk.Compositional

/-!
# Swap inputs

The inputs that `testing/calldata.ts` builds for exact-input and exact-output
swaps, and what a stream of such swaps pays: the amount in, or its maximum, of
the token paid.  The packed path of an exact-output swap is reversed.
-/

namespace AgentProof

namespace Sdk

namespace Calldata

open Js UniswapV4 KeyedSum

/-- `word` of a bigint, which may have a sign. -/
def bigWord (value : Int) : Text :=
  padStart 64 '0' (if value < 0 then '-' :: toHex value.natAbs else toHex value.natAbs)

structure ExactInParams where
  recipient : Text
  amountIn : Int
  amountOutMin : Option Int
  tokenIn : Text
  tokenOut : Text
  fee : Option Nat
  deriving DecidableEq, Repr

structure ExactOutParams where
  recipient : Text
  amountOut : Int
  amountInMaximum : Int
  tokenIn : Text
  tokenOut : Text
  fee : Option Nat
  deriving DecidableEq, Repr

/-- The packed path between two tokens. -/
def packedPath (first last : Text) (fee : Option Nat) : Text :=
  first.drop 2 ++ padStart 6 '0' (toHex (fee.getD 3000)) ++ last.drop 2

/-- (recipient, amountIn, amountOutMin, path, payerIsUser) -/
def encodeExactInInput (params : ExactInParams) : Except JsError Text := do
  let path := packedPath params.tokenIn params.tokenOut params.fee
  let pathOffset := 5 * 32
  let recipient ← bigInt params.recipient
  let element ← encodeBytes path
  .ok (bigWord recipient ++ bigWord params.amountIn ++ bigWord (params.amountOutMin.getD 0) ++
    word pathOffset ++ word 1 ++ element)

/-- (recipient, amountOut, amountInMaximum, path, payerIsUser) -/
def encodeExactOutInput (params : ExactOutParams) : Except JsError Text := do
  let path := packedPath params.tokenOut params.tokenIn params.fee
  let recipient ← bigInt params.recipient
  let element ← encodeBytes path
  .ok (bigWord recipient ++ bigWord params.amountOut ++ bigWord params.amountInMaximum ++
    word (5 * 32) ++ word 1 ++ element)

/-! ## Reading a swap input -/

theorem bigWord_natCast (v : Nat) : bigWord v = word v := by
  rw [bigWord, if_neg (not_lt.mpr (Int.natCast_nonneg v)), Int.natAbs_natCast, word]

/-- An address is a bigint literal. -/
theorem bigInt_of_isAddress {t : Text} (address : isAddress t = true) :
    bigInt t = .ok ((addressOf t).toNat : Int) := by
  obtain ⟨body, rfl, length, hex, number⟩ := isAddress_eq_true address
  have whole : trim ('0' :: 'x' :: body) = '0' :: 'x' :: body := by
    refine trim_of_solid fun c mem => ?_
    rw [List.mem_cons, List.mem_cons] at mem
    rcases mem with rfl | rfl | mem
    · decide
    · decide
    · exact isSpace_of_isHexDigit (List.all_eq_true.mp hex c mem)
  have nonempty : body ≠ [] := by
    rintro rfl
    cases length
  have digits : body ≠ [] ∧ body.all isHexDigit = true := ⟨nonempty, hex⟩
  rw [number]
  simp only [bigInt, whole, signedNumeral, if_pos digits, one_mul]

/-- Word `index` behind others. -/
theorem wordAt_append {front rest : Text} {index v : Nat} (fits : v < 2 ^ 256)
    (behind : front.length = index * 64) :
    UniswapV4.wordAt (front ++ (word v ++ rest)) index = .ok v := by
  have length := length_word fits
  have whole : slice (front ++ (word v ++ rest)) (index * 64) (index * 64 + 64) = word v :=
    slice_append behind (by rw [length])
  rw [UniswapV4.wordAt, whole, if_neg (not_not.mpr length), bigIntHex_word fits]

/-- The input of a swap with its words: a head of five, and the path. -/
def swapInput (recipient first second : Nat) (path : Text) : Text :=
  word recipient ++ word first ++ word second ++ word (5 * 32) ++ word 1 ++ frameText path

/-- The words of a swap input fit, and its path is one. -/
structure SwapWords (recipient first second : Nat) (path : Text) : Prop where
  recipient_lt : recipient < 2 ^ 160
  first_lt : first < 2 ^ 256
  second_lt : second < 2 ^ 256
  even : path.length % 2 = 0
  long : 40 ≤ path.length
  short : path.length < 2 ^ 256

section Input

variable {recipient first second : Nat} {path : Text}

theorem SwapWords.lengths (words : SwapWords recipient first second path) :
    (word recipient).length = 64 ∧ (word first).length = 64 ∧ (word second).length = 64 ∧
      (word (5 * 32)).length = 64 ∧ (word 1).length = 64 :=
  ⟨length_word (words.recipient_lt.trans (by norm_num)), length_word words.first_lt,
    length_word words.second_lt, length_word (by norm_num), length_word (by norm_num)⟩

theorem wordAt_swapInput (words : SwapWords recipient first second path) :
    UniswapV4.wordAt (swapInput recipient first second path) 0 = .ok recipient ∧
      UniswapV4.wordAt (swapInput recipient first second path) 1 = .ok first ∧
      UniswapV4.wordAt (swapInput recipient first second path) 2 = .ok second ∧
      UniswapV4.wordAt (swapInput recipient first second path) 3 = .ok 160 := by
  obtain ⟨length0, length1, length2, -, -⟩ := words.lengths
  have fits := words.recipient_lt.trans (show 2 ^ 160 < 2 ^ 256 by norm_num)
  simp only [swapInput, List.append_assoc]
  refine ⟨@wordAt_append [] _ 0 _ fits rfl, wordAt_append words.first_lt (by rw [length0]), ?_, ?_⟩
  · rw [← List.append_assoc]
    refine wordAt_append words.second_lt ?_
    rw [List.length_append, length0, length1]
  · rw [← List.append_assoc, ← List.append_assoc]
    refine wordAt_append (by norm_num) ?_
    rw [List.length_append, List.length_append, length0, length1, length2]

/-- The path stands behind the five words. -/
theorem readPath_swapInput (words : SwapWords recipient first second path) :
    readPath (swapInput recipient first second path) 3 = some path := by
  obtain ⟨length0, length1, length2, length3, length4⟩ := words.lengths
  obtain ⟨-, -, -, offset⟩ := wordAt_swapInput words
  have head : (word recipient ++ word first ++ word second ++ word (5 * 32) ++ word 1).length =
      160 * 2 := by
    simp only [List.length_append, length0, length1, length2, length3, length4]
  have frame := @frameAt_append _ [] path 160 words.even words.short head
  rw [List.append_nil, ← swapInput] at frame
  have even := words.even
  have long := words.long
  have whole : path.length / 2 * 2 = path.length := by omega
  have number := frame.number
  have content := frame.content_eq
  simp only [readPath, offset, bind, Except.bind, number, whole, content]
  rw [if_neg (by omega)]
  rfl

end Input

/-! ## The tokens of a path -/

section Path

variable {first last : Text} {fee : Option Nat}

theorem length_drop_of_isAddress {t : Text} (address : isAddress t = true) :
    (t.drop 2).length = 40 := by
  obtain ⟨body, rfl, length, -⟩ := isAddress_eq_true address
  exact length

theorem prefixed_drop_of_isAddress {t : Text} (address : isAddress t = true) :
    '0' :: 'x' :: t.drop 2 = t := by
  obtain ⟨body, rfl, -⟩ := isAddress_eq_true address
  rfl

theorem slice_packedPath (address : isAddress first = true) :
    '0' :: 'x' :: slice (packedPath first last fee) 0 40 = first := by
  have front : slice (packedPath first last fee) 0 40 = first.drop 2 := by
    rw [packedPath, List.append_assoc]
    exact @slice_append [] _ _ 0 40 rfl (by rw [length_drop_of_isAddress address])
  rw [front, prefixed_drop_of_isAddress address]

theorem drop_packedPath (address : isAddress last = true) :
    '0' :: 'x' :: (packedPath first last fee).drop ((packedPath first last fee).length - 40) =
      last := by
  have length := length_drop_of_isAddress address
  have back : (packedPath first last fee).drop ((packedPath first last fee).length - 40) =
      last.drop 2 := by
    rw [packedPath, List.length_append, length, Nat.add_sub_cancel, List.drop_left]
  rw [back, prefixed_drop_of_isAddress address]

theorem length_packedPath_ge (address : isAddress first = true) :
    40 ≤ (packedPath first last fee).length := by
  rw [packedPath, List.length_append, List.length_append, length_drop_of_isAddress address]
  omega

end Path

/-! ## Swaps -/

/-- A command byte with the input of a swap. -/
inductive Swap
  | exactIn (byte : Byte) (params : ExactInParams)
  | exactOut (byte : Byte) (params : ExactOutParams)

/-- A bigint that is a word. -/
def IsWord (value : Int) : Prop := 0 ≤ value ∧ value < 2 ^ 256

namespace Swap

def pair : Swap → Except JsError (Byte × Text)
  | exactIn byte params => do
      let input ← encodeExactInInput params
      .ok (byte, input)
  | exactOut byte params => do
      let input ← encodeExactOutInput params
      .ok (byte, input)

def tokenIn : Swap → Text
  | exactIn _ params => params.tokenIn
  | exactOut _ params => params.tokenIn

def tokenOut : Swap → Text
  | exactIn _ params => params.tokenOut
  | exactOut _ params => params.tokenOut

def recipient : Swap → Text
  | exactIn _ params => params.recipient
  | exactOut _ params => params.recipient

/-- The most that leaves: `amountIn`, or `amountInMaximum`. -/
def amount : Swap → Int
  | exactIn _ params => params.amountIn
  | exactOut _ params => params.amountInMaximum

/-- V2 and V3 swaps of addresses and words, with any flag bits. -/
def WellTyped : Swap → Prop
  | exactIn byte params => (commandOf byte = 0x00 ∨ commandOf byte = 0x08) ∧
      isAddress params.recipient = true ∧ isAddress params.tokenIn = true ∧
      isAddress params.tokenOut = true ∧ IsWord params.amountIn ∧
      IsWord (params.amountOutMin.getD 0)
  | exactOut byte params => (commandOf byte = 0x01 ∨ commandOf byte = 0x09) ∧
      isAddress params.recipient = true ∧ isAddress params.tokenIn = true ∧
      isAddress params.tokenOut = true ∧ IsWord params.amountOut ∧ IsWord params.amountInMaximum

theorem WellTyped.tokenOut {s : Swap} (typed : s.WellTyped) : isAddress s.tokenOut = true := by
  cases s with
  | exactIn byte params => exact typed.2.2.2.1
  | exactOut byte params => exact typed.2.2.2.1

end Swap

section Swaps

variable {recipient path input : Text} {first second : Int}

/-- What either encoder returns. -/
theorem swapWords_of_encoded (address : isAddress recipient = true) (firstWord : IsWord first)
    (secondWord : IsWord second) (long : 40 ≤ path.length)
    (encoded : (do
      let recipient ← bigInt recipient
      let element ← encodeBytes path
      .ok (bigWord recipient ++ bigWord first ++ bigWord second ++ word (5 * 32) ++ word 1 ++
        element)) = .ok input) (short : input.length < 2 ^ 256) :
    SwapWords (addressOf recipient).toNat first.toNat second.toNat path ∧
      input = swapInput (addressOf recipient).toNat first.toNat second.toNat path := by
  obtain ⟨v, rfl⟩ := Int.eq_ofNat_of_zero_le firstWord.1
  obtain ⟨w, rfl⟩ := Int.eq_ofNat_of_zero_le secondWord.1
  simp only [bigInt_of_isAddress address, bind_eq_ok_iff, encodeBytes_eq_ok_iff, Except.ok.injEq,
    exists_eq_left', bigWord_natCast] at encoded
  obtain ⟨_, ⟨even, rfl⟩, rfl⟩ := encoded
  have frame := length_frameText_ge path
  simp only [List.length_append] at short
  unfold frameLength at frame
  refine ⟨⟨(addressOf recipient).isLt, ?_, ?_, even, long, by omega⟩, rfl⟩
  · exact Int.ofNat_lt.mp firstWord.2
  · exact Int.ofNat_lt.mp secondWord.2

/-- The recipient word of a swap input. -/
theorem wordAsAddress_swapInput {recipient first second : Nat}
    (words : SwapWords recipient first second path) :
    wordAsAddress (swapInput recipient first second path) 0 =
      .ok (addressText (BitVec.ofNat 160 recipient)) := by
  rw [wordAsAddress, (wordAt_swapInput words).1]
  exact normalizeAddress_addressDigits words.recipient_lt

theorem wordAsAddress_swapInput_address {address : Address} {first second : Nat}
    (words : SwapWords address.toNat first second path) :
    wordAsAddress (swapInput address.toNat first second path) 0 = .ok (addressText address) := by
  rw [wordAsAddress_swapInput words, BitVec.ofNat_toNat, BitVec.setWidth_eq]

/-- One amount of an addressed currency. -/
theorem paid_of_isAddress {token : Text} {path : Except JsError (Option Text)} {index amount : Nat}
    (read : path = .ok (some (addressText (addressOf token))))
    (number : UniswapV4.wordAt input index = .ok amount) :
    paid path.toOption.join (amountWord input index) =
      some [(assetKey (addressOf token), (amount : Int))] := by
  rw [toOption_join_eq_some_iff.mpr read, amountWord_eq_some_iff.mpr ⟨amount, number, rfl⟩]
  exact paid_eq_some_iff.mpr ⟨_, _, _, rfl, canonicalAsset_addressText _, rfl, rfl⟩

section Tokens

variable {token other : Text} {fee : Option Nat}

theorem pathFirstToken_of_readPath (address : isAddress token = true)
    (read : readPath input 3 = some (packedPath token other fee)) :
    pathFirstToken input 3 = .ok (some (addressText (addressOf token))) := by
  simp only [pathFirstToken, read, slice_packedPath address, normalizeAddress_of_isAddress address,
    bind, Except.bind]

theorem pathLastToken_of_readPath (address : isAddress token = true)
    (read : readPath input 3 = some (packedPath other token fee)) :
    pathLastToken input 3 = .ok (some (addressText (addressOf token))) := by
  simp only [pathLastToken, read, drop_packedPath address, normalizeAddress_of_isAddress address,
    bind, Except.bind]

end Tokens

/-- A well-typed swap pays its amount of the token in, to its recipient. -/
theorem paidBy_of_pair {s : Swap} {pair : Byte × Text} (typed : s.WellTyped)
    (built : s.pair = .ok pair) (short : pair.2.length < 2 ^ 256) :
    paidBy pair = some [(assetKey (addressOf s.tokenIn), s.amount)] ∧
      recipientOf (commandOf pair.1) pair.2 = some (.ok (addressText (addressOf s.recipient))) := by
  cases s with
  | exactIn byte params =>
      obtain ⟨command, recipient, tokenIn, tokenOut, amountIn, amountOutMin⟩ := typed
      obtain ⟨input, encoded, same⟩ := bind_eq_ok_iff.mp built
      cases same
      obtain ⟨words, rfl⟩ := swapWords_of_encoded recipient amountIn amountOutMin
        (length_packedPath_ge tokenIn) encoded short
      have paysIn := paid_of_isAddress
        (pathFirstToken_of_readPath tokenIn (readPath_swapInput words)) (wordAt_swapInput words).2.1
      have names := wordAsAddress_swapInput_address words
      rw [Int.toNat_of_nonneg amountIn.1] at paysIn
      rcases command with command | command
      all_goals
        rw [paidBy, command]
        exact ⟨paysIn, congrArg some names⟩
  | exactOut byte params =>
      obtain ⟨command, recipient, tokenIn, tokenOut, amountOut, amountInMaximum⟩ := typed
      obtain ⟨input, encoded, same⟩ := bind_eq_ok_iff.mp built
      cases same
      obtain ⟨words, rfl⟩ := swapWords_of_encoded recipient amountOut amountInMaximum
        (length_packedPath_ge tokenOut) encoded short
      have paysMaximum := paid_of_isAddress
        (pathLastToken_of_readPath tokenIn (readPath_swapInput words))
        (wordAt_swapInput words).2.2.1
      have names := wordAsAddress_swapInput_address words
      rw [Int.toNat_of_nonneg amountInMaximum.1] at paysMaximum
      rcases command with command | command
      all_goals
        rw [paidBy, command]
        exact ⟨paysMaximum, congrArg some names⟩

end Swaps

/-! ## Streams of swaps -/

section Streams

variable {action : Action} {ctx : DecoderContext} {pairs : List (Byte × Text)} {swaps : List Swap}

theorem length_le_of_encodable {pair : Byte × Text} (encodable : Encodable pairs)
    (mem : pair ∈ pairs) : pair.2.length < 2 ^ 256 := by
  have short := (encodable.single mem).2
  simp only [argumentsSize, List.map_cons, List.map_nil, List.sum_cons, List.sum_nil, frameLength,
    MAX_LENGTH] at short
  omega

/-- The key of the token a swap pays with. -/
def Swap.currency (s : Swap) : Text := assetKey (addressOf s.tokenIn)

/-- Well-typed swaps are read, and pay their amounts. -/
theorem reads_of_swaps (typed : ∀ s ∈ swaps, s.WellTyped) (built : swaps.mapM Swap.pair = .ok pairs)
    (short : ∀ pair ∈ pairs, pair.2.length < 2 ^ 256) :
    (∀ pair ∈ pairs, paidBy pair ≠ none) ∧
      (∀ named ∈ recipientsNamed pairs, ∃ recipient, named = .ok recipient) ∧
      ∀ key, (pairs.map (amountPaid key)).sum =
        total (swaps.map fun s => (s.currency, s.amount)) key := by
  induction swaps generalizing pairs with
  | nil =>
      cases built
      exact ⟨by simp, by simp [recipientsNamed], fun _ => rfl⟩
  | cons s rest ih =>
      simp only [List.mapM_cons, bind_eq_ok_iff, pure, Except.pure, Except.ok.injEq] at built
      obtain ⟨pair, first, later, others, rfl⟩ := built
      obtain ⟨typed_first, typed_later⟩ := List.forall_mem_cons.mp typed
      obtain ⟨short_first, short_later⟩ := List.forall_mem_cons.mp short
      obtain ⟨pays, names⟩ := paidBy_of_pair typed_first first short_first
      obtain ⟨readable, alike, sums⟩ := ih typed_later others short_later
      refine ⟨List.forall_mem_cons.mpr ⟨?_, readable⟩, ?_, fun key => ?_⟩
      · rw [pays]
        exact Option.some_ne_none _
      · intro named mem
        rw [recipientsNamed, List.flatMap_cons, names] at mem
        rcases List.mem_cons.mp mem with rfl | mem
        · exact ⟨_, rfl⟩
        · exact alike named mem
      · rw [List.map_cons, List.sum_cons, sums, List.map_cons, total_cons, amountPaid, pays,
          Option.getD_some, total_cons, total_nil, add_zero]
        rfl

/-- A stream means what its pairs mean exactly when one of them cannot be read at all, or their
recipient words are alike.  Of built swaps the notional is what they pay in the tracked asset. -/
theorem stream_compositional (router : isAddress action.toAddress = true)
    (tracked : isAddress ctx.trackedAsset = true) :
    (∀ pairs data, encodePairs pairs = .ok data →
      (Compositional action ctx pairs ↔
        (∃ pair ∈ pairs, paidBy pair = none) ∨ RecipientsAlike pairs)) ∧
    ∀ (swaps : List Swap) pairs data, (∀ s ∈ swaps, s.WellTyped) → swaps.mapM Swap.pair = .ok pairs →
      encodePairs pairs = .ok data →
        ∃ intent, intentOf action ctx pairs = .ok (some intent) ∧ intent.kind = .swap ∧
          intent.notionalUSDC = ((swaps.filter fun s =>
            s.currency = assetKey (addressOf ctx.trackedAsset)).map Swap.amount).sum := by
  constructor
  · intro pairs data built
    exact compositional_iff router tracked (encodable_iff.mpr ⟨data, built⟩)
  · intro swaps pairs data typed pairs_built built
    have encodable := encodable_iff.mpr ⟨data, built⟩
    obtain ⟨readable, alike, sums⟩ := reads_of_swaps typed pairs_built
      fun pair mem => length_le_of_encodable encodable mem
    have reads : Reads pairs :=
      ⟨readable, fun named first => alike named (List.mem_of_mem_head? first)⟩
    obtain ⟨intent, decoded, kind, notional, -⟩ := intentOf_of_reads router tracked encodable reads
    refine ⟨intent, decoded, kind, ?_⟩
    rw [notional, sums, total_map]

end Streams

/-! ### Two transfers and a swap -/

def sampleRouterCall : Action where
  toAddress := addressText 0x77
  data := []
  value := 0

/-- A transfer of 1 whose recipient word is `recipient`. -/
def sampleTransfer (recipient : Nat) : Byte × Text :=
  (0x05, [0x11, recipient, 1].flatMap wordText)

/-- An exact-input swap of 7, with the flag that lets it fail. -/
def sampleSwap : Swap :=
  .exactIn 0x80 ⟨addressText 0x22, 7, none, addressText 0x11, addressText 0x33, none⟩

theorem stream_compositional_sample :
    Compositional sampleRouterCall sampleContext [sampleTransfer 0x22, sampleTransfer 0x33] ∧
      ∃ pairs intent, [sampleSwap].mapM Swap.pair = .ok pairs ∧
        intentOf sampleRouterCall sampleContext pairs = .ok (some intent) ∧
        intent.notionalUSDC = 7 := by
  have router : isAddress sampleRouterCall.toAddress = true := isAddress_addressText _
  have tracked : isAddress sampleContext.trackedAsset = true := isAddress_addressText _
  obtain ⟨compositional, notional⟩ := stream_compositional router tracked
  constructor
  · obtain ⟨data, built⟩ : ∃ data, encodePairs [sampleTransfer 0x22, sampleTransfer 0x33] =
        .ok data := encodable_iff.mp (by decide +kernel)
    have named : recipientsNamed [sampleTransfer 0x22, sampleTransfer 0x33] =
        [.ok (addressText 0x22), .ok (addressText 0x33)] := by decide +kernel
    refine (compositional _ data built).mpr (.inr (.inl ?_))
    rw [named]
    simp
  · have encoded : encodeExactInInput
        ⟨addressText 0x22, 7, none, addressText 0x11, addressText 0x33, none⟩ =
          .ok (swapInput 0x22 7 0 (packedPath (addressText 0x11) (addressText 0x33) none)) := by
      decide +kernel
    have pair_built : [sampleSwap].mapM Swap.pair = .ok
        [(0x80, swapInput 0x22 7 0 (packedPath (addressText 0x11) (addressText 0x33) none))] := by
      simp only [List.mapM_cons, List.mapM_nil, sampleSwap, Swap.pair, encoded]
      rfl
    have typed : ∀ s ∈ [sampleSwap], s.WellTyped := by
      intro s mem
      rw [List.mem_singleton.mp mem]
      exact ⟨.inl (by decide), isAddress_addressText _, isAddress_addressText _,
        isAddress_addressText _, ⟨by decide, by decide⟩, ⟨by decide, by decide⟩⟩
    obtain ⟨data, built⟩ := encodable_iff.mp (show Encodable
      [(0x80, swapInput 0x22 7 0 (packedPath (addressText 0x11) (addressText 0x33) none))] by
        decide +kernel)
    obtain ⟨intent, decoded, -, paid⟩ := notional _ _ data typed pair_built built
    have sum : (([sampleSwap].filter fun s =>
        s.currency = assetKey (addressOf sampleContext.trackedAsset)).map Swap.amount).sum = 7 := by
      decide +kernel
    exact ⟨_, intent, pair_built, decoded, paid.trans sum⟩

/-- Behind a transfer to an address the word that is none is not read. -/
theorem not_compositional_transfers :
    (∃ data, encodePairs [sampleTransfer 0x22, sampleTransfer (2 ^ 160)] = .ok data) ∧
      Undecodable sampleRouterCall sampleContext (sampleTransfer (2 ^ 160)) ∧
      (∃ intent, intentOf sampleRouterCall sampleContext
        [sampleTransfer 0x22, sampleTransfer (2 ^ 160)] = .ok (some intent) ∧
        intent.kind = .swap) ∧
      ¬ Compositional sampleRouterCall sampleContext
        [sampleTransfer 0x22, sampleTransfer (2 ^ 160)] := by
  have router : isAddress sampleRouterCall.toAddress = true := isAddress_addressText _
  have tracked : isAddress sampleContext.trackedAsset = true := isAddress_addressText _
  have encodable : Encodable [sampleTransfer 0x22, sampleTransfer (2 ^ 160)] := by decide +kernel
  have dirty : recipientOf (commandOf (sampleTransfer (2 ^ 160)).1) (sampleTransfer (2 ^ 160)).2 =
      some (thrown ("Not an address: ".toList ++ addressDigits (2 ^ 160))) := by decide +kernel
  have undecodable : Undecodable sampleRouterCall sampleContext (sampleTransfer (2 ^ 160)) := by
    refine (intentOf_kind_iff router tracked (encodable.single (by simp))).mpr fun reads => ?_
    obtain ⟨recipient, read⟩ := reads.2 _ (head_recipientsNamed dirty [])
    cases read
  have reads : Reads [sampleTransfer 0x22, sampleTransfer (2 ^ 160)] := by
    have clean : recipientOf (commandOf (sampleTransfer 0x22).1) (sampleTransfer 0x22).2 =
        some (.ok (addressText 0x22)) := by decide +kernel
    refine ⟨by decide +kernel, fun named first => ⟨addressText 0x22, ?_⟩⟩
    have head := head_recipientsNamed clean [sampleTransfer (2 ^ 160)]
    exact Option.some.inj (first.symm.trans head)
  obtain ⟨intent, decoded, swap, -⟩ := intentOf_of_reads router tracked encodable reads
  refine ⟨encodable_iff.mp encodable, undecodable, ⟨intent, decoded, swap⟩, fun compositional => ?_⟩
  obtain ⟨unbounded, decodes, unknown, -⟩ :=
    compositional.unbounded ⟨_, by simp, undecodable⟩ _ (List.Perm.refl _)
  rw [decoded] at decodes
  cases decodes
  rw [swap] at unknown
  cases unknown

end Calldata

end Sdk

end AgentProof
