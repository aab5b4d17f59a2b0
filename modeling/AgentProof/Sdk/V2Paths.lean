import AgentProof.Sdk.Compositional
import AgentProof.Sdk.Readings
import AgentProof.Sdk.V4Params

/-!
# The paths of V2 swaps

The path of a V2 swap is an array of addresses, a word each; the decoder reads
its count as a number of bytes and takes twenty of the bytes behind it for the
token paid.  Paths shorter than twenty hops have too few bytes and are refused;
longer ones are read as a token that stands nowhere in the path.
-/

namespace AgentProof

open Js

/-! ## The router's encoding -/

/-- The arguments of the two V2 swaps: `first` is `amountIn` or `amountOut`,
`second` is `amountOutMin` or `amountInMax`, and the path starts at the token
paid. -/
structure V2Swap where
  recipient : Address
  first : Uint256
  second : Uint256
  path : List Address
  payerIsUser : Bool

/-- The elements of a path, a word each. -/
def hopBytes (path : List Address) : Bytes := encodeWords (path.map (BitVec.setWidth 256))

namespace V2Swap

/-- Where the head of an input says its path stands. -/
def pathAt (input : Bytes) : Nat := (wordAt input 96).toNat

/-- The input carries the arguments: a head of five words, and the path at the
offset the fourth of them gives. -/
structure Encodes (s : V2Swap) (input : Bytes) : Prop where
  head : 160 ≤ input.length
  recipient : wordAt input 0 = s.recipient.setWidth 256
  first : wordAt input 32 = s.first
  second : wordAt input 64 = s.second
  payerIsUser : wordAt input 128 = if s.payerIsUser then 1 else 0
  count : (wordAt input (pathAt input)).toNat = s.path.length
  inside : pathAt input + 32 + 32 * s.path.length ≤ input.length
  hops : (input.drop (pathAt input + 32)).take (32 * s.path.length) = hopBytes s.path

/-- The encoding with the path right behind the head. -/
def encode (s : V2Swap) : Bytes :=
  encodeWords [s.recipient.setWidth 256, s.first, s.second, 160, if s.payerIsUser then 1 else 0,
    BitVec.ofNat 256 s.path.length] ++ hopBytes s.path

theorem encodes_encode (s : V2Swap) (fits : s.path.length < 2 ^ 256) : s.Encodes s.encode := by
  have hops : (hopBytes s.path).length = 32 * s.path.length := by
    rw [hopBytes, length_encodeWords, List.length_map]
  have size : s.encode.length = 192 + 32 * s.path.length := by
    rw [encode, List.length_append, length_encodeWords, hops]
    rfl
  have pathAt_eq : pathAt s.encode = 160 := by
    rw [pathAt, encode, @wordAt_encodeWords _ 3 _ rfl]
    rfl
  refine ⟨by omega, @wordAt_encodeWords _ 0 _ rfl _, @wordAt_encodeWords _ 1 _ rfl _,
    @wordAt_encodeWords _ 2 _ rfl _, @wordAt_encodeWords _ 4 _ rfl _, ?_, by omega, ?_⟩
  · rw [pathAt_eq, encode, @wordAt_encodeWords _ 5 _ rfl, BitVec.toNat_ofNat, Nat.mod_eq_of_lt fits]
  · rw [pathAt_eq, encode, List.drop_left' (by rw [length_encodeWords]; rfl), ← hops,
      List.take_length]

end V2Swap

/-- The address twenty bytes denote. -/
def addressOfBytes (bs : Bytes) : Address := BitVec.ofNat 160 bs.toNat

/-- The first twenty of the bytes behind the count. -/
def firstTwenty (path : List Address) : Address := addressOfBytes ((hopBytes path).take 20)

/-- The last twenty of as many bytes as the path has hops. -/
def lastTwenty (path : List Address) : Address :=
  addressOfBytes (((hopBytes path).take path.length).drop (path.length - 20))

/-- Twelve bytes of padding and the high eight of the first hop. -/
theorem toNat_firstTwenty (a : Address) (rest : List Address) :
    (firstTwenty (a :: rest)).toNat = a.toNat / 2 ^ 96 := by
  have small : a.toNat < 2 ^ 160 := a.isLt
  have fits : a.toNat < 256 ^ 32 := lt_of_lt_of_le small (by norm_num)
  set front := (wordBytes (a.setWidth 256)).take 20 with front_eq
  set back := (wordBytes (a.setWidth 256)).drop 20 with back_eq
  have cut : (hopBytes (a :: rest)).take 20 = front := by
    rw [hopBytes, List.map_cons, encodeWords, List.flatMap_cons,
      List.take_append_of_le_length (by rw [length_wordBytes]; norm_num)]
  have twelve : back.length = 12 := by
    rw [back_eq, List.length_drop, length_wordBytes]
  have number : Bytes.toNat front * 256 ^ 12 + Bytes.toNat back = a.toNat := by
    rw [← twelve, ← Bytes.toNat_append, List.take_append_drop, wordBytes, Bytes.toNat_ofNat,
      BitVec.toNat_setWidth, Nat.mod_eq_of_lt (lt_of_lt_of_le small (by norm_num)),
      Nat.mod_eq_of_lt fits]
  have low : Bytes.toNat back < 256 ^ 12 := by
    rw [← twelve]
    exact Bytes.toNat_lt back
  rw [firstTwenty, addressOfBytes, cut, BitVec.toNat_ofNat]
  omega

namespace Sdk

/-- Twenty bytes are an address. -/
theorem normalizeAddress_bytesToHex {bs : Bytes} (twenty : bs.length = 20) :
    normalizeAddress (bytesToHex bs) = .ok (addressText (addressOfBytes bs)) := by
  have fits : bs.toNat < 2 ^ 160 := by
    have bound := Bytes.toNat_lt bs
    rwa [twenty] at bound
  have text : bytesToHex bs = addressText (addressOfBytes bs) := by
    rw [addressText, addressOfBytes, BitVec.toNat_ofNat, Nat.mod_eq_of_lt fits, ← twenty,
      Bytes.ofNat_toNat]
  rw [text, normalizeAddress_addressText]

namespace UniswapV4

/-! ## The decoder's reading -/

/-- The two V2 swaps. -/
inductive V2Command
  | exactIn
  | exactOut
  deriving DecidableEq, Repr

namespace V2Command

def code : V2Command → Nat
  | exactIn => 0x08
  | exactOut => 0x09

/-- The most the swap may take: `amountIn` or `amountInMax`. -/
def most : V2Command → V2Swap → Uint256
  | exactIn, s => s.first
  | exactOut, s => s.second

/-- The address the decoder takes for the token paid. -/
def token : V2Command → List Address → Address
  | exactIn, path => firstTwenty path
  | exactOut, path => lastTwenty path

end V2Command

section Reads

variable {s : V2Swap} {input : Bytes}

/-- As many bytes of the hops as there are hops, when that is enough for an address. -/
theorem readPath_of_encodes (encodes : s.Encodes input) :
    readPath (hexText input) 3 = if s.path.length < 20 then none
      else some (hexText ((hopBytes s.path).take s.path.length)) := by
  have inside := encodes.inside
  have hops := encodes.hops
  set p := V2Swap.pathAt input with at_p
  have offset : wordAt (hexText input) 3 = .ok p :=
    wordAt_hexText (show 32 * 3 + 32 ≤ input.length by have head := encodes.head; omega)
  have count : bigIntHex (slice (hexText input) (p * 2) (p * 2 + 64)) = .ok s.path.length := by
    rw [@bigIntHex_slice input p _ _ (by omega) (by omega) (by omega), encodes.count]
  have taken : (input.drop (p + 32)).take s.path.length =
      (hopBytes s.path).take s.path.length := by
    rw [← hops, List.take_take, Nat.min_eq_left (by omega)]
  have bytes : slice (hexText input) (p * 2 + 64) (p * 2 + 64 + s.path.length * 2) =
      hexText ((hopBytes s.path).take s.path.length) := by
    have cut := slice_hexText input (p + 32) (p + 32 + s.path.length)
    rw [Nat.add_sub_cancel_left, taken] at cut
    rw [← cut, show p * 2 + 64 = 2 * (p + 32) by omega,
      show 2 * (p + 32) + s.path.length * 2 = 2 * (p + 32 + s.path.length) by omega]
  have length : (hexText ((hopBytes s.path).take s.path.length)).length = s.path.length * 2 := by
    rw [length_hexText, List.length_take, hopBytes, length_encodeWords, List.length_map,
      Nat.min_eq_left (by omega), Nat.mul_comm]
  simp only [readPath, offset, count, bytes, length, bind, Except.bind, ne_eq, not_true_eq_false,
    false_or]
  split_ifs <;> rfl

theorem length_take_hopBytes (path : List Address) :
    ((hopBytes path).take path.length).length = path.length := by
  rw [List.length_take, hopBytes, length_encodeWords, List.length_map, Nat.min_eq_left (by omega)]

theorem pathFirstToken_of_encodes (encodes : s.Encodes input) (long : ¬ s.path.length < 20) :
    pathFirstToken (hexText input) 3 = .ok (some (addressText (firstTwenty s.path))) := by
  have read := readPath_of_encodes encodes
  have whole := length_take_hopBytes s.path
  have front : '0' :: 'x' :: slice (hexText ((hopBytes s.path).take s.path.length)) 0 40 =
      bytesToHex ((hopBytes s.path).take 20) := by
    have cut := slice_hexText ((hopBytes s.path).take s.path.length) 0 20
    rw [List.drop_zero, List.take_take, Nat.min_eq_left (by omega)] at cut
    rw [bytesToHex, ← cut]
  have twenty : ((hopBytes s.path).take 20).length = 20 := by
    rw [List.length_take] at whole ⊢
    omega
  rw [if_neg long] at read
  simp only [pathFirstToken, read, front, normalizeAddress_bytesToHex twenty, bind, Except.bind,
    firstTwenty]

theorem pathLastToken_of_encodes (encodes : s.Encodes input) (long : ¬ s.path.length < 20) :
    pathLastToken (hexText input) 3 = .ok (some (addressText (lastTwenty s.path))) := by
  have read := readPath_of_encodes encodes
  have whole := length_take_hopBytes s.path
  have back : '0' :: 'x' :: (hexText ((hopBytes s.path).take s.path.length)).drop
      ((hexText ((hopBytes s.path).take s.path.length)).length - 40) =
        bytesToHex (((hopBytes s.path).take s.path.length).drop (s.path.length - 20)) := by
    rw [length_hexText, whole, bytesToHex, ← drop_hexText,
      show 2 * s.path.length - 40 = 2 * (s.path.length - 20) by omega]
  have twenty : (((hopBytes s.path).take s.path.length).drop (s.path.length - 20)).length = 20 := by
    rw [List.length_drop, whole]
    omega
  rw [if_neg long] at read
  simp only [pathLastToken, read, back, normalizeAddress_bytesToHex twenty, bind, Except.bind,
    lastTwenty]

theorem amountWord_hexText {index : Nat} (inside : 32 * index + 32 ≤ input.length) :
    amountWord (hexText input) index = some (AgentProof.wordAt input (32 * index)).toNat :=
  amountWord_eq_some_iff.mpr ⟨_, wordAt_hexText inside, rfl⟩

theorem payments_of_encodes (kind : V2Command) (encodes : s.Encodes input) :
    payments kind.code (hexText input) = if s.path.length < 20 then none
      else some [(assetKey (kind.token s.path), ((kind.most s).toNat : Int))] := by
  have head := encodes.head
  have read := readPath_of_encodes encodes
  by_cases short : s.path.length < 20
  · rw [if_pos short] at read ⊢
    cases kind with
    | exactIn =>
        simp only [V2Command.code, payments, pathFirstToken, read]
        rfl
    | exactOut =>
        simp only [V2Command.code, payments, pathLastToken, read]
        rfl
  · rw [if_neg short]
    cases kind with
    | exactIn =>
        have first := @amountWord_hexText input 1 (by omega)
        rw [encodes.first] at first
        rw [V2Command.code, payments, pathFirstToken_of_encodes encodes short, first]
        exact paid_eq_some_iff.mpr ⟨_, _, _, rfl, canonicalAsset_addressText _, rfl, rfl⟩
    | exactOut =>
        have second := @amountWord_hexText input 2 (by omega)
        rw [encodes.second] at second
        rw [V2Command.code, payments, pathLastToken_of_encodes encodes short, second]
        exact paid_eq_some_iff.mpr ⟨_, _, _, rfl, canonicalAsset_addressText _, rfl, rfl⟩

theorem recipientOf_of_encodes (kind : V2Command) (encodes : s.Encodes input) :
    recipientOf kind.code (hexText input) = some (.ok (addressText s.recipient)) := by
  have head := encodes.head
  have small : s.recipient.toNat < 2 ^ 160 := s.recipient.isLt
  have word : wordAsAddress (hexText input) 0 = .ok (addressText s.recipient) := by
    rw [wordAsAddress, @wordAt_hexText input 0 (by omega), Nat.mul_zero, encodes.recipient,
      BitVec.toNat_setWidth, Nat.mod_eq_of_lt (small.trans (by norm_num))]
    refine (normalizeAddress_addressDigits small).trans ?_
    rw [BitVec.ofNat_toNat, BitVec.setWidth_eq]
  cases kind with
  | exactIn => rw [V2Command.code, recipientOf, word]
  | exactOut => rw [V2Command.code, recipientOf, word]

end Reads

/-! ## Streams of one swap -/

/-- Calldata of a router call whose stream is one command: the byte and its
input stand in it at the offsets its words give. -/
structure Carries (data : Text) (byte : Byte) (input : Bytes) : Prop where
  selector : selectorOf data ∈ uniswapV4Decoder.selectors
  written : ∃ calldata, data = bytesToHex calldata ∧
    Abi.Layout (calldata.drop 4) [byte] [input] ∧
    Abi.elementOffset (calldata.drop 4) (AgentProof.wordAt (calldata.drop 4) 32).toNat 0 <
      (calldata.drop 4).length ∧
    (selectorOf data = SELECTOR_EXECUTE → 96 ≤ (calldata.drop 4).length)

theorem readCommandStream_of_carries {data : Text} {byte : Byte} {input : Bytes}
    (carries : Carries data byte input) :
    readCommandStream data (selectorOf data = SELECTOR_EXECUTE) =
      .ok ⟨commandsOf [byte], [hexText input]⟩ := by
  obtain ⟨selector, calldata, rfl, layout, near, deadline⟩ := carries
  have four : 4 ≤ calldata.length := by
    have head := layout.head
    rw [List.length_drop] at head
    omega
  obtain ⟨front, ten, text⟩ := bytesToHex_eq four
  have head : HeadAt (hexText (calldata.drop 4))
      (selectorOf (bytesToHex calldata) = SELECTOR_EXECUTE) [byte]
      (AgentProof.wordAt (calldata.drop 4) 32).toNat [hexText input].length :=
    headAt_of_layout layout fun asked => deadline (of_decide_eq_true asked)
  have elements : ∀ k content, [hexText input][k]? = some content →
      ElementAt (hexText (calldata.drop 4)) (AgentProof.wordAt (calldata.drop 4) 32).toNat k
        content := by
    intro k content at_k
    cases k with
    | succ k => simp at at_k
    | zero =>
        cases at_k
        rcases layout.elements 0 input rfl with far | frame
        · exact absurd near (not_lt.mpr far)
        · exact ⟨_, distanceAt_of_layout layout Nat.one_pos, frameAt_hexText frame⟩
  have stream := readCommandStream_of_elements ten head elements rfl
  rwa [← text] at stream

section Covered

variable {action : Action} {ctx : DecoderContext} {kind : V2Command} {s : V2Swap} {byte : Byte}
  {input : Bytes}

/-- The decoder gives up the bound, or gives a swap whose notional covers the amount. -/
def Covered (action : Action) (ctx : DecoderContext) (amount : Uint256) : Prop :=
  ∃ intent, uniswapV4Decoder.decode action ctx = .ok (some intent) ∧
    (UnboundedIntent action ctx intent ∨
      intent.kind = .swap ∧ (amount.toNat : Int) ≤ intent.notionalUSDC)

theorem paidBy_of_encodes (command : commandOf byte = kind.code) (encodes : s.Encodes input) :
    paidBy (byte, hexText input) = if s.path.length < 20 then none
      else some [(assetKey (kind.token s.path), ((kind.most s).toNat : Int))] := by
  rw [paidBy, command, payments_of_encodes kind encodes]

theorem zip_singleton : (commandsOf [byte]).zip [hexText input] =
    streamOfPairs [(byte, hexText input)] := rfl

/-- A path of less than twenty hops leaves the stream unbounded. -/
theorem covered_of_short (router : isAddress action.toAddress = true)
    (command : commandOf byte = kind.code) (encodes : s.Encodes input)
    (carries : Carries action.data byte input) (short : s.path.length < 20) (amount : Uint256) :
    Covered action ctx amount := by
  have unread : ¬ Reads [(byte, hexText input)] := by
    intro reads
    have pays := reads.1 _ List.mem_cons_self
    rw [paidBy_of_encodes command encodes, if_pos short] at pays
    exact pays rfl
  obtain ⟨why, refused⟩ := readCommands_of_not_reads unread
  have stream := readCommandStream_of_carries carries
  have normal := normalizeAddress_of_isAddress router
  refine ⟨unboundedSwap action (addressText (addressOf action.toAddress))
    (selectorOf action.data) ctx.trackedAsset why, ?_, .inl ⟨rfl, normal, rfl, rfl, rfl, rfl⟩⟩
  change UniswapV4.decode action ctx = _
  simp only [UniswapV4.decode, normal, stream, zip_singleton, refused, bind, Except.bind]

/-- A longer one is a swap of the token its bytes happen to spell. -/
theorem decode_of_long (router : isAddress action.toAddress = true)
    (tracked : isAddress ctx.trackedAsset = true) (command : commandOf byte = kind.code)
    (encodes : s.Encodes input) (carries : Carries action.data byte input)
    (long : ¬ s.path.length < 20) :
    ∃ intent, uniswapV4Decoder.decode action ctx = .ok (some intent) ∧ intent.kind = .swap ∧
      intent.notionalUSDC =
        if assetKey (kind.token s.path) = assetKey (addressOf ctx.trackedAsset)
          then ((kind.most s).toNat : Int) else 0 := by
  have pays := paidBy_of_encodes command encodes
  rw [if_neg long] at pays
  have reads : Reads [(byte, hexText input)] := by
    constructor
    · intro pair mem
      rw [List.mem_singleton.mp mem, pays]
      exact Option.some_ne_none _
    · intro named first
      have names : recipientOf (commandOf byte) (hexText input) =
          some (.ok (addressText s.recipient)) := by
        rw [command, recipientOf_of_encodes kind encodes]
      rw [recipientsNamed, List.flatMap_singleton, names] at first
      cases first
      exact ⟨_, rfl⟩
  obtain ⟨g, gathered, nonneg, sums⟩ := readCommands_of_reads reads
  have stream := readCommandStream_of_carries carries
  have normal := normalizeAddress_of_isAddress router
  obtain ⟨intent, built, swap, notional, -⟩ := @swapIntent_spec action ctx
    (addressText (addressOf action.toAddress)) (selectorOf action.data) g tracked nonneg
  refine ⟨intent, ?_, swap, ?_⟩
  · change UniswapV4.decode action ctx = _
    simp only [UniswapV4.decode, normal, stream, zip_singleton, gathered, built, bind, Except.bind]
  · rw [notional, sums, List.map_singleton, List.sum_singleton, amountPaid, pays,
      Option.getD_some, KeyedSum.total_cons, KeyedSum.total_nil, add_zero]

theorem covered_iff (router : isAddress action.toAddress = true)
    (tracked : isAddress ctx.trackedAsset = true) (command : commandOf byte = kind.code)
    (encodes : s.Encodes input) (carries : Carries action.data byte input) :
    Covered action ctx (kind.most s) ↔ s.path.length < 20 ∨ kind.most s = 0 ∨
      assetKey (kind.token s.path) = assetKey (addressOf ctx.trackedAsset) := by
  by_cases short : s.path.length < 20
  · exact iff_of_true (covered_of_short router command encodes carries short _) (.inl short)
  · obtain ⟨intent, decoded, swap, notional⟩ :=
      decode_of_long router tracked command encodes carries short
    constructor
    · rintro ⟨intent', decoded', unbounded | ⟨-, covers⟩⟩
      · rw [decoded] at decoded'
        cases decoded'
        have unknown := unbounded.kind
        rw [swap] at unknown
        cases unknown
      · rw [decoded] at decoded'
        cases decoded'
        rw [notional] at covers
        by_cases same : assetKey (kind.token s.path) = assetKey (addressOf ctx.trackedAsset)
        · exact .inr (.inr same)
        · rw [if_neg same] at covers
          exact .inr (.inl (BitVec.eq_of_toNat_eq (by simpa using covers)))
    · intro holds
      refine ⟨intent, decoded, .inr ⟨swap, ?_⟩⟩
      rw [notional]
      rcases holds with few | zero | same
      · exact absurd few short
      · rw [zero]
        split_ifs <;> simp
      · rw [if_pos same]

/-- The high bytes of a hop spell its asset for the zero address only. -/
theorem assetKey_firstTwenty_iff (a : Address) (rest : List Address) :
    assetKey (firstTwenty (a :: rest)) = assetKey a ↔ a = 0 := by
  have high := toNat_firstTwenty a rest
  rw [assetKey_eq_iff]
  constructor
  · rintro (same | ⟨spelled, rfl | rfl⟩)
    · rw [same] at high
      have zero : a.toNat = 0 := by omega
      exact BitVec.eq_of_toNat_eq zero
    · rfl
    · have number : nativeSentinel.toNat / 2 ^ 96 = 0xEEEEEEEEEEEEEEEE := by decide +kernel
      rw [number] at high
      rcases spelled with zero | sentinel
      · rw [zero] at high
        cases high
      · rw [sentinel] at high
        exact absurd high (by decide +kernel)
  · rintro rfl
    refine .inl (BitVec.eq_of_toNat_eq ?_)
    rw [high]
    rfl

/-- The amount is covered where the path is too short to be read, where it is zero, and where the
bytes taken for the token paid spell the tracked asset: in the first hop, none but the zero
address; in an exact-output swap, the twenty bytes before as many as there are hops. -/
theorem v2_covered_iff (router : isAddress action.toAddress = true)
    (tracked : isAddress ctx.trackedAsset = true) (encodes : s.Encodes input)
    (carries : Carries action.data byte input)
    (pays : s.path.head? = some (addressOf ctx.trackedAsset)) :
    (commandOf byte = 0x08 → (Covered action ctx s.first ↔
      s.path.length < 20 ∨ s.first = 0 ∨ addressOf ctx.trackedAsset = 0)) ∧
    (commandOf byte = 0x09 → (Covered action ctx s.second ↔
      s.path.length < 20 ∨ s.second = 0 ∨ lastTwenty s.path = addressOf ctx.trackedAsset ∨
        IsNative (lastTwenty s.path) ∧ IsNative (addressOf ctx.trackedAsset))) := by
  constructor
  · intro command
    obtain ⟨rest, path⟩ : ∃ rest, s.path = addressOf ctx.trackedAsset :: rest :=
      List.head?_eq_some_iff.mp pays
    have covers := @covered_iff _ _ .exactIn _ _ _ router tracked command encodes carries
    rw [V2Command.most, V2Command.token, path, assetKey_firstTwenty_iff, ← path] at covers
    exact covers
  · intro command
    have covers := @covered_iff _ _ .exactOut _ _ _ router tracked command encodes carries
    rw [V2Command.most, V2Command.token, assetKey_eq_iff] at covers
    exact covers

end Covered

/-! ### Twenty hops -/

/-- At most 5 of token `0x11`, over twenty hops of that token. -/
def sampleHops : V2Swap where
  recipient := 0x22
  first := 5
  second := 5
  path := List.replicate 20 0x11
  payerIsUser := true

/-- The router call of one exact-input swap, whose input fills whole words. -/
def sampleCalldata (input : Bytes) : Bytes :=
  [0x24, 0x85, 0x6b, 0xc3] ++ encodeWords [0x40, 0x80, 1] ++ (0x08 :: List.replicate 31 0) ++
    encodeWords [1, 0x20, BitVec.ofNat 256 input.length] ++ input

def sampleHopsCall : Action where
  toAddress := addressText 0x77
  data := bytesToHex (sampleCalldata sampleHops.encode)
  value := 0

theorem router_sampleHopsCall : isAddress sampleHopsCall.toAddress = true :=
  isAddress_addressText 0x77

theorem tracked_sampleContext : isAddress sampleContext.trackedAsset = true :=
  isAddress_addressText 0x11

theorem encodes_sampleHops : sampleHops.Encodes sampleHops.encode :=
  sampleHops.encodes_encode (by decide)

theorem carries_sampleHopsCall : Carries sampleHopsCall.data 0x08 sampleHops.encode := by
  refine ⟨by decide +kernel, _, rfl, ⟨by decide +kernel, ?_, by decide +kernel, by decide +kernel,
    ?_⟩, by decide +kernel, by decide +kernel⟩
  · exact ⟨by decide +kernel, by decide +kernel, by decide +kernel⟩
  · intro i content at_i
    cases i with
    | zero =>
        cases at_i
        exact .inr ⟨by decide +kernel, by decide +kernel, by decide +kernel⟩
    | succ i => simp at at_i

theorem v2_covered_sampleHops : ¬ Covered sampleHopsCall sampleContext 5 := by
  intro covered
  have holds := ((v2_covered_iff router_sampleHopsCall tracked_sampleContext encodes_sampleHops
    carries_sampleHopsCall (by decide +kernel)).1 (by decide)).mp covered
  revert holds
  decide +kernel

/-- The swap of 5 is read as a swap of nothing. -/
theorem v2_not_covered_sampleHops :
    (∃ intent, uniswapV4Decoder.decode sampleHopsCall sampleContext = .ok (some intent) ∧
      intent.kind = .swap ∧ intent.notionalUSDC = 0) ∧
    ¬ ∀ (action : Action) (ctx : DecoderContext) (s : V2Swap) (byte : Byte) (input : Bytes),
      isAddress action.toAddress = true → isAddress ctx.trackedAsset = true →
        s.Encodes input → Carries action.data byte input → 2 ≤ s.path.length →
        s.path.head? = some (addressOf ctx.trackedAsset) →
          (commandOf byte = 0x08 → Covered action ctx s.first) ∧
            (commandOf byte = 0x09 → Covered action ctx s.second) := by
  have command : commandOf 0x08 = V2Command.exactIn.code := by decide
  obtain ⟨intent, decoded, swap, notional⟩ := @decode_of_long _ _ .exactIn _ _ _
    router_sampleHopsCall tracked_sampleContext command encodes_sampleHops carries_sampleHopsCall
    (by decide)
  have other : ¬ assetKey (V2Command.exactIn.token sampleHops.path) =
      assetKey (addressOf sampleContext.trackedAsset) := by decide +kernel
  rw [if_neg other] at notional
  refine ⟨⟨intent, decoded, swap, notional⟩, fun always => ?_⟩
  obtain ⟨intent', decoded', covers⟩ := (always _ _ _ _ _ router_sampleHopsCall
    tracked_sampleContext encodes_sampleHops carries_sampleHopsCall (by decide)
    (by decide +kernel)).1 command
  rw [decoded] at decoded'
  cases decoded'
  rcases covers with unbounded | ⟨-, covers⟩
  · have unknown := unbounded.kind
    rw [swap] at unknown
    cases unknown
  · rw [notional] at covers
    exact absurd covers (by decide)

end UniswapV4

end Sdk

end AgentProof
