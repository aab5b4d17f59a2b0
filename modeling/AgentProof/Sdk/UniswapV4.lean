import AgentProof.Sdk.Decode

/-!
# The Universal Router decoder

`decode/uniswapV4.ts`: a command stream and, inside it, v4 action streams are
folded to a worst-case outflow per asset.  Words are read from the text of an
input at fixed positions.  Whatever cannot be read makes the whole stream
unbounded; a thrown error inside the loop is caught there.
-/

namespace AgentProof

namespace Sdk

namespace UniswapV4

open Js

def SELECTOR_EXECUTE : Text := "0x3593564c".toList
def SELECTOR_EXECUTE_NO_DEADLINE : Text := "0x24856bc3".toList

def V4_NATIVE_CURRENCY : Text := "0x0000000000000000000000000000000000000000".toList

/-- Max-uint160, Permit2's unlimited allowance. -/
def PERMIT2_UNLIMITED : Int := 2 ^ 160 - 1

/-! ## `Outflow` -/

/-- One asset, one key: the zero address and the sentinel in lower case are the
native asset. -/
def canonicalKey (normalised : Text) : Text :=
  if normalised = V4_NATIVE_CURRENCY ∨ normalised = toLowerCase NATIVE_ASSET then NATIVE_ASSET
  else normalised

def canonicalAsset (asset : Text) : Except JsError Text := do
  let normalised ← normalizeAddress asset
  .ok (canonicalKey normalised)

/-- Per-currency worst-case outflow. -/
structure Outflow where
  byAsset : OrderedMap Text Int
  deriving DecidableEq

namespace Outflow

def empty : Outflow := ⟨.empty⟩

/-- The amount under a canonical key. -/
def amountAt (o : Outflow) (key : Text) : Int := (o.byAsset.get key).getD 0

def addAt (o : Outflow) (key : Text) (amount : Int) : Outflow :=
  ⟨o.byAsset.set key (o.amountAt key + amount)⟩

def add (o : Outflow) (asset : Text) (amount : Int) : Except JsError Outflow := do
  let key ← canonicalAsset asset
  .ok (o.addAt key amount)

/-- Raises the bound for one currency without adding to it. -/
def atLeast (o : Outflow) (asset : Text) (amount : Int) : Except JsError Outflow := do
  let key ← canonicalAsset asset
  .ok (if amount > o.amountAt key then ⟨o.byAsset.set key amount⟩ else o)

/-- Adds every entry of another outflow, in its order. -/
def merge (o other : Outflow) : Except JsError Outflow :=
  other.byAsset.entries.foldlM (fun o entry => o.add entry.1 entry.2) o

def get (o : Outflow) (asset : Text) : Except JsError Int := do
  let key ← canonicalAsset asset
  .ok (o.amountAt key)

def entries (o : Outflow) : List (Text × Int) :=
  o.byAsset.entries.filter fun entry => entry.2 > 0

end Outflow

/-! ## Words and paths of an input -/

def wordAt (input : Text) (index : Nat) : Except JsError Nat :=
  let word := slice input (index * 64) (index * 64 + 64)
  if word.length ≠ 64 then thrown ("input too short for word ".toList ++ toDecimal index)
  else bigIntHex word

def wordAsAddress (input : Text) (index : Nat) : Except JsError Text := do
  let value ← wordAt input index
  normalizeAddress (addressDigits value)

/-- A packed swap path; `headIndex` is the head word with its offset. -/
def readPath (input : Text) (headIndex : Nat) : Option Text :=
  let read : Except JsError (Option Text) := do
    let offset := (← wordAt input headIndex) * 2
    let length ← bigIntHex (slice input offset (offset + 64))
    let path := slice input (offset + 64) (offset + 64 + length * 2)
    .ok (if path.length ≠ length * 2 ∨ length < 20 then none else some path)
  read.toOption.join

def pathFirstToken (input : Text) (headIndex : Nat) : Except JsError (Option Text) :=
  match readPath input headIndex with
  | none => .ok none
  | some path => do
      let token ← normalizeAddress ('0' :: 'x' :: slice path 0 40)
      .ok (some token)

def pathLastToken (input : Text) (headIndex : Nat) : Except JsError (Option Text) :=
  match readPath input headIndex with
  | none => .ok none
  | some path => do
      let token ← normalizeAddress ('0' :: 'x' :: path.drop (path.length - 40))
      .ok (some token)

/-! ## The `(bytes, bytes[])` head -/

structure CommandStream where
  commands : List (Option Int)
  inputs : List Text
  deriving DecidableEq, Repr

/-- One element of the inputs array. -/
def readInput (body : Text) (inputsOffset i : Nat) : Except JsError Text := do
  let relative ← bigIntHex (slice body (inputsOffset + 64 + i * 64) (inputsOffset + 128 + i * 64))
  let start := inputsOffset + 64 + relative * 2
  let length ← bigIntHex (slice body start (start + 64))
  let element := slice body (start + 64) (start + 64 + length * 2)
  if element.length ≠ length * 2 then thrown "an input runs past the end of calldata".toList
  else .ok element

/-- Elements `i`, `i + 1`, ... -/
def readInputs (body : Text) (inputsOffset i : Nat) : Nat → Except JsError (List Text)
  | 0 => .ok []
  | count + 1 => do
      let element ← readInput body inputsOffset i
      let rest ← readInputs body inputsOffset (i + 1) count
      .ok (element :: rest)

def readCommandStream (data : Text) (hasDeadline : Bool) : Except JsError CommandStream := do
  let body := data.drop 10
  let word (index : Nat) := bigIntHex (slice body (index * 64) (index * 64 + 64))
  let commandsOffset := (← word 0) * 2
  let inputsOffset := (← word 1) * 2
  if hasDeadline then
    let _ ← word 2
  let commandsLength ← bigIntHex (slice body commandsOffset (commandsOffset + 64))
  let commandsHex := slice body (commandsOffset + 64) (commandsOffset + 64 + commandsLength * 2)
  if commandsHex.length ≠ commandsLength * 2 then
    thrown "commands run past the end of calldata".toList
  else
    let commands := (List.range commandsLength).map fun i =>
      parseIntHex (slice commandsHex (i * 2) (i * 2 + 2))
    let inputsLength ← bigIntHex (slice body inputsOffset (inputsOffset + 64))
    let inputs ← readInputs body inputsOffset 0 inputsLength
    if commands.length ≠ inputs.length then thrown "commands and inputs length mismatch".toList
    else .ok ⟨commands, inputs⟩

/-! ## Canonical assets -/

/-- The key under which an address is recorded. -/
def assetKey (a : Address) : Text := canonicalKey (addressText a)

@[simp] theorem canonicalAsset_addressText (a : Address) :
    canonicalAsset (addressText a) = .ok (assetKey a) := by
  rw [canonicalAsset, normalizeAddress_addressText]
  rfl

/-- The sentinel of the native asset, as an address. -/
def nativeSentinel : Address := 0xEeeeeEeeeEeEeeEeEeEeeEEEeeeeEeeeeeeeEEeE

/-- The addresses that stand for the native asset. -/
def IsNative (a : Address) : Prop := a = 0 ∨ a = nativeSentinel

instance (a : Address) : Decidable (IsNative a) := inferInstanceAs (Decidable (_ ∨ _))

theorem addressText_ne_native (a : Address) : addressText a ≠ NATIVE_ASSET := by
  intro same
  have lower := toLowerCase_addressText a
  rw [same] at lower
  exact absurd lower (by decide)

theorem assetKey_of_isNative {a : Address} (native : IsNative a) : assetKey a = NATIVE_ASSET := by
  rcases native with rfl | rfl <;> decide +kernel

theorem assetKey_of_not_isNative {a : Address} (other : ¬ IsNative a) :
    assetKey a = addressText a := by
  have zero : V4_NATIVE_CURRENCY = addressText 0 := by decide +kernel
  have sentinel : toLowerCase NATIVE_ASSET = addressText nativeSentinel := by decide +kernel
  rw [assetKey, canonicalKey, zero, sentinel]
  exact if_neg fun same => other <|
    same.imp (fun text => addressText_injective text) fun text => addressText_injective text

/-- Two addresses are one asset when they are equal or both stand for the native one. -/
theorem assetKey_eq_iff {a b : Address} :
    assetKey a = assetKey b ↔ a = b ∨ IsNative a ∧ IsNative b := by
  by_cases first : IsNative a
  · by_cases second : IsNative b
    · simp [assetKey_of_isNative, first, second]
    · have differ : a ≠ b := by
        rintro rfl
        exact second first
      rw [assetKey_of_isNative first, assetKey_of_not_isNative second]
      simp [second, differ, (addressText_ne_native b).symm]
  · by_cases second : IsNative b
    · have differ : a ≠ b := by
        rintro rfl
        exact first second
      rw [assetKey_of_not_isNative first, assetKey_of_isNative second]
      simp [first, differ, addressText_ne_native a]
    · rw [assetKey_of_not_isNative first, assetKey_of_not_isNative second,
        addressText_injective.eq_iff]
      simp [first]

/-- A normalised address is the text of an address. -/
theorem normalizeAddress_eq_ok {t normalised : Text} (read : normalizeAddress t = .ok normalised) :
    normalised = addressText (addressOf normalised) := by
  obtain ⟨-, rfl⟩ := normalizeAddress_eq_ok_iff.mp read
  rw [addressOf_addressText]

namespace Outflow

@[simp] theorem amountAt_empty (key : Text) : empty.amountAt key = 0 := rfl

theorem amountAt_addAt (o : Outflow) (key key' : Text) (amount : Int) :
    (o.addAt key amount).amountAt key' =
      if key' = key then o.amountAt key + amount else o.amountAt key' := by
  rw [amountAt, addAt, OrderedMap.get_set]
  split_ifs <;> rfl

/-- Raise the bound of a key. -/
def atLeastAt (o : Outflow) (key : Text) (amount : Int) : Outflow :=
  if amount > o.amountAt key then ⟨o.byAsset.set key amount⟩ else o

theorem amountAt_atLeastAt (o : Outflow) (key key' : Text) (amount : Int) :
    (o.atLeastAt key amount).amountAt key' =
      if key' = key then max (o.amountAt key) amount else o.amountAt key' := by
  rw [atLeastAt]
  by_cases raises : amount > o.amountAt key
  · rw [if_pos raises, amountAt, OrderedMap.get_set]
    split_ifs
    · exact (max_eq_right (le_of_lt raises)).symm
    · rfl
  · rw [if_neg raises, max_eq_left (not_lt.mp raises)]
    split_ifs with here
    · rw [here]
    · rfl

theorem add_addressText (o : Outflow) (a : Address) (amount : Int) :
    o.add (addressText a) amount = .ok (o.addAt (assetKey a) amount) := by
  rw [add, canonicalAsset_addressText]
  rfl

theorem atLeast_addressText (o : Outflow) (a : Address) (amount : Int) :
    o.atLeast (addressText a) amount = .ok (o.atLeastAt (assetKey a) amount) := by
  rw [atLeast, canonicalAsset_addressText]
  rfl

theorem get_addressText (o : Outflow) (a : Address) :
    o.get (addressText a) = .ok (o.amountAt (assetKey a)) := by
  rw [get, canonicalAsset_addressText]
  rfl

end Outflow

/-! ## v4 actions -/

/-- The contribution of a single-hop swap: the input currency, selected by
`zeroForOne`, and the word at `amountIndex`. -/
def singleSwap (params : Text) (amountIndex : Nat) : Except JsError (Text × Nat) := do
  let zeroForOne := (← wordAt params 6) ≠ 0
  let currency ← wordAsAddress params (if zeroForOne then 1 else 2)
  let amount ← wordAt params amountIndex
  .ok (currency, amount)

/-- One turn of the action loop; `none` is an action the decoder refuses. -/
def readV4Action (outflow : Outflow) (action : Option Int) (params : Text) :
    Except JsError (Option Outflow) :=
  match action with
  | some 0x06 => do -- SWAP_EXACT_IN_SINGLE
      let (currency, amount) ← singleSwap params 7
      let outflow ← outflow.add currency amount
      .ok (some outflow)
  | some 0x08 => do -- SWAP_EXACT_OUT_SINGLE
      let (currency, amount) ← singleSwap params 8
      let outflow ← outflow.add currency amount
      .ok (some outflow)
  | some 0x07 | some 0x09 => .ok none -- SWAP_EXACT_IN, SWAP_EXACT_OUT
  | some 0x0b => do -- SETTLE
      let payerIsUser := (← wordAt params 2) ≠ 0
      if payerIsUser then
        let currency ← wordAsAddress params 0
        let outflow ← outflow.add currency (← wordAt params 1)
        .ok (some outflow)
      else .ok (some outflow)
  | some 0x0c => do -- SETTLE_ALL
      let currency ← wordAsAddress params 0
      let outflow ← outflow.atLeast currency (← wordAt params 1)
      .ok (some outflow)
  | some 0x0d => .ok (some outflow) -- SETTLE_PAIR
  -- TAKE, TAKE_ALL, TAKE_PORTION, TAKE_PAIR, CLOSE_CURRENCY, CLEAR_OR_TAKE
  | some 0x0e | some 0x0f | some 0x10 | some 0x11 | some 0x12 | some 0x13 => .ok (some outflow)
  | _ => .ok none

/-- The action loop; a thrown error refuses the stream like an unmodelled action. -/
def readV4Actions (outflow : Outflow) : List (Option Int × Text) → Option Outflow
  | [] => some outflow
  | (action, params) :: rest =>
      match readV4Action outflow action params with
      | .ok (some outflow) => readV4Actions outflow rest
      | .ok none => none
      | .error _ => none

/-- The nested payload has the shape of `execute()`, so a dummy selector lets
one parser serve both. -/
def readV4Stream (input : Text) : Option CommandStream :=
  (readCommandStream ("0x00000000".toList ++ input) false).toOption

def readV4Outflow (input : Text) : Option Outflow := do
  let inner ← readV4Stream input
  readV4Actions .empty (inner.commands.zip inner.inputs)

theorem readV4Outflow_of_stream {input : Text} {stream : CommandStream}
    (inner : readV4Stream input = some stream) :
    readV4Outflow input = readV4Actions .empty (stream.commands.zip stream.inputs) := by
  rw [readV4Outflow, inner]
  rfl

/-! ## Commands -/

/-- What the command loop has gathered. -/
structure Gathered where
  outflow : Outflow
  recipient : Option Text

/-- `recipient ??= address`; the address is only read while none is known. -/
def Gathered.named (g : Gathered) (address : Except JsError Text) :
    Except JsError (Option Text) :=
  match g.recipient with
  | some known => .ok (some known)
  | none => do
      let address ← address
      .ok (some address)

/-- Adds an outflow, or fails when its currency could not be read. -/
def Gathered.swap (g : Gathered) (recipient currency : Option Text) (amount : Except JsError Nat) :
    Except JsError (Except Text Gathered) :=
  match currency with
  | none => .ok (.error "swap path is not decodable".toList)
  | some currency => do
      let outflow ← g.outflow.add currency (← amount)
      .ok (.ok ⟨outflow, recipient⟩)

def commandText (command : Nat) : Text := "0x".toList ++ padStart 2 '0' (toHex command)

/-- One turn of the command loop.  The inner error is the reason of a `fail`. -/
def readCommand (g : Gathered) (command : Nat) (input : Text) :
    Except JsError (Except Text Gathered) :=
  match command with
  | 0x00 | 0x08 => do -- V3_SWAP_EXACT_IN, V2_SWAP_EXACT_IN
      let recipient ← g.named (wordAsAddress input 0)
      let currency ← pathFirstToken input 3
      g.swap recipient currency (wordAt input 1)
  | 0x01 | 0x09 => do -- V3_SWAP_EXACT_OUT, V2_SWAP_EXACT_OUT
      let recipient ← g.named (wordAsAddress input 0)
      -- an exact-output path is reversed, so the token paid is the last one
      let currency ← pathLastToken input 3
      g.swap recipient currency (wordAt input 2)
  | 0x10 => -- V4_SWAP
      match readV4Outflow input with
      | none => .ok (.error "v4 action stream is not decodable".toList)
      | some nested => do
          let outflow ← g.outflow.merge nested
          .ok (.ok { g with outflow := outflow })
  | 0x05 | 0x02 => do -- TRANSFER, PERMIT2_TRANSFER_FROM
      let recipient ← g.named (wordAsAddress input 1)
      let currency ← wordAsAddress input 0
      let outflow ← g.outflow.add currency (← wordAt input 2)
      .ok (.ok ⟨outflow, recipient⟩)
  | 0x0a => do -- PERMIT2_PERMIT
      let allowance : Int ← wordAt input 1
      let currency ← wordAsAddress input 0
      let outflow ← g.outflow.add currency
        (if allowance ≥ PERMIT2_UNLIMITED then UNBOUNDED else allowance)
      .ok (.ok { g with outflow := outflow })
  | 0x0b => do -- WRAP_ETH
      let outflow ← g.outflow.add NATIVE_ASSET (← wordAt input 1)
      .ok (.ok { g with outflow := outflow })
  | 0x0c | 0x06 | 0x04 => .ok (.ok g) -- UNWRAP_WETH, PAY_PORTION, SWEEP
  | _ => .ok (.error ("command ".toList ++ commandText command ++ " is not decodable".toList))

/-- The command loop, with the flag bits of each command byte masked off. -/
def readCommands (g : Gathered) : List (Option Int × Text) → Except Text Gathered
  | [] => .ok g
  | (byte, input) :: rest =>
      let command := maskBits byte 6
      match readCommand g command input with
      | .ok (.ok g) => readCommands g rest
      | .ok (.error why) => .error why
      | .error _ =>
          .error ("input for command ".toList ++ commandText command ++ " is malformed".toList)

/-! ## Writing a stream -/

def wordText (v : Nat) : Text := fixedHex 64 v

/-- A `bytes` element that fills whole words: its length and its bytes. -/
def elementText (input : Text) : Text := wordText (input.length / 2) ++ input

/-- The head of the inputs array, from the offset of its first element on. -/
def elementOffsets : Nat → List Text → Text
  | _, [] => []
  | offset, input :: rest =>
      wordText offset ++ elementOffsets (offset + (elementText input).length / 2) rest

/-- The canonical `(bytes, bytes[])` of at most 32 commands. -/
def streamText (commands : List Nat) (inputs : List Text) : Text :=
  wordText 0x40 ++ wordText 0x80 ++
  wordText commands.length ++ padEnd 64 '0' (commands.flatMap (fixedHex 2)) ++
  wordText inputs.length ++ elementOffsets (32 * inputs.length) inputs ++
  inputs.flatMap elementText

example : readCommandStream
    ("0x24856bc3".toList ++ streamText [0x0b, 0x0c] [wordText 1, wordText 2]) false =
      .ok ⟨[some 0x0b, some 0x0c], [wordText 1, wordText 2]⟩ := by decide +kernel

/-! ## The decoder -/

def summarise (tracked : Int) (others : List (Text × Int)) : Text :=
  let parts := (if tracked > 0 then ["up to ".toList ++ displayUsdc tracked] else []) ++
    others.map fun (asset, amount) => "up to ".toList ++ toDecimal amount ++ " base units of ".toList ++
      if asset = NATIVE_ASSET then "native ETH".toList else asset
  if parts = [] then "Router call with no outflow from this account".toList
  else "Swap ".toList ++ " and ".toList.intercalate parts ++ " via Universal Router".toList

def unboundedSwap (action : Action) (router selector asset why : Text) : NormalizedIntent where
  kind := .unknown
  target := router
  selector := selector
  nativeValue := action.value
  outflow := [⟨asset, UNBOUNDED, .declared⟩]
  counterparty := some router
  notionalUSDC := UNBOUNDED
  summary := "Router call could not be bounded: ".toList ++ why
  raw := action

/-- The intent of a stream that was read to its end. -/
def swapIntent (action : Action) (ctx : DecoderContext) (router selector : Text) (g : Gathered) :
    Except JsError NormalizedIntent := do
  let tracked ← g.outflow.get ctx.trackedAsset
  let native ← g.outflow.get NATIVE_ASSET
  let others := g.outflow.entries.filter fun entry => entry.1 ≠ ctx.trackedAsset
  .ok {
    kind := .swap
    target := router
    selector := selector
    nativeValue := if native > action.value then native else action.value
    outflow := ⟨ctx.trackedAsset, tracked, .decoded⟩ ::
      others.map fun (asset, amount) => ⟨asset, amount, .decoded⟩
    counterparty := some (g.recipient.getD router)
    notionalUSDC := tracked
    summary := summarise tracked others
    raw := action }

def decode (action : Action) (ctx : DecoderContext) : Except JsError (Option NormalizedIntent) := do
  let selector := selectorOf action.data
  let router ← normalizeAddress action.toAddress
  let fail (why : Text) := unboundedSwap action router selector ctx.trackedAsset why
  match readCommandStream action.data (selector = SELECTOR_EXECUTE) with
  | .error _ => .ok (some (fail "command stream is malformed".toList))
  | .ok stream =>
      match readCommands ⟨.empty, none⟩ (stream.commands.zip stream.inputs) with
      | .error why => .ok (some (fail why))
      | .ok g => do
          let intent ← swapIntent action ctx router selector g
          .ok (some intent)

end UniswapV4

def uniswapV4Decoder : SelectorDecoder where
  name := "uniswapV4".toList
  selectors := [UniswapV4.SELECTOR_EXECUTE, UniswapV4.SELECTOR_EXECUTE_NO_DEADLINE]
  decode := UniswapV4.decode

/-- The registry the SDK uses unless the caller supplies one; a clash would throw. -/
def createDefaultRegistry : DecoderRegistry :=
  [erc20Decoder, uniswapV4Decoder, x402Decoder, nativeDecoder].foldl
    (fun r decoder => (r.register decoder).1) .empty

end Sdk

end AgentProof
