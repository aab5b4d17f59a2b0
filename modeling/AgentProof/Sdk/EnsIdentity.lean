import AgentProof.Lib.OrderedMap
import AgentProof.Lib.Utf8
import AgentProof.Sdk.Keccak
import AgentProof.Sdk.Policy

/-!
# The identity behind a name

`identity/ENSIdentity.ts`: text records read through the Universal Resolver, with
a cache.  A call that reads the clock twice is given both readings.
-/

namespace AgentProof

namespace Sdk

open Js Crypto

def ENS_KEY_POLICY : Text := "agentproof.policy".toList
def ENS_KEY_HOOK : Text := "agentproof.hook".toList
def ENS_KEY_STATUS : Text := "agentproof.status".toList

structure CacheEntry where
  value : Text
  expiresAt : Int
  deriving DecidableEq, Repr

/-- `chain` is `ChainReader.call` with the contract and the calldata. -/
structure ENSIdentity where
  chain : Text → Text → Except JsError Text
  universalResolver : Text
  ttlMs : Int
  cache : OrderedMap Text CacheEntry

/-- `throw new ENSRecordError(name, key, detail)`. -/
def ensRecordError {α : Type} (name key detail : Text) : Except JsError α :=
  .error ⟨"ENSRecordError".toList, "ENS record ".toList ++ key ++ " on ".toList ++ name ++
    " is unusable: ".toList ++ detail⟩

/-! ## Encoding -/

/-- `keccak256` of a string. -/
def keccak256Text (s : Text) : Text := keccak256 (Utf8.encode s)

def ADDR_SELECTOR : Text := slice (keccak256Text "addr(bytes32)".toList) 0 10
def TEXT_SELECTOR : Text := slice (keccak256Text "text(bytes32,string)".toList) 0 10
def RESOLVE_SELECTOR : Text := slice (keccak256Text "resolve(bytes,bytes)".toList) 0 10

/-- The first `length` bytes of a hexadecimal text; what is missing counts as zero. -/
def bytesOfHex (body : Text) (length : Nat) : Bytes :=
  (List.range length).map fun i =>
    BitVec.ofNat 8 (maskBits (parseIntHex (slice body (i * 2) (i * 2 + 2))) 8)

/-- Two digits a byte, read back. -/
theorem bytesOfHex_hexText (bytes : Bytes) : bytesOfHex (hexText bytes) bytes.length = bytes := by
  have byte (b : Byte) : BitVec.ofNat 8 (maskBits (some (b.toNat : Int)) 8) = b := by
    decide +revert
  have digits := congrArg (List.map fun parsed => BitVec.ofNat 8 (maskBits parsed 8))
    (map_parseIntHex bytes)
  rw [List.map_map, List.map_map] at digits
  refine digits.trans ((List.map_congr_left fun b _ => ?_).trans (List.map_id bytes))
  exact byte b

def concatHex (a b : Text) : Bytes :=
  let body := a.drop 2 ++ b.drop 2
  bytesOfHex body (body.length / 2)

/-- The labels of a name. -/
def labels (name : Text) : List Text := name.splitOn '.'

def namehash (name : Text) : Text :=
  let node := bytesToHex (List.replicate 32 0)
  if name.length = 0 then node
  else (labels name).reverse.foldl (fun node label =>
    keccak256 (concatHex node (keccak256Text label))) node

/-- The length of a label and its bytes. -/
def dnsLabel (label : Text) : Except JsError Bytes :=
  let bytes := Utf8.encode label
  if bytes.length > 63 then thrown ("ENS label too long: ".toList ++ label)
  else .ok (BitVec.ofNat 8 bytes.length :: bytes)

def dnsEncode (name : Text) : Except JsError Text := do
  let parts ← (labels name).mapM dnsLabel
  .ok (bytesToHex (parts.flatten ++ [0]))

def encodeText (node key : Text) : Text :=
  let keyBytes := Utf8.encode key
  let padded := (keyBytes.length + 31) / 32 * 32
  let keyHex := padEnd (padded * 2) '0' (hexText keyBytes)
  TEXT_SELECTOR ++ node.drop 2 ++ word 64 ++ word keyBytes.length ++ keyHex

def encodeResolveCall (dnsName inner : Text) : Text :=
  let nameBytes := (dnsName.length - 2) / 2
  let innerBytes := (inner.length - 2) / 2
  let namePadded := padEnd ((nameBytes + 31) / 32 * 64) '0' (dnsName.drop 2)
  let innerPadded := padEnd ((innerBytes + 31) / 32 * 64) '0' (inner.drop 2)
  let nameOffset := 64
  let innerOffset := nameOffset + 32 + namePadded.length / 2
  RESOLVE_SELECTOR ++ word nameOffset ++ word innerOffset ++ word nameBytes ++ namePadded ++
    word innerBytes ++ innerPadded

/-- `new Uint8Array(length)` takes no more. -/
def MAX_ARRAY_LENGTH : Nat := 2 ^ 53 - 1

def decodeString (returned : Text) : Except JsError Text :=
  if returned.length = 0 then .ok []
  else do
    let offset := toNumber (← bigIntHex (slice returned 0 64)) * 2
    let length := toNumber (← bigIntHex (slice returned offset (offset + 64)))
    let body := slice returned (offset + 64) (offset + 64 + length * 2)
    if MAX_ARRAY_LENGTH < length then
      .error ⟨"RangeError".toList, "Invalid typed array length: ".toList ++ toDecimal length⟩
    else .ok (Utf8.decode (bytesOfHex body length))

/-! ## Reading -/

namespace ENSIdentity

/-- What `resolve(bytes,bytes)` returns, if it is well formed. -/
def universalResolve (identity : ENSIdentity) (name inner : Text) : Except JsError Text := do
  let dnsName ← dnsEncode name
  let data := encodeResolveCall dnsName inner
  let raw ← identity.chain identity.universalResolver data
  if raw = "0x".toList then
    ensRecordError name "resolve".toList "Universal Resolver returned no data".toList
  else do
    let body := raw.drop 2
    let offset := toNumber (← bigIntHex (slice body 0 64)) * 2
    let length := toNumber (← bigIntHex (slice body offset (offset + 64))) * 2
    .ok (slice body (offset + 64) (offset + 64 + length))

def cacheKey (name key : Text) : Text := name ++ "|".toList ++ key

/-- The cached value, while it lives. -/
def cached (identity : ENSIdentity) (name key : Text) (now : Int) : Option Text :=
  if identity.ttlMs > 0 then
    match identity.cache.get (cacheKey name key) with
    | some entry => if entry.expiresAt > now then some entry.value else none
    | none => none
  else none

/-- The entry of a value read at a time; 0 disables caching. -/
def remember (identity : ENSIdentity) (name key value : Text) (now : Int) : ENSIdentity :=
  if identity.ttlMs > 0 then
    { identity with
      cache := identity.cache.set (cacheKey name key) ⟨value, now + identity.ttlMs⟩ }
  else identity

def text (identity : ENSIdentity) (name key : Text) (now later : Int) :
    Except JsError Text × ENSIdentity :=
  match identity.cached name key now with
  | some value => (.ok value, identity)
  | none =>
      let inner := encodeText (namehash name) key
      match identity.universalResolve name inner >>= decodeString with
      | .error e => (.error e, identity)
      | .ok value => (.ok value, identity.remember name key value later)

/-- `/^0x[0-9a-fA-F]{64}$/`. -/
def isHash : Text → Bool
  | '0' :: 'x' :: body => body.length == 64 && body.all isHexDigit
  | _ => false

/-- What `resolvePolicyHash` makes of a record. -/
def hashOfRecord (name value : Text) : Except JsError Text :=
  if ¬ isHash value then
    ensRecordError name ENS_KEY_POLICY
      ("expected a 32-byte hash, got ".toList ++ jsonString value)
  else .ok (toLowerCase value)

def resolvePolicyHash (identity : ENSIdentity) (name : Text) (now later : Int) :
    Except JsError Text × ENSIdentity :=
  let (value, identity) := identity.text name ENS_KEY_POLICY now later
  (value >>= hashOfRecord name, identity)

/-- What `resolveHook` makes of a record. -/
def hookOfRecord (name value : Text) : Except JsError Text :=
  match normalizeAddress value with
  | .ok address => .ok address
  | .error _ =>
      ensRecordError name ENS_KEY_HOOK ("expected an address, got ".toList ++ jsonString value)

def resolveHook (identity : ENSIdentity) (name : Text) (now later : Int) :
    Except JsError Text × ENSIdentity :=
  let (value, identity) := identity.text name ENS_KEY_HOOK now later
  (value >>= hookOfRecord name, identity)

def resolveStatus (identity : ENSIdentity) (name : Text) (now later : Int) :
    Except JsError Text × ENSIdentity :=
  let (value, identity) := identity.text name ENS_KEY_STATUS now later
  (value.map fun value => if value = [] then "active".toList else value, identity)

end ENSIdentity

end Sdk

end AgentProof
