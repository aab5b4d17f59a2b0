import AgentProof.Ens.Control
import AgentProof.Sdk.EnsIdentity

/-!
# What the registrar publishes is what the SDK reads

`_toHexString` on one side of ENS, `ENSIdentity` on the other, and between them the
Universal Resolver, which wraps a record in two layers of ABI encoding.
-/

namespace AgentProof

namespace Sdk

open Js Ens

/-! ## The text of a number -/

/-- The digit loop writes the hexadecimal digits, the lowest one last. -/
theorem hexDigits_eq (n : Nat) (value : Uint256) (buffer : Bytes) :
    hexDigits n value buffer = (fixedHex n value.toNat).map Utf8.asciiByte ++ buffer := by
  induction n generalizing value buffer with
  | zero => rfl
  | succ n ih =>
      have digit : ∀ d < 16, (if (BitVec.ofNat 8 d).toNat < 10 then BitVec.ofNat 8 d + 48
          else BitVec.ofNat 8 d + 87) = Utf8.asciiByte (Nat.digitChar d) := by decide
      have nibble : (value &&& 0xf).setWidth 8 = BitVec.ofNat 8 (value.toNat % 16) := by
        refine BitVec.eq_of_toNat_eq ?_
        rw [BitVec.toNat_setWidth, BitVec.toNat_and, BitVec.toNat_ofNat]
        exact congrArg (· % 2 ^ 8) (Nat.and_two_pow_sub_one_eq_mod value.toNat 4)
      have rest : (value >>> 4).toNat = value.toNat / 16 := by
        rw [BitVec.toNat_ushiftRight, Nat.shiftRight_eq_div_pow]
      rw [hexDigits, ih, rest, nibble, digit _ (Nat.mod_lt _ (by omega)), fixedHex_succ,
        List.map_append, List.append_assoc]
      rfl

theorem toHexString_eq (value : Uint256) (length : Nat) :
    toHexString value length =
      ('0' :: 'x' :: fixedHex (2 * length) value.toNat).map Utf8.asciiByte := by
  rw [toHexString, hexDigits_eq, List.append_nil]
  rfl

theorem ascii_of_isHexDigit {c : Char} (hex : isHexDigit c = true) : c.toNat < 0x80 := by
  simp only [isHexDigit, isDigit, Bool.or_eq_true, Bool.and_eq_true, decide_eq_true_eq] at hex
  omega

/-- The stored bytes as the text they spell. -/
theorem decode_toHexString (value : Uint256) (length : Nat) :
    Utf8.decode (toHexString value length) = '0' :: 'x' :: fixedHex (2 * length) value.toNat := by
  rw [toHexString_eq]
  refine Utf8.decode_map_asciiByte fun c mem => ?_
  simp only [List.mem_cons] at mem
  rcases mem with rfl | rfl | digit
  · decide
  · decide
  · exact ascii_of_isHexDigit (List.all_eq_true.mp (allHex_fixedHex _ _) c digit)

/-! ## The two layers -/

/-- A dynamic value: its length, its bytes, and zeros up to a whole word. -/
def abiBytes (bytes : Bytes) : Bytes :=
  wordBytes (BitVec.ofNat 256 bytes.length) ++ bytes ++
    List.replicate ((32 - bytes.length % 32) % 32) 0

/-- `abi.encode(string)`. -/
def abiString (bytes : Bytes) : Bytes := wordBytes 32 ++ abiBytes bytes

/-- What `resolve` returns: `(bytes result, address resolver)`. -/
def resolveReply (result : Bytes) (resolver : Address) : Bytes :=
  wordBytes 64 ++ wordBytes (resolver.setWidth 256) ++ abiBytes result

section Layers

variable {front bytes : Bytes}

/-- The length word in front of a dynamic value. -/
theorem bigIntHex_length (short : bytes.length < 2 ^ 256) :
    bigIntHex (slice (hexText (front ++ abiBytes bytes)) (front.length * 2)
      (front.length * 2 + 64)) = .ok bytes.length := by
  have inside : front.length + 32 ≤ (front ++ abiBytes bytes).length := by
    simp only [abiBytes, List.length_append, length_wordBytes]
    omega
  have number : wordAt (front ++ abiBytes bytes) front.length = BitVec.ofNat 256 bytes.length := by
    have skip := @wordAt_append front (abiBytes bytes) _ rfl 0
    rw [Nat.add_zero] at skip
    rw [skip, abiBytes, List.append_assoc, wordAt_wordBytes_append]
  rw [Nat.mul_comm, slice_word_hexText inside, bigIntHex_word, number, BitVec.toNat_ofNat,
    Nat.mod_eq_of_lt short]

/-- The bytes of a dynamic value. -/
theorem slice_content :
    slice (hexText (front ++ abiBytes bytes)) (front.length * 2 + 64)
      (front.length * 2 + 64 + bytes.length * 2) = hexText bytes := by
  have head : (front ++ wordBytes (BitVec.ofNat 256 bytes.length)).length = front.length + 32 := by
    rw [List.length_append, length_wordBytes]
  have digits := slice_hexText (front ++ abiBytes bytes) (front.length + 32)
    (front.length + 32 + bytes.length)
  rw [Nat.add_sub_cancel_left, abiBytes, ← List.append_assoc, ← List.append_assoc, List.append_assoc _ bytes,
    List.drop_left' head, List.take_left] at digits
  rw [abiBytes, ← List.append_assoc, ← List.append_assoc, List.append_assoc _ bytes, ← digits]
  congr 1
  · omega
  · omega

/-- The inner layer: a string read back. -/
theorem decodeString_abiString (short : bytes.length < 2 ^ 53) :
    decodeString (hexText (abiString bytes)) = .ok (Utf8.decode bytes) := by
  have offset : bigIntHex (slice (hexText (abiString bytes)) 0 64) = .ok 32 := by
    have inside : 0 + 32 ≤ (abiString bytes).length := by
      simp only [abiString, List.length_append, length_wordBytes]
      omega
    have word := slice_word_hexText inside
    rw [Nat.mul_zero, Nat.zero_add] at word
    rw [word, bigIntHex_word, abiString, wordAt_wordBytes_append]
    rfl
  have length := @bigIntHex_length (wordBytes 32) bytes (short.trans (by norm_num))
  have content := @slice_content (wordBytes 32) bytes
  rw [length_wordBytes, ← abiString] at length content
  have nonempty : ¬ (hexText (abiString bytes)).length = 0 := by
    simp only [length_hexText, abiString, List.length_append, length_wordBytes]
    omega
  have fits : ¬ MAX_ARRAY_LENGTH < bytes.length := by
    rw [MAX_ARRAY_LENGTH]
    omega
  rw [decodeString, if_neg nonempty, offset]
  simp only [bind, Except.bind, toNumber_of_lt (show 32 < 2 ^ 53 by norm_num), length,
    toNumber_of_lt short, content, if_neg fits, bytesOfHex_hexText]

/-- The outer layer: the Universal Resolver's result unwrapped. -/
theorem universalResolve_eq {identity : ENSIdentity} {name inner dnsName : Text} {result : Bytes}
    {resolver : Address} (encoded : dnsEncode name = .ok dnsName)
    (answered : identity.chain identity.universalResolver (encodeResolveCall dnsName inner) =
      .ok (bytesToHex (resolveReply result resolver)))
    (short : result.length < 2 ^ 53) :
    identity.universalResolve name inner = .ok (hexText result) := by
  have body : (bytesToHex (resolveReply result resolver)).drop 2 =
      hexText (resolveReply result resolver) := rfl
  have nonempty : bytesToHex (resolveReply result resolver) ≠ "0x".toList := by
    intro same
    have length := congrArg List.length same
    simp only [bytesToHex, List.length_cons, length_hexText, resolveReply, List.length_append,
      length_wordBytes] at length
    have two : "0x".toList.length = 2 := rfl
    omega
  have offset : bigIntHex (slice (hexText (resolveReply result resolver)) 0 64) = .ok 64 := by
    have inside : 0 + 32 ≤ (resolveReply result resolver).length := by
      simp only [resolveReply, List.length_append, length_wordBytes]
      omega
    have word := slice_word_hexText inside
    rw [Nat.mul_zero, Nat.zero_add] at word
    rw [word, bigIntHex_word, resolveReply, List.append_assoc, wordAt_wordBytes_append]
    rfl
  have front : (wordBytes 64 ++ wordBytes (resolver.setWidth 256)).length = 64 := by
    rw [List.length_append, length_wordBytes, length_wordBytes]
  have length := @bigIntHex_length (wordBytes 64 ++ wordBytes (resolver.setWidth 256)) result
    (short.trans (by norm_num))
  have content := @slice_content (wordBytes 64 ++ wordBytes (resolver.setWidth 256)) result
  rw [front, ← resolveReply] at length content
  rw [ENSIdentity.universalResolve, encoded]
  simp only [bind, Except.bind, answered, if_neg nonempty, body, offset,
    toNumber_of_lt (show 64 < 2 ^ 53 by norm_num), length, toNumber_of_lt short, content]

end Layers

/-! ## Records -/

/-- The resolver answers for a record with these bytes, and the cache holds nothing
else of it. -/
structure Serves (identity : ENSIdentity) (name key : Text) (record : Bytes) (now : Int) :
    Prop where
  answers : ∃ dnsName resolver, dnsEncode name = .ok dnsName ∧
    identity.chain identity.universalResolver
      (encodeResolveCall dnsName (encodeText (namehash name) key)) =
        .ok (bytesToHex (resolveReply (abiString record) resolver))
  cached : ∀ value, identity.cached name key now = some value → value = Utf8.decode record

variable {identity : ENSIdentity} {name key : Text} {record : Bytes} {now : Int}

theorem text_of_serves (serves : Serves identity name key record now)
    (short : record.length < 2 ^ 52) (later : Int) :
    (identity.text name key now later).1 = .ok (Utf8.decode record) := by
  obtain ⟨dnsName, resolver, encoded, answered⟩ := serves.answers
  have wrapped : (abiString record).length < 2 ^ 53 := by
    simp only [abiString, abiBytes, List.length_append, length_wordBytes, List.length_replicate]
    omega
  have read : identity.universalResolve name (encodeText (namehash name) key) >>= decodeString =
      .ok (Utf8.decode record) :=
    bind_eq_ok_iff.mpr
      ⟨_, universalResolve_eq encoded answered wrapped, decodeString_abiString (by omega)⟩
  rw [ENSIdentity.text]
  split
  · next value held => rw [serves.cached value held]
  · simp only [read]

theorem toLowerCase_fixedHex {k v : Nat} (fits : v < 16 ^ k) :
    toLowerCase (fixedHex k v) = fixedHex k v := by
  rw [toLowerCase_of_allHex (allHex_fixedHex k v), length_fixedHex, numeral_fixedHex,
    Nat.mod_eq_of_lt fits]

theorem length_toHexString (value : Uint256) (length : Nat) :
    (toHexString value length).length = 2 * length + 2 := by
  rw [toHexString_eq, List.length_map, List.length_cons, List.length_cons, length_fixedHex]

theorem isHash_fixedHex (v : Nat) : ENSIdentity.isHash ('0' :: 'x' :: fixedHex 64 v) = true := by
  have hex : (fixedHex 64 v).all isHexDigit = true := allHex_fixedHex 64 v
  simp [ENSIdentity.isHash, hex]

/-- A record that spells a 32-byte word is that hash. -/
theorem resolvePolicyHash_of_serves {value : Bytes32}
    (serves : Serves identity name ENS_KEY_POLICY (toHexString value 32) now) (later : Int) :
    (identity.resolvePolicyHash name now later).1 = .ok (bytesToHex (wordBytes value)) := by
  have fits : value.toNat < 16 ^ 64 := value.isLt
  have lower : toLowerCase ('0' :: 'x' :: fixedHex 64 value.toNat) =
      '0' :: 'x' :: fixedHex 64 value.toNat := by
    rw [toLowerCase, List.map_cons, List.map_cons, ← toLowerCase, toLowerCase_fixedHex fits]
    rfl
  have read := text_of_serves serves (by rw [length_toHexString]; norm_num) later
  rw [decode_toHexString, show 2 * 32 = 64 from rfl] at read
  rw [ENSIdentity.resolvePolicyHash, bind_eq_ok_iff]
  refine ⟨_, read, ?_⟩
  rw [ENSIdentity.hashOfRecord, if_neg (not_not.mpr (isHash_fixedHex _)), lower, bytesToHex,
    wordBytes, hexText_ofNat]

/-- A record that spells a 20-byte address is that address. -/
theorem resolveHook_of_serves {hook : Address}
    (serves : Serves identity name ENS_KEY_HOOK (toHexString (hook.setWidth 256) 20) now)
    (later : Int) :
    (identity.resolveHook name now later).1 = .ok (addressText hook) := by
  have widened : (hook.setWidth 256).toNat = hook.toNat :=
    BitVec.toNat_setWidth_of_le (by norm_num)
  have read := text_of_serves serves (by rw [length_toHexString]; norm_num) later
  rw [decode_toHexString, widened, show 2 * 20 = 40 from rfl, ← addressText_eq] at read
  rw [ENSIdentity.resolveHook, bind_eq_ok_iff]
  refine ⟨_, read, ?_⟩
  rw [ENSIdentity.hookOfRecord, normalizeAddress_addressText]

/-! ## Publishing -/

section Publishing

variable {H : Type} [DecidableEq H] {h : Hashing H} {s s' : State H} {sender : Address}

theorem KEY_HOOK_ne : KEY_HOOK ≠ KEY_POLICY ∧ KEY_HOOK ≠ KEY_STATUS ∧ KEY_POLICY ≠ KEY_STATUS := by
  decide

/-- The records of a registration, as they are stored. -/
theorem texts_of_registerAgent {reg : Registration H} {timestamp : Uint256}
    {registered : Option Uint256}
    (ok : registerAgent h s sender reg timestamp registered = .ok s') :
    s'.resolver.texts reg.node KEY_POLICY = toHexString reg.policyHash 32 ∧
      s'.resolver.texts reg.node KEY_HOOK = toHexString (reg.hook.setWidth 256) 20 := by
  obtain ⟨-, -, granted, resolver, -, writes, rfl⟩ := registerAgent_ok ok
  obtain ⟨hook_policy, hook_status, policy_status⟩ := KEY_HOOK_ne
  simp only [writeRecords, bind_eq_ok_iff, Resolver.setText_eq_ok, Resolver.setAddr_eq_ok] at writes
  obtain ⟨_, -, _, ⟨-, rfl⟩, _, ⟨-, rfl⟩, -, rfl⟩ := writes
  constructor
  · rw [Resolver.putText_of_ne (.inr policy_status), Resolver.putText_of_ne (.inr hook_policy.symm),
      Resolver.putText_self]
  · rw [Resolver.putText_of_ne (.inr hook_status), Resolver.putText_self]

/-- What `setPolicyHash` stores. -/
theorem texts_of_setPolicyHash {label : Bytes} {newHash : Bytes32}
    (ok : setPolicyHash h s sender label newHash = .ok s') :
    s'.resolver.texts (s'.registrar.agents label).node KEY_POLICY = toHexString newHash 32 := by
  obtain ⟨-, -, -, rfl⟩ := setPolicyHash_eq_ok.mp ok
  rw [store_self, Resolver.putText_self]

variable (h)

/-- A hash that was published and a hook that was registered are read back, whatever
they are, while the name's resolver serves what is stored. -/
theorem published_records_read_back (identity : ENSIdentity) (name : Text) (now later : Int)
    (s s' : State H) (sender : Address) (label : Bytes) :
    (∀ newHash, setPolicyHash h s sender label newHash = .ok s' →
      Serves identity name ENS_KEY_POLICY
        (s'.resolver.texts (s'.registrar.agents label).node KEY_POLICY) now →
      (identity.resolvePolicyHash name now later).1 = .ok (bytesToHex (wordBytes newHash))) ∧
    (∀ reg timestamp registered, registerAgent h s sender reg timestamp registered = .ok s' →
      Serves identity name ENS_KEY_HOOK (s'.resolver.texts reg.node KEY_HOOK) now →
      (identity.resolveHook name now later).1 = .ok (addressText reg.hook)) := by
  constructor
  · intro newHash stored serves
    rw [texts_of_setPolicyHash stored] at serves
    exact resolvePolicyHash_of_serves serves later
  · intro reg timestamp registered stored serves
    rw [(texts_of_registerAgent stored).2] at serves
    exact resolveHook_of_serves serves later

end Publishing

/-! ### The trader's records -/

def traderName : Text := "trader.agentproof.eth".toList

/-- An SDK before a resolver that holds one record. -/
def readerOf (record : Bytes) : ENSIdentity where
  chain _ _ := .ok (bytesToHex (resolveReply (abiString record) 0x4e5))
  universalResolver := addressText 0xe5
  ttlMs := 30000
  cache := .empty

theorem serves_readerOf (key : Text) (record : Bytes) (now : Int) :
    Serves (readerOf record) traderName key record now := by
  have encodes : dnsEncode traderName =
      .ok (bytesToHex ([6] ++ ascii "trader" ++ [10] ++ ascii "agentproof" ++ [3] ++ ascii "eth" ++
        [0])) := by
    decide +kernel
  exact ⟨⟨_, 0x4e5, encodes, rfl⟩, fun value held => by cases held⟩

/-- A hash with leading zeros, and the hook of the registration. -/
theorem published_records_read_back_trader :
    let s' := perform .free traderRegistered ⟨0xa, .setPolicyHash (ascii "trader") 0xab⟩
    let policy := readerOf (s'.resolver.texts traderNode KEY_POLICY)
    let hook := readerOf (traderRegistered.resolver.texts traderNode KEY_HOOK)
    (policy.resolvePolicyHash traderName 0 1).1 = .ok (bytesToHex (wordBytes 0xab)) ∧
      (hook.resolveHook traderName 0 1).1 = .ok (addressText 0x400c) := by
  intro s' policy hook
  have stored : execute .free traderRegistered ⟨0xa, .setPolicyHash (ascii "trader") 0xab⟩ = .ok s' :=
    ok_perform (by decide +kernel)
  have registered : execute .free delegated ⟨0xa, .registerAgent trader 1000 (some 1)⟩ =
      .ok traderRegistered := ok_perform (by decide +kernel)
  have node : (s'.registrar.agents (ascii "trader")).node = traderNode := by decide +kernel
  constructor
  · refine (published_records_read_back .free policy traderName 0 1 traderRegistered s' 0xa
      (ascii "trader")).1 0xab stored ?_
    rw [node]
    exact serves_readerOf _ _ _
  · exact (published_records_read_back .free hook traderName 0 1 delegated traderRegistered 0xa
      (ascii "trader")).2 trader 1000 (some 1) registered (serves_readerOf _ _ _)

end Sdk

end AgentProof
