import AgentProof.Sdk.ExecuteRuns

/-!
# Three publishers of one policy

`createAgentProof` with an identity and a chain reader starts exactly if the
document is accepted, the name publishes its hash and is active, and the hook's
stored configuration is installed and holds the same hash.  The hook's reply is
any hexadecimal text; its words are counted from behind the `0x`.
-/

namespace AgentProof

namespace Sdk

open Js

/-- The `k`-th 32-byte word of a hexadecimal text, as digits, if the text is long
enough. -/
def hexWord (raw : Text) (k : Nat) : Option Text :=
  let word := (raw.drop (2 + 64 * k)).take 64
  if word.length = 64 then some word else none

theorem hexWord_eq_some_iff {raw word : Text} {k : Nat} :
    hexWord raw k = some word ↔
      2 + 64 * (k + 1) ≤ raw.length ∧ slice raw (2 + 64 * k) (2 + 64 * (k + 1)) = word := by
  have width : 2 + 64 * (k + 1) - (2 + 64 * k) = 64 := by omega
  rw [hexWord, slice, width]
  split_ifs with long
  · rw [List.length_take, List.length_drop] at long
    simp only [Option.some.injEq]
    constructor
    · intro same
      exact ⟨by omega, same⟩
    · exact fun both => both.2
  · rw [List.length_take, List.length_drop] at long
    simp only [false_iff, not_and]
    intro enough
    omega

/-- The words of rendered bytes are the words of the bytes. -/
theorem hexWord_bytesToHex {bs : Bytes} {k : Nat} (inside : 32 * k + 32 ≤ bs.length) :
    hexWord (bytesToHex bs) k = some (hexText (readPadded bs (32 * k) 32)) := by
  refine hexWord_eq_some_iff.mpr ⟨?_, ?_⟩
  · rw [bytesToHex, List.length_cons, List.length_cons, length_hexText]
    omega
  · rw [← slice_word_bytesToHex inside]
    congr 1
    · omega
    · omega

/-- Behind the `0x` there are digits only. -/
theorem allHex_of_isHex {raw : Text} (hex : isHex raw = true) : AllHex (raw.drop 2) := by
  unfold isHex at hex
  split at hex
  · exact hex
  · cases hex

theorem allHex_of_hexWord {raw word : Text} {k : Nat} (hex : isHex raw = true)
    (found : hexWord raw k = some word) : AllHex word := by
  obtain ⟨-, rfl⟩ := hexWord_eq_some_iff.mp found
  have width : 2 + 64 * (k + 1) - (2 + 64 * k) = 64 * (k + 1) - 64 * k := by omega
  have behind : slice raw (2 + 64 * k) (2 + 64 * (k + 1)) =
      slice (raw.drop 2) (64 * k) (64 * (k + 1)) := by
    rw [slice, slice, width, List.drop_drop]
  rw [behind]
  exact AllHex.slice (allHex_of_isHex hex) _ _

theorem hash_of_resolvePolicy {policyHash : PolicyDocument → Text} {document : PolicyDocument}
    {policy : ResolvedPolicy} (accepted : resolvePolicy policyHash document = .ok policy) :
    policy.hash = policyHash document := by
  simp only [resolvePolicy, invalidPolicy, guard_eq_ok_iff, bind_eq_ok_iff,
    Except.ok.injEq] at accepted
  obtain ⟨-, -, -, -, -, -, -, -, -, -, -, -, -, -, -, -, -, -, -, -, -, -, -, -, -, rfl⟩ := accepted
  rfl

/-! ## The name -/

/-- The name publishes the hash, in some case, and is active. -/
structure NameAgrees (identity : IdentityProvider) (agent hash : Text) : Prop where
  published : ∃ published, identity.resolvePolicyHash agent = .ok published ∧
    toLowerCase published = toLowerCase hash
  active : identity.resolveStatus agent = .ok "active".toList

theorem checkName_eq_ok_iff {identity : IdentityProvider} {agent hash : Text} :
    checkName agent hash (some identity) = .ok () ↔ NameAgrees identity agent hash := by
  simp only [checkName, bind_eq_ok_iff, policyBindingError, thrown, guard_eq_ok_iff, ne_eq, not_not]
  constructor
  · rintro ⟨published, resolved, same, status, read, active, -⟩
    exact ⟨⟨published, resolved, same⟩, active ▸ read⟩
  · rintro ⟨⟨published, resolved, same⟩, active⟩
    exact ⟨published, resolved, same, _, active, rfl, trivial⟩

/-! ## The hook -/

/-- The calldata of `config(account)`. -/
def configCalldata (account : Text) : Text :=
  CONFIG_SELECTOR ++ padStart 64 '0' (toLowerCase (account.drop 2))

/-- A configuration, as the hook returns it, that is installed and holds the hash. -/
structure ConfigAgrees (raw hash : Text) : Prop where
  policyHash : ∃ word, hexWord raw 4 = some word ∧
    toLowerCase ("0x".toList ++ word) = toLowerCase hash
  installed : ∃ word, hexWord raw 5 = some word ∧ numeral 16 word = 1

theorem assertInstalledPolicyHash_eq_ok_iff {enforcer : HookEnforcer} {hash : Text}
    {call : Text → Text → Except JsError Text} (chained : enforcer.chain = some call)
    (hex : ∀ raw, call enforcer.hook (configCalldata enforcer.account) = .ok raw →
      isHex raw = true) :
    enforcer.assertInstalledPolicyHash hash = .ok () ↔
      ∃ raw, call enforcer.hook (configCalldata enforcer.account) = .ok raw ∧
        ConfigAgrees raw hash := by
  rw [HookEnforcer.assertInstalledPolicyHash, chained]
  simp only [bind_eq_ok_iff, policyBindingError, thrown, guard_eq_ok_iff, ne_eq, not_not, not_lt]
  constructor
  · rintro ⟨raw, replied, long, flag, read, rfl, same, -⟩
    have sixth : hexWord raw 5 = some (slice raw (2 + 64 * 5) (2 + 64 * 6)) :=
      hexWord_eq_some_iff.mpr ⟨long, rfl⟩
    have fifth : hexWord raw 4 = some (slice raw (2 + 64 * 4) (2 + 64 * 5)) :=
      hexWord_eq_some_iff.mpr ⟨by omega, rfl⟩
    have digits := allHex_of_hexWord (hex raw replied) sixth
    have nonempty : slice raw (2 + 64 * 5) (2 + 64 * 6) ≠ [] := by
      rw [← List.length_pos_iff, slice, List.length_take, List.length_drop]
      omega
    rw [bigIntHex_of_allHex digits nonempty] at read
    exact ⟨raw, replied, ⟨_, fifth, same⟩, _, sixth, Except.ok.inj read⟩
  · rintro ⟨raw, replied, ⟨fifth, held, same⟩, sixth, flagged, one⟩
    have digits := allHex_of_hexWord (hex raw replied) flagged
    obtain ⟨long, rfl⟩ := hexWord_eq_some_iff.mp flagged
    obtain ⟨-, rfl⟩ := hexWord_eq_some_iff.mp held
    have nonempty : slice raw (2 + 64 * 5) (2 + 64 * 6) ≠ [] := by
      rw [← List.length_pos_iff, slice, List.length_take, List.length_drop]
      omega
    refine ⟨raw, replied, long, 1, ?_, rfl, same, trivial⟩
    exact (bigIntHex_of_allHex digits nonempty).trans (congrArg Except.ok one)

/-! ## Startup -/

section Startup

variable {policyHash : PolicyDocument → Text} {config : AgentProofConfig}
  {identity : IdentityProvider} {enforcement : EnforcementConfig}
  {call : Text → Text → Except JsError Text}

/-- The calls that read the hook's configuration at startup. -/
def configReply (policy : ResolvedPolicy) (enforcement : EnforcementConfig)
    (call : Text → Text → Except JsError Text) : Except JsError Text :=
  call (enforcement.hook.getD policy.hook) (configCalldata (enforcement.account.getD policy.account))

/-- An instance starts exactly if document, name and hook hold the same policy. -/
theorem createAgentProof_resolves_iff (named : config.identity = some identity)
    (enforced : config.enforcement = some enforcement) (chained : enforcement.chain = some call)
    (hex : ∀ policy raw, configReply policy enforcement call = .ok raw → isHex raw = true) :
    (∃ deps, createAgentProof policyHash config = .ok deps) ↔
      ∃ policy raw, resolvePolicy policyHash config.policy = .ok policy ∧
        NameAgrees identity config.policy.agent (policyHash config.policy) ∧
        configReply policy enforcement call = .ok raw ∧
        ConfigAgrees raw (policyHash config.policy) := by
  have hook_iff (policy : ResolvedPolicy) (hash : Text) :
      HookEnforcer.assertInstalledPolicyHash
          ⟨enforcement.account.getD policy.account, enforcement.hook.getD policy.hook,
            enforcement.executor, enforcement.chain⟩ hash = .ok () ↔
        ∃ raw, configReply policy enforcement call = .ok raw ∧ ConfigAgrees raw hash :=
    assertInstalledPolicyHash_eq_ok_iff chained (hex policy)
  simp only [createAgentProof, bind_eq_ok_iff, named, enforced, Option.map_some, checkHook,
    Except.ok.injEq]
  constructor
  · rintro ⟨deps, policy, resolved, ⟨⟩, name, ⟨⟩, hook, -⟩
    rw [hash_of_resolvePolicy resolved] at name hook
    obtain ⟨raw, replied, agrees⟩ := (hook_iff policy _).mp hook
    exact ⟨policy, raw, resolved, checkName_eq_ok_iff.mp name, replied, agrees⟩
  · rintro ⟨policy, raw, resolved, name, replied, agrees⟩
    have hash := hash_of_resolvePolicy resolved
    refine ⟨_, policy, resolved, (), ?_, (), ?_, rfl⟩
    · rw [hash]
      exact checkName_eq_ok_iff.mpr name
    · rw [hash]
      exact (hook_iff policy _).mpr ⟨raw, replied, agrees⟩

/-! ### A hook that agrees and one that was never installed -/

def publishedHash : Text := bytesToHex (encodeWords [7])

def publishedName : IdentityProvider :=
  ⟨fun _ => .ok publishedHash, fun _ => .ok "active".toList⟩

/-- A hook whose last word is `installed`. -/
def readHook (installed : Uint256) : EnforcementConfig :=
  ⟨⟨false⟩, none, none,
    some fun _ _ => .ok (bytesToHex (encodeWords [0xa55e7, 100, 500, 0, 7, installed]))⟩

def publishedSetup (installed : Uint256) : AgentProofConfig :=
  { Process.sampleSetup with
    identity := some publishedName
    enforcement := some (readHook installed) }

theorem createAgentProof_publishedSetup :
    (∃ deps, createAgentProof (fun _ => publishedHash) (publishedSetup 1) = .ok deps) ∧
      ¬ ∃ deps, createAgentProof (fun _ => publishedHash) (publishedSetup 0) = .ok deps := by
  have accepted : (resolvePolicy (fun _ => publishedHash) Process.samplePolicy).toOption.isSome := by
    decide +kernel
  obtain ⟨policy, resolved⟩ := Option.isSome_iff_exists.mp accepted
  have name : NameAgrees publishedName Process.samplePolicy.agent publishedHash :=
    ⟨⟨publishedHash, rfl, rfl⟩, rfl⟩
  have hex : ∀ (installed : Uint256) (hook data raw : Text),
      Except.ok (bytesToHex (encodeWords [0xa55e7, 100, 500, 0, 7, installed])) =
        (.ok raw : Except JsError Text) → isHex raw = true := by
    intro installed hook data raw replied
    rw [← Except.ok.inj replied]
    exact isHex_bytesToHex _
  constructor
  · refine (@createAgentProof_resolves_iff (fun _ => publishedHash) (publishedSetup 1)
      publishedName (readHook 1) _ rfl rfl rfl fun _ => hex 1 [] []).mpr
        ⟨policy, _, Process.eq_ok_of_toOption resolved, name, rfl, ?_⟩
    exact ⟨⟨_, hexWord_bytesToHex (by decide +kernel), by decide +kernel⟩, _,
      hexWord_bytesToHex (by decide +kernel), by decide +kernel⟩
  · intro started
    obtain ⟨policy, raw, -, -, replied, -, sixth, word, one⟩ :=
      (@createAgentProof_resolves_iff (fun _ => publishedHash) (publishedSetup 0)
        publishedName (readHook 0) _ rfl rfl rfl fun _ => hex 0 [] []).mp started
    have reply : bytesToHex (encodeWords [0xa55e7, 100, 500, 0, 7, 0]) = raw :=
      Except.ok.inj replied
    have zero : hexWord (bytesToHex (encodeWords [0xa55e7, 100, 500, 0, 7, 0])) 5 =
        some (fixedHex 64 0) := by decide +kernel
    rw [← reply, zero] at word
    rw [← Option.some.inj word] at one
    exact absurd one (by decide +kernel)

end Startup

end Sdk

end AgentProof
