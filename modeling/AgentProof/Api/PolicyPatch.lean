import AgentProof.Api.Routes
import AgentProof.Lib.FoldM

/-!
# What a policy patch sets

A patch that is accepted sets the fields it asks for, each to its value, and
leaves every other field as it is.
-/

namespace AgentProof

namespace Api

open FoldM Sdk Js

/-- The value a patch asks for in an amount. -/
def askedAmount (patch : Json) (key : AmountKey) : Option Text :=
  match patch.field key.text with
  | some (.str value) => some value
  | _ => none

def askedAddresses (patch : Json) (key : AddressKey) : Option (List Text) :=
  match patch.field key.text with
  | some (.arr entries) => entries.mapM addressEntry
  | _ => none

/-- The policies have every value the patch asks for. -/
structure Contains (policies : PolicyEntries) (patch : Json) : Prop where
  amount : ∀ key value, askedAmount patch key = some value → amountOf policies key = some value
  addresses : ∀ key value, askedAddresses patch key = some value →
    addressesOf policies key = some value

/-- No field is in both patches. -/
structure DisjointPatches (patch patch' : Json) : Prop where
  amount : ∀ key : AmountKey, patch.field key.text = none ∨ patch'.field key.text = none
  addresses : ∀ key : AddressKey, patch.field key.text = none ∨ patch'.field key.text = none

/-- Every field is the patch's where the patch asks for it, and unchanged elsewhere. -/
structure Applied (patch : Json) (before after : PolicyEntries) : Prop where
  amount : ∀ key, amountOf after key = (askedAmount patch key).or (amountOf before key)
  addresses : ∀ key, addressesOf after key = (askedAddresses patch key).or (addressesOf before key)

variable {patch patch' : Json} {before after : PolicyEntries}

theorem DisjointPatches.symm (disjoint : DisjointPatches patch patch') :
    DisjointPatches patch' patch :=
  ⟨fun key => (disjoint.amount key).symm, fun key => (disjoint.addresses key).symm⟩

theorem Applied.contains (applied : Applied patch before after) : Contains after patch := by
  constructor
  · intro key value asked
    rw [applied.amount key, asked]
    rfl
  · intro key value asked
    rw [applied.addresses key, asked]
    rfl

/-- What another patch has set stays, where the two are disjoint. -/
theorem Applied.keeps (applied : Applied patch before after)
    (disjoint : DisjointPatches patch patch') (contains : Contains before patch') :
    Contains after patch' := by
  constructor
  · intro key value asked
    rcases disjoint.amount key with unasked | unset
    · rw [applied.amount key, askedAmount, unasked]
      exact contains.amount key value asked
    · rw [askedAmount, unset] at asked
      cases asked
  · intro key value asked
    rcases disjoint.addresses key with unasked | unset
    · rw [applied.addresses key, askedAddresses, unasked]
      exact contains.addresses key value asked
    · rw [askedAddresses, unset] at asked
      cases asked

/-! ## Accepted patches -/

theorem patchAmount_cases {key : AmountKey} (patched : patchAmount patch before key = .ok after) :
    (askedAmount patch key = none ∧ after = before) ∨
      ∃ value, askedAmount patch key = some value ∧ after = setAmount before value key := by
  unfold patchAmount at patched
  unfold askedAmount
  split at patched
  · next unset =>
      cases Except.ok.inj patched
      rw [unset]
      exact .inl ⟨rfl, rfl⟩
  · next value set =>
      rw [set]
      split_ifs at patched
      · cases Except.ok.inj patched
        exact .inr ⟨value, rfl, rfl⟩
      · cases patched
  · cases patched

theorem patchAddresses_cases {key : AddressKey}
    (patched : patchAddresses patch before key = .ok after) :
    (askedAddresses patch key = none ∧ after = before) ∨
      ∃ value, askedAddresses patch key = some value ∧ after = setAddresses before value key := by
  unfold patchAddresses at patched
  unfold askedAddresses
  split at patched
  · next unset =>
      cases Except.ok.inj patched
      rw [unset]
      exact .inl ⟨rfl, rfl⟩
  · next entries set =>
      rw [set]
      split at patched
      · next value read =>
          cases Except.ok.inj patched
          exact .inr ⟨value, read, rfl⟩
      · cases patched
  · cases patched

theorem amountOf_setAmount {value : Text} {key k : AmountKey} :
    amountOf (setAmount before value key) k = if k = key then some value else amountOf before k := by
  cases key <;> cases k <;> rfl

theorem addressesOf_setAddresses {value : List Text} {key k : AddressKey} :
    addressesOf (setAddresses before value key) k =
      if k = key then some value else addressesOf before k := by
  cases key <;> cases k <;> rfl

theorem addressesOf_setAmount {value : Text} {key : AmountKey} :
    addressesOf (setAmount before value key) = addressesOf before := by
  cases key <;> rfl

theorem amountOf_setAddresses {value : List Text} {key : AddressKey} :
    amountOf (setAddresses before value key) = amountOf before := by
  cases key <;> rfl

theorem amountOf_patchAmount {key k : AmountKey}
    (patched : patchAmount patch before key = .ok after) :
    amountOf after k =
      if k = key then (askedAmount patch k).or (amountOf before k) else amountOf before k := by
  rcases patchAmount_cases patched with ⟨unasked, rfl⟩ | ⟨value, asked, rfl⟩
  · split_ifs with here
    · rw [here, unasked]
      rfl
    · rfl
  · rw [amountOf_setAmount]
    split_ifs with here
    · rw [here, asked]
      rfl
    · rfl

theorem addressesOf_patchAddresses {key k : AddressKey}
    (patched : patchAddresses patch before key = .ok after) :
    addressesOf after k =
      if k = key then (askedAddresses patch k).or (addressesOf before k)
      else addressesOf before k := by
  rcases patchAddresses_cases patched with ⟨unasked, rfl⟩ | ⟨value, asked, rfl⟩
  · split_ifs with here
    · rw [here, unasked]
      rfl
    · rfl
  · rw [addressesOf_setAddresses]
    split_ifs with here
    · rw [here, asked]
      rfl
    · rfl

theorem document_of_resolvePolicy {policyHash : PolicyDocument → Text} {document : PolicyDocument}
    {policy : ResolvedPolicy} (accepted : resolvePolicy policyHash document = .ok policy) :
    policy.document = document := by
  simp only [resolvePolicy, invalidPolicy, guard_eq_ok_iff, bind_eq_ok_iff,
    Except.ok.injEq] at accepted
  obtain ⟨-, -, -, _, -, _, -, _, -, _, -, _, -, -, _, -, _, -, _, -, _, -, _, -, rfl⟩ := accepted
  rfl

/-- An accepted patch: the document has it applied, and is what the new policy
resolves. -/
theorem applied_of_applyPolicyPatch {policyHash : PolicyDocument → Text} {policy resolved : ResolvedPolicy}
    {document : PolicyDocument}
    (accepted : applyPolicyPatch policyHash policy patch = .ok (document, resolved)) :
    Applied patch policy.document.policies document.policies ∧
      resolvePolicy policyHash document = .ok resolved := by
  have patches : ∀ amounts policies : PolicyEntries,
      AMOUNT_KEYS.foldlM (patchAmount patch) policy.document.policies = .ok amounts →
      ADDRESS_KEYS.foldlM (patchAddresses patch) amounts = .ok policies →
        Applied patch policy.document.policies policies := by
    intro amounts policies first second
    have amountsKept : amountOf policies = amountOf amounts := by
      refine foldlM_same ?_ second
      intro p key p' patched
      rcases patchAddresses_cases patched with ⟨-, rfl⟩ | ⟨value, -, rfl⟩
      · rfl
      · exact amountOf_setAddresses
    have addressesKept : addressesOf amounts = addressesOf policy.document.policies := by
      refine foldlM_same ?_ first
      intro p key p' patched
      rcases patchAmount_cases patched with ⟨-, rfl⟩ | ⟨value, -, rfl⟩
      · rfl
      · exact addressesOf_setAmount
    constructor
    · intro key
      have listed : key ∈ AMOUNT_KEYS := by cases key <;> decide
      have set := foldlM_asked (fun p key p' patched k => amountOf_patchAmount patched) first key
      rw [if_pos listed] at set
      rw [amountsKept, set]
    · intro key
      have listed : key ∈ ADDRESS_KEYS := by cases key <;> decide
      have set :=
        foldlM_asked (fun p key p' patched k => addressesOf_patchAddresses patched) second key
      rw [if_pos listed, addressesKept] at set
      exact set
  unfold applyPolicyPatch at accepted
  split at accepted
  case h_3 => cases accepted
  all_goals
    rw [bind_eq_ok_iff] at accepted
    obtain ⟨amounts, first, accepted⟩ := accepted
    rw [bind_eq_ok_iff] at accepted
    obtain ⟨policies, second, accepted⟩ := accepted
    dsimp only at accepted
    split at accepted
    · next ok =>
        cases Except.ok.inj accepted
        exact ⟨patches _ _ first second, ok⟩
    · cases accepted

end Api

end AgentProof
