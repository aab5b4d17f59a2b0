import AgentProof.Ens.Outsiders

/-!
# The kill switch and the owner's records

Two things the roles of a registration are for, over runs of arbitrary
messages.  A suspension holds until someone uses a write role on the agent's
status record, which the session key has; and an owner that hands the
registrar over keeps the write roles it was given at each registration until
they are revoked.
-/

namespace AgentProof

namespace Ens

variable {H : Type} [DecidableEq H] {h : Hashing H} {s s' : State H} {m : Message H}

/-! ## Suspension -/

variable (h) in
/-- A write of the agent's status, past the registrar, that is no suspension. -/
def Reactivates (node : H) (s : State H) (m : Message H) : Prop :=
  HoldsText h s node KEY_STATUS m.sender ∧
    ∃ value, value ≠ ascii "suspended" ∧ m.call = .setText node KEY_STATUS value

/-- After the owner has suspended an agent, its status stays "suspended"
through all messages of others that are no such write. -/
theorem suspended_stays {label : Bytes} {messages : List (Message H)} {suspended final : State H}
    (suspension : suspend h s s.registrar.owner label = .ok suspended)
    (calls : Sequence h (fun t m => m.sender ≠ t.registrar.owner ∧
      ¬ Reactivates h (s.registrar.agents label).node t m) suspended messages final) :
    final.resolver.texts (s.registrar.agents label).node KEY_STATUS = ascii "suspended" := by
  have start : suspended.resolver.texts (s.registrar.agents label).node KEY_STATUS =
      ascii "suspended" := by
    obtain ⟨-, -, -, rfl⟩ := suspend_eq_ok.mp suspension
    exact Resolver.putText_self
  generalize (s.registrar.agents label).node = node at calls start ⊢
  have kept : ∀ t m t', t.resolver.texts node KEY_STATUS = ascii "suspended" →
      m.sender ≠ t.registrar.owner ∧ ¬ Reactivates h node t m → some (perform h t m) = some t' →
      t'.resolver.texts node KEY_STATUS = ascii "suspended" := by
    rintro t m t' still ⟨notOwner, notReactivates⟩ step
    obtain rfl : perform h t m = t' := by simpa using step
    rcases text_perform m node KEY_STATUS with same | write
    · exact same.trans still
    · generalize (perform h t m).resolver.texts node KEY_STATUS = value at write ⊢
      cases write with
      | direct holds =>
          by_contra other
          exact notReactivates ⟨holds, _, other, rfl⟩
      | owner => exact absurd rfl notOwner
      | suspension status => rfl
  exact calls.invariant kept start

/-- The owner suspends the agent, and the agent's key lifts the suspension. -/
theorem suspension_lifted :
    let suspended := perform .free traderRegistered ⟨0xa, .suspend (ascii "trader")⟩
    let final := perform .free suspended
      ⟨trader.sessionKey, .setText traderNode KEY_STATUS (ascii "active")⟩
    traderRegistered.Registered (ascii "trader") ∧
      suspended.resolver.texts traderNode KEY_STATUS = ascii "suspended" ∧
      trader.sessionKey ≠ suspended.registrar.owner ∧
      trader.sessionKey ≠ suspended.resolver.admin ∧
      final.resolver.texts traderNode KEY_STATUS = ascii "active" := by
  decide +kernel

/-- After a suspension strangers get nowhere, and the key may suspend again. -/
theorem suspended_stays_trader :
    let messages : List (Message Digest) :=
      [⟨0xbad, .setText traderNode KEY_STATUS (ascii "active")⟩,
        ⟨0x5e5, .setText traderNode KEY_STATUS (ascii "suspended")⟩]
    let suspended := perform .free traderRegistered ⟨0xa, .suspend (ascii "trader")⟩
    (messages.foldl (perform .free) suspended).resolver.texts
      (traderRegistered.registrar.agents (ascii "trader")).node KEY_STATUS =
        ascii "suspended" := by
  intro messages suspended
  have done : execute .free traderRegistered ⟨0xa, .suspend (ascii "trader")⟩ = .ok suspended :=
    ok_perform (by decide +kernel)
  have owner : traderRegistered.registrar.owner = 0xa := by decide +kernel
  have calls : Sequence .free (fun t m => m.sender ≠ t.registrar.owner ∧
      ¬ Reactivates .free (traderRegistered.registrar.agents (ascii "trader")).node t m)
      suspended messages (messages.foldl (perform .free) suspended) := by
    refine .cons ⟨by decide +kernel, ?_⟩ rfl (.cons ⟨by decide +kernel, ?_⟩ rfl .nil)
    · rintro ⟨holds, -⟩
      exact absurd holds (by decide +kernel)
    · rintro ⟨-, value, other, wrote⟩
      obtain ⟨-, -, rfl⟩ := Call.setText.inj wrote
      exact other rfl
  exact suspended_stays (by rw [owner]; exact done) calls

/-- Such a write does end a suspension, whoever makes it. -/
theorem status_of_reactivates {node : H} (reactivates : Reactivates h node s m) :
    (perform h s m).resolver.texts node KEY_STATUS ≠ ascii "suspended" := by
  obtain ⟨sender, call⟩ := m
  obtain ⟨holds, value, other, rfl⟩ := reactivates
  have ok : execute h s ⟨sender, .setText node KEY_STATUS value⟩ =
      .ok { s with resolver := s.resolver.putText node KEY_STATUS value } :=
    onResolver_eq_ok.mpr ⟨_, Resolver.setText_eq_ok.mpr ⟨holds, rfl⟩, rfl⟩
  rw [perform_of_ok ok, Resolver.putText_self]
  exact other

/-! ## Ownership -/

/-- The records of an agent that are its owner's. -/
def OwnerKey (key : Bytes) : Prop := key = KEY_POLICY ∨ key = KEY_HOOK

theorem OwnerKey.ne_status {key : Bytes} (ownerKey : OwnerKey key) : key ≠ KEY_STATUS := by
  rcases ownerKey with rfl | rfl <;> decide

variable (h) in
/-- The account may write a policy or hook record of the node. -/
def Controls (s : State H) (node : H) (p : Address) : Prop :=
  ∃ key, OwnerKey key ∧ HoldsText h s node key p

variable (h) in
/-- The message leaves `p`, while it is not the owner, without control over
registered agents, and the registrar with its write role on their policies. -/
structure KeepsControl (p : Address) (s : State H) (m : Message H) : Prop where
  transfer : ∀ next, m = ⟨p, .transferOwnership next⟩ → s.registrar.owner = p → next ≠ p →
    ∀ label, s.Registered label → ¬ Controls h s (s.registrar.agents label).node p
  registration : ∀ reg timestamp registered,
    m = ⟨s.registrar.owner, .registerAgent reg timestamp registered⟩ → s.registrar.owner ≠ p →
    ¬ Controls h s reg.node p
  grant : ∀ sender toName key, m = ⟨sender, .authorizeTextRoles toName key p true⟩ →
    AdministersText h s toName sender → OwnerKey key → s.registrar.owner ≠ p →
    ∀ label, s.Registered label → (s.registrar.agents label).node ≠ h.keccak256 toName
  revocation : ∀ sender toName,
    m = ⟨sender, .authorizeTextRoles toName KEY_POLICY s.registrar.self false⟩ →
    AdministersText h s toName sender →
    ∀ label, s.Registered label → (s.registrar.agents label).node ≠ h.keccak256 toName

variable (h) in
/-- The registrar can write the policy of every registered agent, and `p`,
unless it is the owner, no policy and no hook. -/
structure OwnerInControl (p : Address) (s : State H) : Prop where
  registrar : ∀ label, s.Registered label →
    HoldsText h s (s.registrar.agents label).node KEY_POLICY s.registrar.self
  released : s.registrar.owner ≠ p →
    ∀ label, s.Registered label → ¬ Controls h s (s.registrar.agents label).node p

variable {p : Address}

/-! ### Messages that keep control -/

section Keeping

omit [DecidableEq H]

/-- Node roles touch no text record. -/
theorem keepsControl_nameRoles {sender account : Address} {toName : Bytes} {roleBitmap : Uint256}
    {grant : Bool} :
    KeepsControl h p s ⟨sender, .authorizeNameRoles toName roleBitmap account grant⟩ :=
  ⟨nofun, nofun, nofun, nofun⟩

theorem keepsControl_setPolicyHash {sender : Address} {label : Bytes} {newHash : Bytes32} :
    KeepsControl h p s ⟨sender, .setPolicyHash label newHash⟩ :=
  ⟨nofun, nofun, nofun, nofun⟩

/-- Any role but the registrar's may be revoked. -/
theorem keepsControl_revocation {sender account : Address} {toName key : Bytes}
    (other : account ≠ s.registrar.self) :
    KeepsControl h p s ⟨sender, .authorizeTextRoles toName key account false⟩ where
  transfer := nofun
  registration := nofun
  grant := nofun
  revocation sender' toName' same := by
    cases same
    exact absurd rfl other

/-- While it is the owner, `p` may be given roles by registrations. -/
theorem keepsControl_registration {sender : Address} {reg : Registration H} {timestamp : Uint256}
    {registered : Option Uint256} (owner : s.registrar.owner = p) :
    KeepsControl h p s ⟨sender, .registerAgent reg timestamp registered⟩ where
  transfer := nofun
  registration _ _ _ _ other := absurd owner other
  grant := nofun
  revocation := nofun

theorem keepsControl_transfer {sender next : Address}
    (released : ∀ label, s.Registered label → ¬ Controls h s (s.registrar.agents label).node p) :
    KeepsControl h p s ⟨sender, .transferOwnership next⟩ where
  transfer _ _ _ _ := released
  registration := nofun
  grant := nofun
  revocation := nofun

end Keeping

/-! ### Runs -/

/-- Nobody is registered at deployment. -/
theorem ownerInControl_deployed {admin owner self : Address} :
    OwnerInControl h p (deployed h admin owner self) where
  registrar _ known := absurd rfl known
  released _ _ known := absurd rfl known

theorem OwnerInControl.perform (inControl : OwnerInControl h p s) (notSelf : p ≠ s.registrar.self)
    (keeps : KeepsControl h p s m) : OwnerInControl h p (perform h s m) where
  registrar label known := by
    rw [self_perform]
    rcases registered_of_perform known with ⟨before, node⟩ | ⟨reg, _, _, rfl, node, policy⟩
    · rw [node]
      rcases holdsText_perform (m := m) (inControl.registrar label before) with holds | revoked
      · exact holds
      · cases revoked with
        | direct named admin =>
            exact absurd named.symm (keeps.revocation _ _ rfl admin label before)
    · rw [node]
      exact policy
  released notOwner label known := by
    rintro ⟨key, ownerKey, holds⟩
    rcases owner_perform (h := h) (s := s) m with owner | ⟨next, rfl, owner⟩
    · rw [owner] at notOwner
      rcases holdsText_of_perform holds with before | granted
      · rcases registered_of_perform known with ⟨old, node⟩ | ⟨reg, _, _, rfl, node, -⟩
        · rw [node] at before
          exact inControl.released notOwner label old ⟨key, ownerKey, before⟩
        · rw [node] at before
          exact keeps.registration reg _ _ rfl notOwner ⟨key, ownerKey, before⟩
      · generalize agent : ((Ens.perform h s m).registrar.agents label).node = node at granted
        cases granted with
        | direct named admin =>
            rcases registered_of_perform known with ⟨old, node⟩ | ⟨reg, _, _, other, -⟩
            · exact keeps.grant _ _ key rfl admin ownerKey notOwner label old
                (node.symm.trans (agent.trans named.symm))
            · cases other
        | registration party =>
            rcases party with rfl | rfl | rfl
            · exact notOwner rfl
            · exact notSelf rfl
            · exact ownerKey.ne_status rfl
    · -- a transfer changes neither the agents nor any role
      rw [owner] at notOwner
      rcases registered_of_perform known with ⟨old, node⟩ | ⟨reg, _, _, other, -⟩
      · rcases holdsText_of_perform holds with before | granted
        · rw [node] at before
          by_cases current : s.registrar.owner = p
          · exact keeps.transfer next (by rw [current]) current notOwner label old
              ⟨key, ownerKey, before⟩
          · exact inControl.released current label old ⟨key, ownerKey, before⟩
        · cases granted
      · cases other

/-- Under control, a message of an account that is not the owner changes no
policy and no hook of a registered agent. -/
theorem OwnerInControl.text_perform (inControl : OwnerInControl h p s)
    (notOwner : s.registrar.owner ≠ p) {label key : Bytes} (known : s.Registered label)
    (ownerKey : OwnerKey key) (call : Call H) :
    (Ens.perform h s ⟨p, call⟩).resolver.texts (s.registrar.agents label).node key =
      s.resolver.texts (s.registrar.agents label).node key := by
  rcases Ens.text_perform ⟨p, call⟩ (s.registrar.agents label).node key with same | write
  · exact same
  · generalize (Ens.perform h s ⟨p, call⟩).resolver.texts _ key = value at write
    cases write with
    | direct holds =>
        exact absurd ⟨key, ownerKey, holds⟩ (inControl.released notOwner label known)
    | owner => exact absurd rfl notOwner
    | suspension status => exact absurd status ownerKey.ne_status

/-- Under control, the owner can set the policy of a registered agent. -/
theorem OwnerInControl.setPolicyHash (inControl : OwnerInControl h p s) {label : Bytes}
    (known : s.Registered label) (newHash : Bytes32) :
    ∃ s', Ens.setPolicyHash h s s.registrar.owner label newHash = .ok s' ∧
      s'.resolver.texts (s.registrar.agents label).node KEY_POLICY = toHexString newHash 32 := by
  refine ⟨_, setPolicyHash_eq_ok.mpr ⟨known, rfl, inControl.registrar label known, rfl⟩, ?_⟩
  exact Resolver.putText_self

/-- In every run that keeps control, an owner that has transferred the
registrar changes no policy and no hook of a registered agent any more, and
the owner of the day can set every policy. -/
theorem owner_controls_policy {admin owner self next : Address} {before after : List (Message H)}
    {transferred final : State H} (external : p ≠ self)
    (start : Sequence h (KeepsControl h p) (deployed h admin owner self) before s)
    (keeps : KeepsControl h p s ⟨p, .transferOwnership next⟩)
    (transfer : transferOwnership s p next = .ok transferred)
    (later : Sequence h (KeepsControl h p) transferred after final)
    (previous : final.registrar.owner ≠ p) :
    (∀ label, final.Registered label → ∀ key, OwnerKey key → ∀ call,
      (perform h final ⟨p, call⟩).resolver.texts (final.registrar.agents label).node key =
        final.resolver.texts (final.registrar.agents label).node key) ∧
    ∀ label, final.Registered label → ∀ newHash,
      ∃ final', setPolicyHash h final final.registrar.owner label newHash = .ok final' ∧
        final'.resolver.texts (final.registrar.agents label).node KEY_POLICY =
          toHexString newHash 32 := by
  have moved : execute h s ⟨p, .transferOwnership next⟩ = .ok transferred := transfer
  have whole : Sequence h (KeepsControl h p) (deployed h admin owner self)
      (before ++ ⟨p, .transferOwnership next⟩ :: after) final :=
    start.append (.cons keeps (by rw [perform_of_ok moved]) later)
  have kept : ∀ t m t', OwnerInControl h p t ∧ t.registrar.self = self → KeepsControl h p t m →
      some (perform h t m) = some t' → OwnerInControl h p t' ∧ t'.registrar.self = self := by
    rintro t m t' ⟨inControl, address⟩ keeps step
    obtain rfl : perform h t m = t' := by simpa using step
    exact ⟨inControl.perform (by rwa [address]) keeps, by rw [self_perform, address]⟩
  have control := whole.invariant kept ⟨ownerInControl_deployed, rfl⟩
  exact ⟨fun label known key ownerKey call => control.1.text_perform previous known ownerKey call,
    fun label known newHash => control.1.setPolicyHash known newHash⟩

/-- The owner `0xa` transfers the registrar to `0xb`, and then points the
agent's policy elsewhere on the resolver. -/
theorem previous_owner_repoints :
    let transferred := perform .free traderRegistered ⟨0xa, .transferOwnership 0xb⟩
    let final := perform .free transferred ⟨0xa, .setText traderNode KEY_POLICY (ascii "0x")⟩
    traderRegistered.Registered (ascii "trader") ∧ transferred.registrar.owner = 0xb ∧
      (transferred.registrar.agents (ascii "trader")).node = traderNode ∧
      transferred.resolver.texts traderNode KEY_POLICY = toHexString trader.policyHash 32 ∧
      final.resolver.texts traderNode KEY_POLICY = ascii "0x" := by
  decide +kernel

/-- Where all registrations name one node, every agent is there. -/
theorem node_of_foldl {messages : List (Message H)} {node : H}
    (named : ∀ m ∈ messages, ∀ reg timestamp registered,
      m.call = .registerAgent reg timestamp registered → reg.node = node)
    (start : ∀ label, s.Registered label → (s.registrar.agents label).node = node)
    {label : Bytes} (known : (messages.foldl (perform h) s).Registered label) :
    ((messages.foldl (perform h) s).registrar.agents label).node = node := by
  induction messages generalizing s with
  | nil => exact start label known
  | cons m messages ih =>
      refine ih (fun m' later => named m' (List.mem_cons_of_mem m later)) (fun label known => ?_) known
      rcases registered_of_perform known with ⟨before, same⟩ | ⟨reg, _, _, call, at_node, -⟩
      · rw [same]
        exact start label before
      · rw [at_node]
        exact named m List.mem_cons_self reg _ _ (by rw [call])

/-- The admin takes the owner's roles on the trader's records away. -/
def releasing : List (Message Digest) :=
  [⟨0xad, .authorizeNameRoles traderDns SET_TEXT_ADMIN 0xad true⟩,
    ⟨0xad, .authorizeTextRoles traderDns KEY_POLICY 0xa false⟩,
    ⟨0xad, .authorizeTextRoles traderDns KEY_HOOK 0xa false⟩]

/-- With the roles revoked before the transfer, only the new owner repoints. -/
theorem owner_controls_policy_trader :
    let start := deployed .free 0xad 0xa 0x4e
    let before : List (Message Digest) :=
      ⟨0xad, .authorizeNameRoles traderDns (SET_TEXT_ADMIN ||| SET_ADDR_ADMIN) 0x4e true⟩ ::
        ⟨0xa, .registerAgent trader 1000 (some 1)⟩ :: releasing
    let s := before.foldl (perform .free) start
    let transferred := perform .free s ⟨0xa, .transferOwnership 0xb⟩
    let final := perform .free transferred ⟨0xb, .setPolicyHash (ascii "trader") 9⟩
    final.Registered (ascii "trader") ∧
    (∀ label, final.Registered label → ∀ key, OwnerKey key → ∀ call,
      (perform .free final ⟨0xa, call⟩).resolver.texts (final.registrar.agents label).node key =
        final.resolver.texts (final.registrar.agents label).node key) ∧
    ∀ label, final.Registered label → ∀ newHash,
      ∃ final', setPolicyHash .free final final.registrar.owner label newHash = .ok final' ∧
        final'.resolver.texts (final.registrar.agents label).node KEY_POLICY =
          toHexString newHash 32 := by
  intro start before s transferred final
  have owner : s.registrar.owner = 0xa := by decide +kernel
  have run : Sequence .free (KeepsControl .free 0xa) start before s :=
    .cons keepsControl_nameRoles rfl (.cons (keepsControl_registration (by decide +kernel)) rfl
      (.cons keepsControl_nameRoles rfl
        (.cons (keepsControl_revocation (by decide +kernel)) rfl
          (.cons (keepsControl_revocation (by decide +kernel)) rfl .nil))))
  have keeps : KeepsControl .free 0xa s ⟨0xa, .transferOwnership 0xb⟩ := by
    refine keepsControl_transfer fun label known => ?_
    have named : ∀ m ∈ before, ∀ reg timestamp registered,
        m.call = .registerAgent reg timestamp registered → reg.node = traderNode := by
      intro m sent reg timestamp registered call
      simp only [before, releasing, List.mem_cons, List.not_mem_nil, or_false] at sent
      rcases sent with rfl | rfl | rfl | rfl | rfl <;> cases call
      rfl
    have none : ∀ label, start.Registered label → (start.registrar.agents label).node = traderNode :=
      fun _ known => absurd rfl known
    have node : (s.registrar.agents label).node = traderNode := node_of_foldl named none known
    rw [node]
    rintro ⟨key, rfl | rfl, holds⟩ <;> exact absurd holds (by decide +kernel)
  have later : Sequence .free (KeepsControl .free 0xa) transferred
      [⟨0xb, .setPolicyHash (ascii "trader") 9⟩] final :=
    .cons keepsControl_setPolicyHash rfl .nil
  have ok : execute .free s ⟨0xa, .transferOwnership 0xb⟩ = .ok transferred :=
    ok_perform (by decide +kernel)
  exact ⟨by decide +kernel,
    owner_controls_policy (by decide) run keeps ok later (by decide +kernel)⟩

end Ens

end AgentProof
