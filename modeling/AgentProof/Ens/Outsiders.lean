import AgentProof.Ens.Authority

/-!
# Accounts without authority

An outsider is an account that runs neither contract and holds no role but on
status records: what a registration makes of the agent's session key
(`Outsider.registration`).  Whatever outsiders call, only status records
change.
-/

namespace AgentProof

namespace Ens

variable {H : Type} [DecidableEq H] {h : Hashing H} {s s' : State H} {m : Message H}

variable (h) in
/-- Neither owner, admin nor registrar, and no role but on status records. -/
structure Outsider (s : State H) (c : Address) : Prop where
  not_owner : c ≠ s.registrar.owner
  not_admin : c ≠ s.resolver.admin
  not_registrar : c ≠ s.registrar.self
  roles : ∀ resource, s.resolver.roles resource c ≠ 0 →
    ∃ node, resource = textPart h node KEY_STATUS

/-- Everything but status records is the same. -/
structure SameButStatus (s s' : State H) : Prop where
  registrar : s'.registrar = s.registrar
  admin : s'.resolver.admin = s.resolver.admin
  roles : s'.resolver.roles = s.resolver.roles
  addrs : s'.resolver.addrs = s.resolver.addrs
  texts : ∀ node key, key ≠ KEY_STATUS → s'.resolver.texts node key = s.resolver.texts node key

omit [DecidableEq H] in
theorem SameButStatus.refl (s : State H) : SameButStatus s s :=
  ⟨rfl, rfl, rfl, rfl, fun _ _ _ => rfl⟩

omit [DecidableEq H] in
theorem SameButStatus.trans {s s' s'' : State H} (first : SameButStatus s s')
    (second : SameButStatus s' s'') : SameButStatus s s'' where
  registrar := second.registrar.trans first.registrar
  admin := second.admin.trans first.admin
  roles := second.roles.trans first.roles
  addrs := second.addrs.trans first.addrs
  texts node key other := (second.texts node key other).trans (first.texts node key other)

omit [DecidableEq H] in
/-- Outsiders stay outsiders while only status records change. -/
theorem Outsider.of_same {c : Address} (outsider : Outsider h s c) (same : SameButStatus s s') :
    Outsider h s' c where
  not_owner := by rw [same.registrar]; exact outsider.not_owner
  not_admin := by rw [same.admin]; exact outsider.not_admin
  not_registrar := by rw [same.registrar]; exact outsider.not_registrar
  roles resource some := outsider.roles resource (by rwa [same.roles] at some)

omit [DecidableEq H] in
/-- An outsider passes role checks on status records only. -/
theorem Outsider.status_of_has {c : Address} (outsider : Outsider h s c) {resource : H}
    {mask : Uint256} (asked : mask ≠ 0) (has : Roles.Has s.resolver.roles resource mask c) :
    ∃ node, resource = textPart h node KEY_STATUS :=
  outsider.roles resource fun none => Roles.not_has_of_zero none asked has

/-- A message of an outsider changes nothing but status records. -/
theorem Outsider.perform_same (outsider : Outsider h s m.sender) :
    SameButStatus s (perform h s m) := by
  refine perform_rec (.refl s) fun s' effect => ?_
  cases effect with
  | nameRoles => exact absurd rfl outsider.not_admin
  | textRoles admin =>
      obtain ⟨node, part⟩ := outsider.status_of_has (by decide) admin
      exact absurd part.symm textPart_ne_nodeResource
  | addrRoles admin =>
      obtain ⟨node, part⟩ := outsider.status_of_has (by decide) admin
      exact absurd part.symm textPart_ne_nodeResource
  | text holds =>
      obtain ⟨node, part⟩ := outsider.status_of_has (by decide) holds
      obtain ⟨-, rfl⟩ := textPart_inj part
      exact ⟨rfl, rfl, rfl, rfl, fun _ _ other => Resolver.putText_of_ne (.inr other)⟩
  | addr holds =>
      obtain ⟨node, part⟩ := outsider.status_of_has (by decide) holds
      exact absurd part.symm (textPart_ne_addrPart (by decide))
  | registration fresh grants writes => exact absurd rfl outsider.not_owner
  | policyHash known => exact absurd rfl outsider.not_owner
  | suspension known allowed =>
      exact ⟨rfl, rfl, rfl, rfl, fun _ _ other => Resolver.putText_of_ne (.inr other)⟩
  | ownership => exact absurd rfl outsider.not_owner

/-- However many calls outsiders make, nothing but status records changes. -/
theorem sameButStatus_of_sequence {callers : Set Address} {messages : List (Message H)}
    (outsiders : ∀ c ∈ callers, Outsider h s c)
    (calls : Sequence h (fun _ m => m.sender ∈ callers) s messages s') : SameButStatus s s' := by
  have kept : ∀ t m t', SameButStatus s t → m.sender ∈ callers → some (perform h t m) = some t' →
      SameButStatus s t' := by
    intro t m t' same sent step
    obtain rfl : perform h t m = t' := by simpa using step
    exact same.trans ((outsiders m.sender sent).of_same same).perform_same
  exact calls.invariant kept (.refl s)

/-- Before anything happens, everyone but owner, admin and registrar is an outsider. -/
theorem outsider_deployed {admin owner self c : Address} (notOwner : c ≠ owner)
    (notAdmin : c ≠ admin) (notSelf : c ≠ self) : Outsider h (deployed h admin owner self) c where
  not_owner := notOwner
  not_admin := notAdmin
  not_registrar := notSelf
  roles resource some := by
    have none : Roles.put (fun _ _ => 0) h.zero admin (BitVec.allOnes 256) resource c = 0 :=
      Roles.put_of_ne (.inr notAdmin)
    exact absurd none some

/-- Roles the admin gives to another account. -/
theorem Outsider.nameRoles {c sender account : Address} {toName : Bytes} {roleBitmap : Uint256}
    {grant : Bool} (outsider : Outsider h s c) (other : c ≠ account) :
    Outsider h (perform h s ⟨sender, .authorizeNameRoles toName roleBitmap account grant⟩) c := by
  refine perform_rec (P := (Outsider h · c)) outsider fun s' effect => ?_
  cases effect with
  | nameRoles =>
      refine ⟨outsider.not_owner, outsider.not_admin, outsider.not_registrar, fun resource some => ?_⟩
      rw [Resolver.assign_roles, Roles.assign_of_ne (.inr other)] at some
      exact outsider.roles resource some

/-- A registration leaves outsiders what they were, the session key included. -/
theorem Outsider.registration {c sender : Address} (outsider : Outsider h s c)
    {reg : Registration H} {timestamp : Uint256} {registered : Option Uint256} :
    Outsider h (perform h s ⟨sender, .registerAgent reg timestamp registered⟩) c := by
  refine perform_rec (P := (Outsider h · c)) outsider fun s' effect => ?_
  cases effect with
  | registration fresh grants writes =>
      obtain ⟨roles, admin, -⟩ := writeRecords_ok writes
      refine ⟨outsider.not_owner, ?_, outsider.not_registrar, fun resource some => ?_⟩
      · rw [admin, grantRoles_ok grants]
        exact outsider.not_admin
      · by_cases status : resource = textPart h (h.keccak256 reg.dnsName) KEY_STATUS
        · exact ⟨_, status⟩
        · refine outsider.roles resource fun none => some ?_
          rw [roles, grantRoles_ok grants]
          simp only [Resolver.assign_roles]
          rw [Roles.assign_of_ne (.inr outsider.not_registrar),
            Roles.assign_of_ne (.inr outsider.not_registrar),
            Roles.assign_of_ne (.inr outsider.not_registrar),
            Roles.assign_of_ne (.inr outsider.not_registrar), Roles.assign_of_ne (.inl status),
            Roles.assign_of_ne (.inr outsider.not_owner),
            Roles.assign_of_ne (.inr outsider.not_owner), none]

/-- The session key and any outsiders cannot change an agent's policy, hook
and address records, its entry in the registrar or the registrar's owner. -/
theorem identity_unchanged {callers : Set Address} {messages : List (Message H)} {label : Bytes}
    (outsiders : ∀ c ∈ callers, Outsider h s c)
    (calls : Sequence h (fun _ m => m.sender ∈ callers) s messages s') :
    s'.registrar.agents label = s.registrar.agents label ∧
      s'.registrar.owner = s.registrar.owner ∧
      (∀ key, key = KEY_POLICY ∨ key = KEY_HOOK →
        s'.resolver.texts (s.registrar.agents label).node key =
          s.resolver.texts (s.registrar.agents label).node key) ∧
      ∀ coinType, s'.resolver.addrs (s.registrar.agents label).node coinType =
        s.resolver.addrs (s.registrar.agents label).node coinType := by
  have same := sameButStatus_of_sequence outsiders calls
  refine ⟨by rw [same.registrar], by rw [same.registrar], fun key named => ?_, fun coinType => ?_⟩
  · refine same.texts _ key ?_
    rcases named with rfl | rfl <;> decide
  · rw [same.addrs]

/-! ## The scene of the contract tests -/

/-- `\x06trader\x0aagentproof\x03eth\x00`. -/
def traderDns : Bytes :=
  [6] ++ ascii "trader" ++ [10] ++ ascii "agentproof" ++ [3] ++ ascii "eth" ++ [0]

def traderNode : Digest := .keccak256 traderDns

def trader : Registration Digest where
  label := ascii "trader"
  node := traderNode
  dnsName := traderDns
  account := 0xacc
  sessionKey := 0x5e5
  policyHash := 7
  hook := 0x400c
  duration := 31536000

/-- The registrar `0x4e` of owner `0xa` may delegate on the agent's node. -/
def delegated : State Digest :=
  perform .free (deployed .free 0xad 0xa 0x4e)
    ⟨0xad, .authorizeNameRoles traderDns (SET_TEXT_ADMIN ||| SET_ADDR_ADMIN) 0x4e true⟩

def traderRegistered : State Digest :=
  perform .free delegated ⟨0xa, .registerAgent trader 1000 (some 1)⟩

theorem outsider_traderRegistered {c : Address} (notOwner : c ≠ 0xa) (notAdmin : c ≠ 0xad)
    (notSelf : c ≠ 0x4e) : Outsider .free traderRegistered c := by
  have start : Outsider .free delegated c :=
    (outsider_deployed notOwner notAdmin notSelf).nameRoles notSelf
  exact start.registration

/-- The session key suspends, resumes and tampers, and a stranger tries to take
the registrar over. -/
theorem identity_unchanged_trader :
    let messages : List (Message Digest) :=
      [⟨0x5e5, .suspend (ascii "trader")⟩, ⟨0x5e5, .setText traderNode KEY_STATUS (ascii "active")⟩,
        ⟨0x5e5, .setText traderNode KEY_POLICY (ascii "0x")⟩, ⟨0xbad, .transferOwnership 0xbad⟩]
    let final := messages.foldl (perform .free) traderRegistered
    traderRegistered.Registered (ascii "trader") ∧
      final.registrar.agents (ascii "trader") =
        traderRegistered.registrar.agents (ascii "trader") ∧
      final.registrar.owner = traderRegistered.registrar.owner ∧
      (∀ key, key = KEY_POLICY ∨ key = KEY_HOOK →
        final.resolver.texts (traderRegistered.registrar.agents (ascii "trader")).node key =
          traderRegistered.resolver.texts
            (traderRegistered.registrar.agents (ascii "trader")).node key) ∧
      ∀ coinType,
        final.resolver.addrs (traderRegistered.registrar.agents (ascii "trader")).node coinType =
          traderRegistered.resolver.addrs
            (traderRegistered.registrar.agents (ascii "trader")).node coinType := by
  intro messages final
  refine ⟨by decide +kernel, ?_⟩
  have outsiders : ∀ c ∈ ({0x5e5, 0xbad} : Set Address), Outsider .free traderRegistered c := by
    rintro c (rfl | rfl) <;> exact outsider_traderRegistered (by decide) (by decide) (by decide)
  have sent : ∀ (_ : State Digest), ∀ m ∈ messages, m.sender ∈ ({0x5e5, 0xbad} : Set Address) := by
    intro _ m sent
    simp only [messages, List.mem_cons, List.not_mem_nil, or_false] at sent
    rcases sent with rfl | rfl | rfl | rfl <;> simp
  exact identity_unchanged outsiders (sequence_foldl sent)

end Ens

end AgentProof
