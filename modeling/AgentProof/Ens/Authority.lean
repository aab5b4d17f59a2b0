import AgentProof.Ens.Registrar

/-!
# What one message can change

The authority a message takes, by what it changes: a text record
(`text_perform`), a write role on one (`holdsText_of_perform` for a role
gained, `holdsText_perform` for one lost), an entry of the registrar
(`registered_of_perform`) and its owner (`owner_perform`).
-/

namespace AgentProof

namespace Ens

variable {H : Type} [DecidableEq H] (h : Hashing H)

/-- The account may write the text record. -/
def HoldsText (s : State H) (node : H) (key : Bytes) (a : Address) : Prop :=
  Roles.Has s.resolver.roles (textPart h node key) SET_TEXT a

instance (s : State H) (node : H) (key : Bytes) (a : Address) :
    Decidable (HoldsText h s node key a) :=
  inferInstanceAs (Decidable (Roles.Has _ _ _ _))

/-- The account may grant and revoke write roles on the node's text records. -/
def AdministersText (s : State H) (toName : Bytes) (a : Address) : Prop :=
  Roles.Has s.resolver.roles (nodeResource h (h.keccak256 toName)) SET_TEXT_ADMIN a

/-! ## One message -/

/-- The messages that can write a text record, with the value they write. -/
inductive TextWrite (s : State H) (node : H) (key : Bytes) : Message H → Bytes → Prop
  | direct {sender value} (holds : HoldsText h s node key sender) :
      TextWrite s node key ⟨sender, .setText node key value⟩ value
  | owner {call value} : TextWrite s node key ⟨s.registrar.owner, call⟩ value
  | suspension {sender label} (status : key = KEY_STATUS) :
      TextWrite s node key ⟨sender, .suspend label⟩ (ascii "suspended")

/-- The messages that can give an account a write role on a text record. -/
inductive TextGrant (s : State H) (node : H) (key : Bytes) (a : Address) : Message H → Prop
  | direct {sender toName} (named : h.keccak256 toName = node)
      (admin : AdministersText h s toName sender) :
      TextGrant s node key a ⟨sender, .authorizeTextRoles toName key a true⟩
  | registration {reg timestamp registered}
      (party : a = s.registrar.owner ∨ a = s.registrar.self ∨ key = KEY_STATUS) :
      TextGrant s node key a ⟨s.registrar.owner, .registerAgent reg timestamp registered⟩

/-- The messages that can take one away. -/
inductive TextRevocation (s : State H) (node : H) (key : Bytes) (a : Address) : Message H → Prop
  | direct {sender toName} (named : h.keccak256 toName = node)
      (admin : AdministersText h s toName sender) :
      TextRevocation s node key a ⟨sender, .authorizeTextRoles toName key a false⟩

variable {h} {s s' : State H} {m : Message H} {node : H} {key : Bytes} {a : Address}

/-- A text record is as before, or the message was entitled to write it. -/
theorem text_perform (m : Message H) (node : H) (key : Bytes) :
    (perform h s m).resolver.texts node key = s.resolver.texts node key ∨
      TextWrite h s node key m ((perform h s m).resolver.texts node key) := by
  refine perform_rec (P := fun s' => s'.resolver.texts node key = s.resolver.texts node key ∨
    TextWrite h s node key m (s'.resolver.texts node key)) (.inl rfl) fun s' effect => ?_
  cases effect with
  | nameRoles => exact .inl rfl
  | textRoles admin => exact .inl rfl
  | addrRoles admin => exact .inl rfl
  | @text sender node' key' value holds =>
      by_cases same : node = node' ∧ key = key'
      · obtain ⟨rfl, rfl⟩ := same
        rw [Resolver.putText_self]
        exact .inr (.direct holds)
      · exact .inl (Resolver.putText_of_ne (not_and_or.mp same))
  | addr holds => exact .inl rfl
  | registration fresh grants writes => exact .inr .owner
  | policyHash known => exact .inr .owner
  | @suspension sender label known allowed =>
      by_cases same : node = (s.registrar.agents label).node ∧ key = KEY_STATUS
      · obtain ⟨rfl, rfl⟩ := same
        rw [Resolver.putText_self]
        exact .inr (.suspension rfl)
      · exact .inl (Resolver.putText_of_ne (not_and_or.mp same))
  | ownership => exact .inr .owner

/-- A role assignment elsewhere. -/
theorem holdsText_assign {r : Resolver H} {resource : H} {mask : Uint256} {account : Address}
    {grant : Bool} (other : textPart h node key ≠ resource ∨ a ≠ account) :
    Roles.Has (r.assign resource mask account grant).roles (textPart h node key) SET_TEXT a ↔
      Roles.Has r.roles (textPart h node key) SET_TEXT a :=
  Roles.has_assign_of_ne other

/-- The grants of a registration give write roles to the owner, the registrar
and, on the status record, the session key. -/
theorem grantRoles_gain {r granted : Resolver H} {self owner : Address} {reg : Registration H}
    (ok : grantRoles h r self owner reg = .ok granted)
    (holds : Roles.Has granted.roles (textPart h node key) SET_TEXT a) :
    Roles.Has r.roles (textPart h node key) SET_TEXT a ∨ a = owner ∨ a = self ∨
      key = KEY_STATUS := by
  by_contra none
  simp only [not_or] at none
  obtain ⟨fresh, notOwner, notSelf, notStatus⟩ := none
  have notStatusPart {node'} : textPart h node key ≠ textPart h node' KEY_STATUS := by
    intro same
    exact notStatus (textPart_inj same).2
  rw [grantRoles_ok ok, holdsText_assign (.inr notSelf), holdsText_assign (.inr notSelf),
    holdsText_assign (.inr notSelf), holdsText_assign (.inr notSelf),
    holdsText_assign (.inl notStatusPart), holdsText_assign (.inr notOwner),
    holdsText_assign (.inr notOwner)] at holds
  exact fresh holds

/-- A registration takes no role away. -/
theorem grantRoles_mono {r granted : Resolver H} {self owner : Address} {reg : Registration H}
    {resource : H} {mask : Uint256} (ok : grantRoles h r self owner reg = .ok granted)
    (holds : Roles.Has r.roles resource mask a) : Roles.Has granted.roles resource mask a := by
  rw [grantRoles_ok ok]
  exact holds.granted.granted.granted.granted.granted.granted.granted

/-- An account that may write a text record could before, or was given the role. -/
theorem holdsText_of_perform (holds : HoldsText h (perform h s m) node key a) :
    HoldsText h s node key a ∨ TextGrant h s node key a m := by
  revert holds
  refine perform_rec (P := fun s' => HoldsText h s' node key a →
    HoldsText h s node key a ∨ TextGrant h s node key a m) .inl fun s' effect holds => ?_
  cases effect with
  | nameRoles => exact .inl ((holdsText_assign (.inl textPart_ne_nodeResource)).mp holds)
  | @textRoles sender toName key' account grant admin =>
      by_cases same : textPart h node key = textPart h (h.keccak256 toName) key' ∧ a = account
      · obtain ⟨parts, rfl⟩ := same
        obtain ⟨rfl, rfl⟩ := textPart_inj parts
        cases grant with
        | true => exact .inr (.direct rfl admin)
        | false => exact .inl (Roles.Has.of_revoked holds)
      · exact .inl ((holdsText_assign (not_and_or.mp same)).mp holds)
  | addrRoles admin => exact .inl ((Roles.has_assign_of_disjoint (by decide)).mp holds)
  | registration fresh grants writes =>
      unfold HoldsText at holds
      rw [(writeRecords_ok writes).1] at holds
      rcases grantRoles_gain grants holds with before | party
      · exact .inl before
      · exact .inr (.registration party)
  | text _ | addr _ | policyHash _ | suspension _ _ | ownership => exact .inl holds

/-- An account that might write a text record still may, or lost the role. -/
theorem holdsText_perform (holds : HoldsText h s node key a) :
    HoldsText h (perform h s m) node key a ∨ TextRevocation h s node key a m := by
  refine perform_rec (P := fun s' => HoldsText h s' node key a ∨
    TextRevocation h s node key a m) (.inl holds) fun s' effect => ?_
  cases effect with
  | nameRoles => exact .inl ((holdsText_assign (.inl textPart_ne_nodeResource)).mpr holds)
  | @textRoles sender toName key' account grant admin =>
      by_cases same : textPart h node key = textPart h (h.keccak256 toName) key' ∧ a = account
      · obtain ⟨parts, rfl⟩ := same
        obtain ⟨rfl, rfl⟩ := textPart_inj parts
        cases grant with
        | true => exact .inl (Roles.Has.granted holds)
        | false => exact .inr (.direct rfl admin)
      · exact .inl ((holdsText_assign (not_and_or.mp same)).mpr holds)
  | addrRoles admin => exact .inl ((Roles.has_assign_of_disjoint (by decide)).mpr holds)
  | registration fresh grants writes =>
      unfold HoldsText
      rw [(writeRecords_ok writes).1]
      exact .inl (grantRoles_mono grants holds)
  | text _ | addr _ | policyHash _ | suspension _ _ | ownership => exact .inl holds

/-- A registered agent was registered before, or is the one of this message,
which the registrar could write the policy of. -/
theorem registered_of_perform {label : Bytes} (known : (perform h s m).Registered label) :
    (s.Registered label ∧
        ((perform h s m).registrar.agents label).node = (s.registrar.agents label).node) ∨
      ∃ reg timestamp registered,
        m = ⟨s.registrar.owner, .registerAgent reg timestamp registered⟩ ∧
          ((perform h s m).registrar.agents label).node = reg.node ∧
          HoldsText h (perform h s m) reg.node KEY_POLICY s.registrar.self := by
  revert known
  refine perform_rec (P := fun s' => s'.Registered label →
    (s.Registered label ∧
        (s'.registrar.agents label).node = (s.registrar.agents label).node) ∨
      ∃ reg timestamp registered,
        m = ⟨s.registrar.owner, .registerAgent reg timestamp registered⟩ ∧
          (s'.registrar.agents label).node = reg.node ∧
          HoldsText h s' reg.node KEY_POLICY s.registrar.self)
    (fun known => .inl ⟨known, rfl⟩) fun s' effect known => ?_
  cases effect with
  | @registration reg timestamp registered granted resolver fresh grants writes =>
      by_cases same : label = reg.label
      · subst same
        obtain ⟨roles, -, policy⟩ := writeRecords_ok writes
        refine .inr ⟨reg, timestamp, registered, rfl, by rw [store_self], ?_⟩
        unfold HoldsText
        rw [roles]
        exact policy
      · unfold State.Registered at known
        rw [store_of_ne same] at known
        exact .inl ⟨known, by rw [store_of_ne same]⟩
  | @policyHash label' newHash known' =>
      by_cases same : label = label'
      · subst same
        exact .inl ⟨known', by rw [store_self]⟩
      · unfold State.Registered at known
        rw [store_of_ne same] at known
        exact .inl ⟨known, by rw [store_of_ne same]⟩
  | nameRoles | textRoles _ | addrRoles _ | text _ | addr _ | suspension _ _ | ownership =>
      exact .inl ⟨known, rfl⟩

/-- The owner changes only by its own transfer. -/
theorem owner_perform (m : Message H) :
    (perform h s m).registrar.owner = s.registrar.owner ∨
      ∃ next, m = ⟨s.registrar.owner, .transferOwnership next⟩ ∧
        (perform h s m).registrar.owner = next := by
  refine perform_rec (P := fun s' => s'.registrar.owner = s.registrar.owner ∨
    ∃ next, m = ⟨s.registrar.owner, .transferOwnership next⟩ ∧ s'.registrar.owner = next)
    (.inl rfl) fun s' effect => ?_
  cases effect with
  | @ownership next => exact .inr ⟨next, rfl, rfl⟩
  | nameRoles | textRoles _ | addrRoles _ | text _ | addr _ | registration _ _ _ | policyHash _
  | suspension _ _ => exact .inl rfl

@[simp] theorem self_perform : (perform h s m).registrar.self = s.registrar.self := by
  refine perform_rec (P := fun s' => s'.registrar.self = s.registrar.self) rfl fun s' effect => ?_
  cases effect <;> rfl

end Ens

end AgentProof
