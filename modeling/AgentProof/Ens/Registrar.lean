import AgentProof.Ens.Resolver
import AgentProof.Lib.Runs

/-!
# The subname registrar

`AgentSubnameRegistrar.sol` on top of the resolver it writes to.  The two
contracts make one state, `Ens`, which a call from outside moves; a call that
reverts leaves it as it was.  The registry is another contract: its answer to
`register` comes with the call, as does the block's timestamp.
-/

namespace AgentProof

namespace Ens

def KEY_POLICY : Bytes := ascii "agentproof.policy"
def KEY_HOOK : Bytes := ascii "agentproof.hook"
def KEY_STATUS : Bytes := ascii "agentproof.status"

def COIN_TYPE_ETH : Uint256 := 60

/-- The loop of `_toHexString`: `n` digits, the lowest one last. -/
def hexDigits : Nat → Uint256 → Bytes → Bytes
  | 0, _, buffer => buffer
  | n + 1, value, buffer =>
      let nibble : Byte := (value &&& 0xf).setWidth 8
      let digit := if nibble.toNat < 10 then nibble + 48 else nibble + 87
      hexDigits n (value >>> 4) (digit :: buffer)

/-- `_toHexString(value, length)`. -/
def toHexString (value : Uint256) (length : Nat) : Bytes :=
  ascii "0x" ++ hexDigits (2 * length) value []

structure Agent (H : Type) where
  account : Address
  sessionKey : Address
  policyHash : Bytes32
  node : H
  registeredAt : Uint64
  deriving DecidableEq, Repr

/-- The storage of the registrar; `self` is `address(this)`. -/
structure Registrar (H : Type) where
  self : Address
  owner : Address
  agents : Bytes → Agent H

/-- `agents[label] = agent`. -/
def Registrar.store {H : Type} (g : Registrar H) (label : Bytes) (agent : Agent H) : Registrar H :=
  { g with agents := fun l => if l = label then agent else g.agents l }

/-- The registrar and its resolver. -/
structure State (H : Type) where
  resolver : Resolver H
  registrar : Registrar H

/-- The arguments of `registerAgent`. -/
structure Registration (H : Type) where
  label : Bytes
  node : H
  dnsName : Bytes
  account : Address
  sessionKey : Address
  policyHash : Bytes32
  hook : Address
  duration : Uint64
  deriving DecidableEq, Repr

variable {H : Type} [DecidableEq H] (h : Hashing H)

/-- Both contracts just deployed, by `admin` and by `owner`. -/
def deployed (admin owner self : Address) : State H where
  resolver := .deployed h admin
  registrar := ⟨self, owner, fun _ => ⟨0, 0, 0, h.zero, 0⟩⟩

/-- `agents[label].account != address(0)`. -/
def State.Registered (s : State H) (label : Bytes) : Prop :=
  (s.registrar.agents label).account ≠ 0

instance (s : State H) (label : Bytes) : Decidable (s.Registered label) :=
  inferInstanceAs (Decidable (_ ≠ _))

/-- The roles `registerAgent` has the resolver grant, in its order. -/
def grantRoles (r : Resolver H) (self owner : Address) (reg : Registration H) :
    Except Revert (Resolver H) := do
  let r ← r.authorizeTextRoles h self reg.dnsName KEY_POLICY owner true
  let r ← r.authorizeTextRoles h self reg.dnsName KEY_HOOK owner true
  let r ← r.authorizeTextRoles h self reg.dnsName KEY_STATUS reg.sessionKey true
  let r ← r.authorizeTextRoles h self reg.dnsName KEY_POLICY self true
  let r ← r.authorizeTextRoles h self reg.dnsName KEY_HOOK self true
  let r ← r.authorizeTextRoles h self reg.dnsName KEY_STATUS self true
  r.authorizeAddrRoles h self reg.dnsName COIN_TYPE_ETH self true

/-- The records `registerAgent` writes, in its order. -/
def writeRecords (r : Resolver H) (self : Address) (reg : Registration H) :
    Except Revert (Resolver H) := do
  let r ← r.setAddr h self reg.node COIN_TYPE_ETH (Bytes.ofNat 20 reg.account.toNat)
  let r ← r.setText h self reg.node KEY_POLICY (toHexString reg.policyHash 32)
  let r ← r.setText h self reg.node KEY_HOOK (toHexString (reg.hook.setWidth 256) 20)
  r.setText h self reg.node KEY_STATUS (ascii "active")

/-- `registered` is what `registry.register` answers, if it does not revert. -/
def registerAgent (s : State H) (sender : Address) (reg : Registration H) (timestamp : Uint256)
    (registered : Option Uint256) : Except Revert (State H) :=
  if sender ≠ s.registrar.owner then .error .notOwner
  else if s.Registered reg.label then .error (.labelTaken reg.label)
  else if reg.account = 0 ∨ reg.sessionKey = 0 then .error .zeroAddress
  else if 2 ^ 64 ≤ (timestamp.setWidth 64).toNat + reg.duration.toNat then .error .panic
  else if registered = none then .error .registry
  else do
    let granted ← grantRoles h s.resolver s.registrar.self s.registrar.owner reg
    let resolver ← writeRecords h granted s.registrar.self reg
    let agent : Agent H :=
      ⟨reg.account, reg.sessionKey, reg.policyHash, reg.node, timestamp.setWidth 64⟩
    .ok ⟨resolver, s.registrar.store reg.label agent⟩

def setPolicyHash (s : State H) (sender : Address) (label : Bytes) (newHash : Bytes32) :
    Except Revert (State H) :=
  let a := s.registrar.agents label
  if a.account = 0 then .error (.unknownAgent label)
  else if sender ≠ s.registrar.owner then .error .notOwner
  else do
    let resolver ← s.resolver.setText h s.registrar.self a.node KEY_POLICY (toHexString newHash 32)
    .ok ⟨resolver, s.registrar.store label { a with policyHash := newHash }⟩

def suspend (s : State H) (sender : Address) (label : Bytes) : Except Revert (State H) :=
  let a := s.registrar.agents label
  if a.account = 0 then .error (.unknownAgent label)
  else if sender ≠ a.sessionKey ∧ sender ≠ s.registrar.owner then .error .notSessionKey
  else do
    let resolver ← s.resolver.setText h s.registrar.self a.node KEY_STATUS (ascii "suspended")
    .ok { s with resolver := resolver }

def transferOwnership (s : State H) (sender next : Address) : Except Revert (State H) :=
  if sender ≠ s.registrar.owner then .error .notOwner
  else if next = 0 then .error .zeroAddress
  else .ok { s with registrar := { s.registrar with owner := next } }

/-! ## Calls from outside -/

/-- The external functions of the two contracts that can write; the views
leave the state alone. -/
inductive Call (H : Type)
  | authorizeNameRoles (toName : Bytes) (roleBitmap : Uint256) (account : Address) (grant : Bool)
  | authorizeTextRoles (toName key : Bytes) (account : Address) (grant : Bool)
  | authorizeAddrRoles (toName : Bytes) (coinType : Uint256) (account : Address) (grant : Bool)
  | setText (node : H) (key value : Bytes)
  | setAddr (node : H) (coinType : Uint256) (addressBytes : Bytes)
  | registerAgent (reg : Registration H) (timestamp : Uint256) (registered : Option Uint256)
  | setPolicyHash (label : Bytes) (newHash : Bytes32)
  | suspend (label : Bytes)
  | transferOwnership (next : Address)
  deriving DecidableEq

/-- A call with its `msg.sender`. -/
structure Message (H : Type) where
  sender : Address
  call : Call H
  deriving DecidableEq

/-- A call to the resolver leaves the registrar alone. -/
def State.onResolver (s : State H) (result : Except Revert (Resolver H)) :
    Except Revert (State H) :=
  result.map fun resolver => { s with resolver := resolver }

/-- What a message does, or the error it reverts with. -/
def execute (s : State H) (m : Message H) : Except Revert (State H) :=
  match m.call with
  | .authorizeNameRoles toName roleBitmap account grant =>
      s.onResolver (s.resolver.authorizeNameRoles h m.sender toName roleBitmap account grant)
  | .authorizeTextRoles toName key account grant =>
      s.onResolver (s.resolver.authorizeTextRoles h m.sender toName key account grant)
  | .authorizeAddrRoles toName coinType account grant =>
      s.onResolver (s.resolver.authorizeAddrRoles h m.sender toName coinType account grant)
  | .setText node key value => s.onResolver (s.resolver.setText h m.sender node key value)
  | .setAddr node coinType addressBytes =>
      s.onResolver (s.resolver.setAddr h m.sender node coinType addressBytes)
  | .registerAgent reg timestamp registered => registerAgent h s m.sender reg timestamp registered
  | .setPolicyHash label newHash => setPolicyHash h s m.sender label newHash
  | .suspend label => suspend h s m.sender label
  | .transferOwnership next => transferOwnership s m.sender next

/-- The state after a message; a revert changes nothing. -/
def perform (s : State H) (m : Message H) : State H :=
  match execute h s m with
  | .ok s' => s'
  | .error _ => s

/-- Messages one after another, under a condition on each and the state it meets. -/
abbrev Sequence (Meets : State H → Message H → Prop) :=
  Runs.Run (fun s m => some (perform h s m)) Meets

/-- What a message that does not revert does, with what the contracts checked. -/
inductive Effect (s : State H) : Message H → State H → Prop
  | nameRoles {toName roleBitmap account grant} :
      Effect s ⟨s.resolver.admin, .authorizeNameRoles toName roleBitmap account grant⟩
        { s with resolver :=
            s.resolver.assign (nodeResource h (h.keccak256 toName)) roleBitmap account grant }
  | textRoles {sender toName key account grant}
      (admin : Roles.Has s.resolver.roles (nodeResource h (h.keccak256 toName)) SET_TEXT_ADMIN
        sender) :
      Effect s ⟨sender, .authorizeTextRoles toName key account grant⟩
        { s with resolver :=
            s.resolver.assign (textPart h (h.keccak256 toName) key) SET_TEXT account grant }
  | addrRoles {sender toName coinType account grant}
      (admin : Roles.Has s.resolver.roles (nodeResource h (h.keccak256 toName)) SET_ADDR_ADMIN
        sender) :
      Effect s ⟨sender, .authorizeAddrRoles toName coinType account grant⟩
        { s with resolver :=
            s.resolver.assign (addrPart h (h.keccak256 toName) coinType) SET_ADDR account grant }
  | text {sender node key value}
      (holds : Roles.Has s.resolver.roles (textPart h node key) SET_TEXT sender) :
      Effect s ⟨sender, .setText node key value⟩
        { s with resolver := s.resolver.putText node key value }
  | addr {sender node coinType addressBytes}
      (holds : Roles.Has s.resolver.roles (addrPart h node coinType) SET_ADDR sender) :
      Effect s ⟨sender, .setAddr node coinType addressBytes⟩
        { s with resolver := s.resolver.putAddr node coinType addressBytes }
  | registration {reg timestamp registered granted resolver} (fresh : ¬ s.Registered reg.label)
      (grants : grantRoles h s.resolver s.registrar.self s.registrar.owner reg = .ok granted)
      (writes : writeRecords h granted s.registrar.self reg = .ok resolver) :
      Effect s ⟨s.registrar.owner, .registerAgent reg timestamp registered⟩
        ⟨resolver, s.registrar.store reg.label
          ⟨reg.account, reg.sessionKey, reg.policyHash, reg.node, timestamp.setWidth 64⟩⟩
  | policyHash {label newHash} (known : s.Registered label) :
      Effect s ⟨s.registrar.owner, .setPolicyHash label newHash⟩
        ⟨s.resolver.putText (s.registrar.agents label).node KEY_POLICY (toHexString newHash 32),
          s.registrar.store label { s.registrar.agents label with policyHash := newHash }⟩
  | suspension {sender label} (known : s.Registered label)
      (allowed : sender = (s.registrar.agents label).sessionKey ∨ sender = s.registrar.owner) :
      Effect s ⟨sender, .suspend label⟩
        { s with resolver := s.resolver.putText (s.registrar.agents label).node KEY_STATUS
                  (ascii "suspended") }
  | ownership {next} :
      Effect s ⟨s.registrar.owner, .transferOwnership next⟩
        { s with registrar := { s.registrar with owner := next } }

/-! ## What a successful call does -/

variable {h} {s s' : State H} {m : Message H} {sender next : Address} {label : Bytes}
  {newHash : Bytes32} {reg : Registration H} {timestamp : Uint256} {registered : Option Uint256}

omit [DecidableEq H] in
@[simp] theorem store_self (g : Registrar H) (agent : Agent H) :
    (g.store label agent).agents label = agent :=
  if_pos rfl

omit [DecidableEq H] in
theorem store_of_ne {g : Registrar H} {agent : Agent H} {other : Bytes} (different : other ≠ label) :
    (g.store label agent).agents other = g.agents other :=
  if_neg different

theorem perform_of_ok (ok : execute h s m = .ok s') : perform h s m = s' := by
  unfold perform
  rw [ok]

/-- A call that goes through leaves the state `perform` gives. -/
theorem ok_perform (accepted : (execute h s m).isOk = true) :
    execute h s m = .ok (perform h s m) := by
  cases outcome : execute h s m with
  | error e => simp [outcome, Except.isOk, Except.toBool] at accepted
  | ok s' => rw [perform_of_ok outcome]

/-- Messages whose condition does not depend on the state. -/
theorem sequence_foldl {Meets : State H → Message H → Prop} {messages : List (Message H)}
    (met : ∀ s, ∀ m ∈ messages, Meets s m) :
    Sequence h Meets s messages (messages.foldl (perform h) s) := by
  induction messages generalizing s with
  | nil => exact .nil
  | cons m messages ih =>
      exact .cons (met s m List.mem_cons_self) rfl
        (ih fun s m' later => met s m' (List.mem_cons_of_mem m later))

omit [DecidableEq H] in
theorem onResolver_eq_ok {result : Except Revert (Resolver H)} :
    s.onResolver result = .ok s' ↔ ∃ r, result = .ok r ∧ { s with resolver := r } = s' := by
  cases result with
  | error e => simp [State.onResolver, Except.map]
  | ok r => simp [State.onResolver, Except.map]

theorem setPolicyHash_eq_ok :
    setPolicyHash h s sender label newHash = .ok s' ↔
      s.Registered label ∧ sender = s.registrar.owner ∧
        Roles.Has s.resolver.roles (textPart h (s.registrar.agents label).node KEY_POLICY)
          SET_TEXT s.registrar.self ∧
        State.mk
          (s.resolver.putText (s.registrar.agents label).node KEY_POLICY (toHexString newHash 32))
          (s.registrar.store label { s.registrar.agents label with policyHash := newHash }) = s' := by
  unfold setPolicyHash
  simp only [guard_eq_ok_iff, bind_eq_ok_iff, not_not, Resolver.setText_eq_ok, Except.ok.injEq]
  constructor
  · rintro ⟨known, owner, resolver, ⟨holds, rfl⟩, rfl⟩
    exact ⟨known, owner, holds, rfl⟩
  · rintro ⟨known, owner, holds, rfl⟩
    exact ⟨known, owner, _, ⟨holds, rfl⟩, rfl⟩

theorem suspend_eq_ok :
    suspend h s sender label = .ok s' ↔
      s.Registered label ∧
        (sender = (s.registrar.agents label).sessionKey ∨ sender = s.registrar.owner) ∧
        Roles.Has s.resolver.roles (textPart h (s.registrar.agents label).node KEY_STATUS)
          SET_TEXT s.registrar.self ∧
        { s with resolver := s.resolver.putText (s.registrar.agents label).node KEY_STATUS
                  (ascii "suspended") } = s' := by
  unfold suspend
  simp only [guard_eq_ok_iff, bind_eq_ok_iff, not_and_or, not_not, Resolver.setText_eq_ok,
    Except.ok.injEq]
  constructor
  · rintro ⟨known, allowed, resolver, ⟨holds, rfl⟩, rfl⟩
    exact ⟨known, allowed, holds, rfl⟩
  · rintro ⟨known, allowed, holds, rfl⟩
    exact ⟨known, allowed, _, ⟨holds, rfl⟩, rfl⟩

omit [DecidableEq H] in
theorem transferOwnership_eq_ok :
    transferOwnership s sender next = .ok s' ↔
      sender = s.registrar.owner ∧ next ≠ 0 ∧
        { s with registrar := { s.registrar with owner := next } } = s' := by
  unfold transferOwnership
  rw [guard_eq_ok_iff, guard_eq_ok_iff, not_not, Except.ok.injEq]

/-- The grants of a registration, as one update of the resolver after another. -/
theorem grantRoles_ok {r granted : Resolver H} {self owner : Address}
    (ok : grantRoles h r self owner reg = .ok granted) :
    granted =
      ((((((r.assign (textPart h (h.keccak256 reg.dnsName) KEY_POLICY) SET_TEXT owner true).assign
        (textPart h (h.keccak256 reg.dnsName) KEY_HOOK) SET_TEXT owner true).assign
        (textPart h (h.keccak256 reg.dnsName) KEY_STATUS) SET_TEXT reg.sessionKey true).assign
        (textPart h (h.keccak256 reg.dnsName) KEY_POLICY) SET_TEXT self true).assign
        (textPart h (h.keccak256 reg.dnsName) KEY_HOOK) SET_TEXT self true).assign
        (textPart h (h.keccak256 reg.dnsName) KEY_STATUS) SET_TEXT self true).assign
        (addrPart h (h.keccak256 reg.dnsName) COIN_TYPE_ETH) SET_ADDR self true := by
  simp only [grantRoles, bind_eq_ok_iff, Resolver.authorizeTextRoles_eq_ok,
    Resolver.authorizeAddrRoles_eq_ok] at ok
  obtain ⟨_, ⟨-, rfl⟩, _, ⟨-, rfl⟩, _, ⟨-, rfl⟩, _, ⟨-, rfl⟩, _, ⟨-, rfl⟩, _, ⟨-, rfl⟩, -, rfl⟩ :=
    ok
  rfl

/-- Writing the records changes no role, and takes the registrar's. -/
theorem writeRecords_ok {r written : Resolver H} {self : Address}
    (ok : writeRecords h r self reg = .ok written) :
    written.roles = r.roles ∧ written.admin = r.admin ∧
      Roles.Has r.roles (textPart h reg.node KEY_POLICY) SET_TEXT self := by
  simp only [writeRecords, bind_eq_ok_iff, Resolver.setText_eq_ok, Resolver.setAddr_eq_ok] at ok
  obtain ⟨_, ⟨-, rfl⟩, _, ⟨policy, rfl⟩, _, ⟨-, rfl⟩, -, rfl⟩ := ok
  exact ⟨rfl, rfl, policy⟩

theorem registerAgent_ok (ok : registerAgent h s sender reg timestamp registered = .ok s') :
    sender = s.registrar.owner ∧ ¬ s.Registered reg.label ∧
      ∃ granted resolver,
        grantRoles h s.resolver s.registrar.self s.registrar.owner reg = .ok granted ∧
        writeRecords h granted s.registrar.self reg = .ok resolver ∧
        s' = ⟨resolver, s.registrar.store reg.label
          ⟨reg.account, reg.sessionKey, reg.policyHash, reg.node, timestamp.setWidth 64⟩⟩ := by
  simp only [registerAgent, guard_eq_ok_iff, bind_eq_ok_iff, not_not, Except.ok.injEq] at ok
  obtain ⟨owner, fresh, -, -, -, granted, grants, resolver, writes, rfl⟩ := ok
  exact ⟨owner, fresh, granted, resolver, grants, writes, rfl⟩

theorem effect_of_execute (ok : execute h s m = .ok s') : Effect h s m s' := by
  obtain ⟨sender, call⟩ := m
  cases call with
  | authorizeNameRoles toName roleBitmap account grant =>
      obtain ⟨_, done, rfl⟩ := onResolver_eq_ok.mp ok
      obtain ⟨rfl, rfl⟩ := Resolver.authorizeNameRoles_eq_ok.mp done
      exact .nameRoles
  | authorizeTextRoles toName key account grant =>
      obtain ⟨_, done, rfl⟩ := onResolver_eq_ok.mp ok
      obtain ⟨admin, rfl⟩ := Resolver.authorizeTextRoles_eq_ok.mp done
      exact .textRoles admin
  | authorizeAddrRoles toName coinType account grant =>
      obtain ⟨_, done, rfl⟩ := onResolver_eq_ok.mp ok
      obtain ⟨admin, rfl⟩ := Resolver.authorizeAddrRoles_eq_ok.mp done
      exact .addrRoles admin
  | setText node key value =>
      obtain ⟨_, done, rfl⟩ := onResolver_eq_ok.mp ok
      obtain ⟨holds, rfl⟩ := Resolver.setText_eq_ok.mp done
      exact .text holds
  | setAddr node coinType addressBytes =>
      obtain ⟨_, done, rfl⟩ := onResolver_eq_ok.mp ok
      obtain ⟨holds, rfl⟩ := Resolver.setAddr_eq_ok.mp done
      exact .addr holds
  | registerAgent reg timestamp registered =>
      obtain ⟨rfl, fresh, granted, resolver, grants, writes, rfl⟩ := registerAgent_ok ok
      exact .registration fresh grants writes
  | setPolicyHash label newHash =>
      obtain ⟨known, rfl, -, rfl⟩ := setPolicyHash_eq_ok.mp ok
      exact .policyHash known
  | suspend label =>
      obtain ⟨known, allowed, -, rfl⟩ := suspend_eq_ok.mp ok
      exact .suspension known allowed
  | transferOwnership next =>
      obtain ⟨rfl, -, rfl⟩ := transferOwnership_eq_ok.mp ok
      exact .ownership

/-- What holds before a message and after any effect it can have holds after it. -/
theorem perform_rec {P : State H → Prop} (before : P s)
    (success : ∀ s', Effect h s m s' → P s') : P (perform h s m) := by
  unfold perform
  split
  · next s' ok => exact success s' (effect_of_execute ok)
  · exact before

end Ens

end AgentProof
