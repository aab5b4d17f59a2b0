import AgentProof.Evm.Calldata
import AgentProof.Lib.Roles

/-!
# The permissioned resolver

`MockPermissionedResolver.sol`: text and address records by node, and the roles
that gate every write.  A Solidity string is its bytes.  Hashes are symbolic:
`Hashing` is what the contracts use of keccak256, with the collision freedom
they rely on as fields.

Each entry point gets one lemma that says when a call succeeds and what it
leaves behind.
-/

namespace AgentProof

namespace Ens

/-- `keccak256`, and `keccak256(abi.encode(node, part))` for a resource, without
collisions.  `zero` is `bytes32(0)`, which is no hash. -/
structure Hashing (H : Type) where
  keccak256 : Bytes → H
  resource : H → H → H
  zero : H
  keccak256_inj : ∀ {bs bs'}, keccak256 bs = keccak256 bs' → bs = bs'
  resource_inj : ∀ {n p n' p'}, resource n p = resource n' p' → n = n' ∧ p = p'
  keccak256_ne_zero : ∀ bs, keccak256 bs ≠ zero

/-- Hashes as terms: the free instance. -/
inductive Digest
  | zero
  | keccak256 (bs : Bytes)
  | resource (node part : Digest)
  deriving DecidableEq, Repr

/-- Free terms do not collide. -/
def Hashing.free : Hashing Digest where
  keccak256 := .keccak256
  resource := .resource
  zero := .zero
  keccak256_inj same := Digest.keccak256.inj same
  resource_inj same := Digest.resource.inj same
  keccak256_ne_zero _ := Digest.noConfusion

/-- The bytes of an ASCII literal. -/
def ascii (s : String) : Bytes := s.toList.map fun c => BitVec.ofNat 8 c.toNat

/-- The calls that fail, with their custom errors; `registry` is a revert of
the registry and `panic` a checked addition that overflows. -/
inductive Revert
  | unauthorised (account : Address)
  | notOwner
  | notSessionKey
  | labelTaken (label : Bytes)
  | unknownAgent (label : Bytes)
  | zeroAddress
  | registry
  | panic
  deriving DecidableEq, Repr

def SET_ADDR : Uint256 := 1 <<< 0
def SET_ADDR_ADMIN : Uint256 := SET_ADDR <<< 128
def SET_TEXT : Uint256 := 1 <<< 4
def SET_TEXT_ADMIN : Uint256 := SET_TEXT <<< 128

/-- The storage of the resolver; `admin` is immutable. -/
structure Resolver (H : Type) where
  admin : Address
  roles : Roles.Table H Address 256
  texts : H → Bytes → Bytes
  addrs : H → Uint256 → Bytes

variable {H : Type} (h : Hashing H)

/-- `_nodeResource(node)`. -/
def nodeResource (node : H) : H := h.resource node h.zero

/-- `_part(node, keccak256(bytes(key)))`. -/
def textPart (node : H) (key : Bytes) : H := h.resource node (h.keccak256 key)

/-- `_part(node, keccak256(abi.encode(coinType)))`. -/
def addrPart (node : H) (coinType : Uint256) : H :=
  h.resource node (h.keccak256 (wordBytes coinType))

section Resources

variable {h} {node node' : H} {key key' : Bytes} {coinType : Uint256}

theorem textPart_inj (same : textPart h node key = textPart h node' key') :
    node = node' ∧ key = key' := by
  obtain ⟨nodes, parts⟩ := h.resource_inj same
  exact ⟨nodes, h.keccak256_inj parts⟩

theorem textPart_ne_nodeResource : textPart h node key ≠ nodeResource h node' := by
  intro same
  exact h.keccak256_ne_zero key (h.resource_inj same).2

/-- A text part is an address part only where the key is the encoding of a
coin type, a string of 32 bytes. -/
theorem textPart_ne_addrPart (short : key.length ≠ 32) :
    textPart h node key ≠ addrPart h node' coinType := by
  intro same
  have keys : key = wordBytes coinType := h.keccak256_inj (h.resource_inj same).2
  exact short (by rw [keys, length_wordBytes])

end Resources

/-! ## The entry points -/

variable [DecidableEq H]

namespace Resolver

/-- The resolver its admin has just deployed. -/
def deployed (admin : Address) : Resolver H where
  admin := admin
  roles := Roles.put (fun _ _ => 0) h.zero admin (BitVec.allOnes 256)
  texts _ _ := []
  addrs _ _ := []

/-- `roles[resource][account] |= mask`, or `&= ~mask`. -/
def assign (r : Resolver H) (resource : H) (mask : Uint256) (account : Address) (grant : Bool) :
    Resolver H :=
  { r with roles := Roles.assign r.roles resource mask account grant }

def authorizeNameRoles (r : Resolver H) (sender : Address) (toName : Bytes) (roleBitmap : Uint256)
    (account : Address) (grant : Bool) : Except Revert (Resolver H) :=
  if sender ≠ r.admin then .error (.unauthorised sender)
  else .ok (r.assign (nodeResource h (h.keccak256 toName)) roleBitmap account grant)

def authorizeTextRoles (r : Resolver H) (sender : Address) (toName key : Bytes)
    (account : Address) (grant : Bool) : Except Revert (Resolver H) :=
  let node := h.keccak256 toName
  if ¬ Roles.Has r.roles (nodeResource h node) SET_TEXT_ADMIN sender then
    .error (.unauthorised sender)
  else .ok (r.assign (textPart h node key) SET_TEXT account grant)

def authorizeAddrRoles (r : Resolver H) (sender : Address) (toName : Bytes) (coinType : Uint256)
    (account : Address) (grant : Bool) : Except Revert (Resolver H) :=
  let node := h.keccak256 toName
  if ¬ Roles.Has r.roles (nodeResource h node) SET_ADDR_ADMIN sender then
    .error (.unauthorised sender)
  else .ok (r.assign (addrPart h node coinType) SET_ADDR account grant)

/-- `texts[node][key] = value`. -/
def putText (r : Resolver H) (node : H) (key value : Bytes) : Resolver H :=
  { r with texts := fun n k => if n = node ∧ k = key then value else r.texts n k }

/-- `addrs[node][coinType] = addressBytes`. -/
def putAddr (r : Resolver H) (node : H) (coinType : Uint256) (addressBytes : Bytes) : Resolver H :=
  { r with addrs := fun n c => if n = node ∧ c = coinType then addressBytes else r.addrs n c }

def setText (r : Resolver H) (sender : Address) (node : H) (key value : Bytes) :
    Except Revert (Resolver H) :=
  if ¬ Roles.Has r.roles (textPart h node key) SET_TEXT sender then .error (.unauthorised sender)
  else .ok (r.putText node key value)

def setAddr (r : Resolver H) (sender : Address) (node : H) (coinType : Uint256)
    (addressBytes : Bytes) : Except Revert (Resolver H) :=
  if ¬ Roles.Has r.roles (addrPart h node coinType) SET_ADDR sender then
    .error (.unauthorised sender)
  else .ok (r.putAddr node coinType addressBytes)

end Resolver

/-! ## What a successful call does -/

namespace Resolver

variable {h} {node node' : H} {key key' : Bytes} {coinType : Uint256} {r r' : Resolver H}
  {sender account : Address} {toName value addressBytes : Bytes} {roleBitmap : Uint256} {grant : Bool}

theorem authorizeNameRoles_eq_ok :
    r.authorizeNameRoles h sender toName roleBitmap account grant = .ok r' ↔
      sender = r.admin ∧
        r.assign (nodeResource h (h.keccak256 toName)) roleBitmap account grant = r' := by
  unfold authorizeNameRoles
  rw [guard_eq_ok_iff, not_not, Except.ok.injEq]

theorem authorizeTextRoles_eq_ok :
    r.authorizeTextRoles h sender toName key account grant = .ok r' ↔
      Roles.Has r.roles (nodeResource h (h.keccak256 toName)) SET_TEXT_ADMIN sender ∧
        r.assign (textPart h (h.keccak256 toName) key) SET_TEXT account grant = r' := by
  unfold authorizeTextRoles
  rw [guard_eq_ok_iff, not_not, Except.ok.injEq]

theorem authorizeAddrRoles_eq_ok :
    r.authorizeAddrRoles h sender toName coinType account grant = .ok r' ↔
      Roles.Has r.roles (nodeResource h (h.keccak256 toName)) SET_ADDR_ADMIN sender ∧
        r.assign (addrPart h (h.keccak256 toName) coinType) SET_ADDR account grant = r' := by
  unfold authorizeAddrRoles
  rw [guard_eq_ok_iff, not_not, Except.ok.injEq]

theorem setText_eq_ok :
    r.setText h sender node key value = .ok r' ↔
      Roles.Has r.roles (textPart h node key) SET_TEXT sender ∧ r.putText node key value = r' := by
  unfold setText
  rw [guard_eq_ok_iff, not_not, Except.ok.injEq]

theorem setAddr_eq_ok :
    r.setAddr h sender node coinType addressBytes = .ok r' ↔
      Roles.Has r.roles (addrPart h node coinType) SET_ADDR sender ∧
        r.putAddr node coinType addressBytes = r' := by
  unfold setAddr
  rw [guard_eq_ok_iff, not_not, Except.ok.injEq]

@[simp] theorem assign_roles (resource : H) (mask : Uint256) :
    (r.assign resource mask account grant).roles =
      Roles.assign r.roles resource mask account grant := rfl
@[simp] theorem putAddr_texts : (r.putAddr node coinType value).texts = r.texts := rfl

@[simp] theorem putText_self : (r.putText node key value).texts node key = value := by
  simp [putText]

theorem putText_of_ne (other : node' ≠ node ∨ key' ≠ key) :
    (r.putText node key value).texts node' key' = r.texts node' key' := by
  exact if_neg (not_and_or.mpr other)

end Resolver

end Ens

end AgentProof
