import AgentProof.Contracts.AgentPolicyHook
import AgentProof.Sdk.Simulated

/-!
# The simulated allowlist and the hook's

The checks of the simulated account before an execution beside `preCheck` of the
hook, on one list and one call.  They differ in what they ask of a known ERC-20
call to the asset: the hook wants all its arguments, cuts the counterparty's word
to an address and takes the zero address for no counterparty; the simulator wants
that one word, clean, and on the list.
-/

namespace AgentProof

open ExecutionLib

/-! ## The counterparty of a known call -/

/-- Which argument of a known ERC-20 call names its counterparty. -/
def counterpartyIndex (calldata : Bytes) : Option Nat :=
  if calldata.length < 4 then none
  else if selectorOf calldata = transferSelector ∨ selectorOf calldata = approveSelector then some 0
  else if selectorOf calldata = transferFromSelector then some 1
  else none

/-- The argument word with that index. -/
def argumentWord (calldata : Bytes) (index : Nat) : Uint256 := wordAt calldata (4 + 32 * index)

/-- The address in the low bytes of an argument word. -/
def argumentAddress (calldata : Bytes) (index : Nat) : Address :=
  (argumentWord calldata index).setWidth 160

namespace ExecutionLib

/-- The hook wants the argument behind the counterparty as well. -/
theorem counterpartyOf_eq (calldata : Bytes) :
    counterpartyOf calldata =
      match counterpartyIndex calldata with
      | none => .ok 0
      | some index =>
          if calldata.length < 4 + 32 * (index + 2) then .error .malformedExecution
          else .ok (argumentAddress calldata index) := by
  unfold counterpartyOf counterpartyIndex
  split_ifs with short one cut two cut
  · rfl
  · exact (if_pos cut).symm
  · exact (if_neg cut).symm
  · exact (if_pos cut).symm
  · exact (if_neg cut).symm
  · rfl

end ExecutionLib

namespace Sdk

open Js

/-- The text selector is that of the bytes. -/
theorem selectorOf_eq_iff {calldata : Bytes} {selector : Bytes4} :
    selectorOf (bytesToHex calldata) = bytesToHex (Bytes.ofNat 4 selector.toNat) ↔
      4 ≤ calldata.length ∧ AgentProof.selectorOf calldata = selector := by
  constructor
  · intro same
    have four : 4 ≤ calldata.length := by
      by_contra short
      have lengths := congrArg List.length same
      rw [selectorOf, if_neg (by simp [bytesToHex]; omega)] at lengths
      simp [bytesToHex] at lengths
    rw [selectorOf_bytesToHex four] at same
    have fits : selector.toNat < 256 ^ 4 := selector.isLt
    refine ⟨four, ?_⟩
    rw [AgentProof.selectorOf, readPadded_eq_take (by omega), List.drop_zero,
      bytesToHex_injective same, Bytes.toNat_ofNat, Nat.mod_eq_of_lt fits]
    exact BitVec.ofNat_toNat 32 selector
  · rintro ⟨four, denotes⟩
    exact selectorOf_of_bytes four denotes

/-- An address argument reads when its word is there and clean. -/
theorem readAddress_eq_ok_iff {calldata : Bytes} {index : Nat} {text : Text} :
    readAddress (bytesToHex calldata) index = .ok text ↔
      4 + 32 * (index + 1) ≤ calldata.length ∧ (argumentWord calldata index).toNat < 2 ^ 160 ∧
        text = addressText (argumentAddress calldata index) := by
  by_cases inside : 4 + 32 * (index + 1) ≤ calldata.length
  · rw [and_iff_right inside, readAddress, readWord_bytesToHex (by omega)]
    by_cases clean : (argumentWord calldata index).toNat < 2 ^ 160
    · rw [and_iff_right clean]
      change normalizeAddress (addressDigits (argumentWord calldata index).toNat) = _ ↔ _
      rw [normalizeAddress_addressDigits clean, Except.ok.injEq]
      exact eq_comm
    · obtain ⟨e, dirty⟩ := normalizeAddress_addressDigits_of_ge (not_lt.mp clean)
      change normalizeAddress (addressDigits (argumentWord calldata index).toNat) = _ ↔ _
      rw [dirty]
      exact iff_of_false (fun same => by cases same) fun kept => clean kept.1
  · have short : (slice (bytesToHex calldata) (10 + index * 64) (10 + index * 64 + 64)).length ≠
        64 := by
      simp only [slice, bytesToHex, List.length_take, List.length_drop, List.length_cons,
        length_hexText]
      omega
    simp [readAddress, readWord, short, inside, thrown, bind, Except.bind]

namespace SimulatedAccount

theorem decodeCounterparty_eq (calldata : Bytes) :
    decodeCounterparty (bytesToHex calldata) =
      match counterpartyIndex calldata with
      | none => .ok none
      | some index => some <$> readAddress (bytesToHex calldata) index := by
  have transfer : SELECTOR_TRANSFER = bytesToHex (Bytes.ofNat 4 transferSelector.toNat) := by
    decide
  have approve : SELECTOR_APPROVE = bytesToHex (Bytes.ofNat 4 approveSelector.toNat) := by
    decide
  have transferFrom : SELECTOR_TRANSFER_FROM =
      bytesToHex (Bytes.ofNat 4 transferFromSelector.toNat) := by decide
  unfold decodeCounterparty counterpartyIndex
  simp only [transfer, approve, transferFrom, selectorOf_eq_iff]
  by_cases four : 4 ≤ calldata.length
  · simp only [four, not_lt.mpr four, true_and, if_false]
    split_ifs <;> rfl
  · simp only [four, not_le.mp four, false_and, or_self, if_false, if_true]

end SimulatedAccount

end Sdk

/-! ## The two checks -/

open Sdk

section Checks

variable {asset : Address} {targets : List Address}

/-- The simulator passes the call: the counterparty's word is there, clean and listed. -/
def SimulatorPasses (targets : List Address) (calldata : Bytes) : Prop :=
  ∀ index, counterpartyIndex calldata = some index →
    4 + 32 * (index + 1) ≤ calldata.length ∧ (argumentWord calldata index).toNat < 2 ^ 160 ∧
      argumentAddress calldata index ∈ targets

/-- The hook passes the call: its arguments are whole, and the counterparty's low bytes are zero or
listed. -/
def HookPasses (targets : List Address) (calldata : Bytes) : Prop :=
  ∀ index, counterpartyIndex calldata = some index →
    4 + 32 * (index + 2) ≤ calldata.length ∧
      (argumentAddress calldata index = 0 ∨ argumentAddress calldata index ∈ targets)

/-- A simulated account with the list. -/
structure Lists (account : SimulatedAccount) (asset : Address) (targets : List Address) : Prop where
  asset : account.config.asset = addressText asset
  allowed : ∀ t, addressText t ∈ account.allowed ↔ t ∈ targets

/-- The hook's storage of an installed account with the list. -/
structure Installed (s : AgentPolicyHook.Storage) (sender asset : Address)
    (targets : List Address) : Prop where
  installed : (s.config sender).installed = true
  asset : (s.config sender).asset = asset
  allowed : ∀ t, s.allowedTarget sender t = true ↔ t ∈ targets

theorem mapM_normalizeAddress (addresses : List Address) :
    (addresses.map addressText).mapM normalizeAddress = .ok (addresses.map addressText) := by
  induction addresses with
  | nil => rfl
  | cons a rest ih => simp [ih, bind, Except.bind, pure, Except.pure]

/-- A new account of a list with its asset. -/
theorem Lists.of_create {config : SimulatedConfig} {address : Text} {balance : Int} {nowMs : ℚ}
    {account : SimulatedAccount} (listed : asset ∈ targets)
    (hasAsset : config.asset = addressText asset)
    (hasTargets : config.allowedTargets = targets.map addressText)
    (built : SimulatedAccount.create address config balance nowMs = .ok account) :
    Lists account asset targets := by
  obtain ⟨allowed, listing, built⟩ := bind_eq_ok_iff.mp built
  have texts : config.allowedTargets ++ [config.asset] =
      (targets ++ [asset]).map addressText := by
    rw [hasAsset, hasTargets, List.map_append, List.map_singleton]
  rw [addressSet, texts, mapM_normalizeAddress] at listing
  cases listing
  cases built
  refine ⟨hasAsset, fun t => ?_⟩
  rw [List.mem_eraseDups, List.mem_map_of_injective addressText_injective, List.mem_append,
    List.mem_singleton]
  exact ⟨fun mem => mem.elim id fun own => own ▸ listed, .inl⟩

/-- When the simulator lets a request through. -/
theorem Lists.preCheck_iff {account : SimulatedAccount} (lists : Lists account asset targets)
    {target : Address} {calldata : Bytes} {request : UserOperationRequest}
    (onTarget : request.toAddress = addressText target)
    (carries : request.data = bytesToHex calldata) :
    (∃ checked, account.preCheck request = .ok checked) ↔
      target ∈ targets ∧ (target = asset → SimulatorPasses targets calldata) := by
  unfold SimulatedAccount.preCheck
  simp only [onTarget, carries, normalizeAddress_addressText, lists.asset, lists.allowed,
    addressText_injective.eq_iff, SimulatedAccount.decodeCounterparty_eq,
    SimulatedAccount.targetNotAllowed, orThrow, Except.mapError, bind, Except.bind]
  by_cases listed : target ∈ targets
  · rw [if_neg (not_not.mpr listed), and_iff_right listed]
    by_cases onAsset : target = asset
    · rw [if_pos onAsset, forall_prop_of_true onAsset]
      cases known : counterpartyIndex calldata with
      | none => simp [SimulatorPasses, known]
      | some index =>
          have passes : SimulatorPasses targets calldata ↔
              4 + 32 * (index + 1) ≤ calldata.length ∧
                (argumentWord calldata index).toNat < 2 ^ 160 ∧
                argumentAddress calldata index ∈ targets := by
            simp [SimulatorPasses, known]
          rw [passes]
          dsimp only
          cases read : readAddress (bytesToHex calldata) index with
          | error e =>
              refine iff_of_false (by rintro ⟨_, failed⟩; cases failed) fun whole => ?_
              have reads := readAddress_eq_ok_iff.mpr ⟨whole.1, whole.2.1, rfl⟩
              cases read.symm.trans reads
          | ok text =>
              obtain ⟨inside, clean, rfl⟩ := readAddress_eq_ok_iff.mp read
              have written : addressText (argumentAddress calldata index) ≠ [] := by
                rw [addressText_eq]
                exact List.cons_ne_nil _ _
              change (∃ checked, (if addressText (argumentAddress calldata index) ≠ [] ∧
                addressText (argumentAddress calldata index) ∉ account.allowed then
                  (.error _ : Except SimulatedError Text) else .ok _) = .ok checked) ↔ _
              rw [and_iff_right inside, and_iff_right clean]
              by_cases named : argumentAddress calldata index ∈ targets
              · rw [if_neg fun refused => refused.2 ((lists.allowed _).mpr named)]
                exact iff_of_true ⟨_, rfl⟩ named
              · rw [if_pos ⟨written, mt (lists.allowed _).mp named⟩]
                exact iff_of_false (by rintro ⟨_, failed⟩; cases failed) named
    · rw [if_neg onAsset]
      exact iff_of_true ⟨_, rfl⟩ fun same => absurd same onAsset
  · rw [if_pos listed]
    exact iff_of_false (by rintro ⟨_, failed⟩; cases failed) fun kept => listed kept.1

/-- When the hook lets an execution through. -/
theorem Installed.preCheck_iff {s : AgentPolicyHook.Storage} {sender : Address}
    (installed : Installed s sender asset targets) {balanceOf : Address → Address → Uint256}
    {timestamp : Nat} {msgData inner : CalldataBytes} {target : Address}
    (decoded : decodeSingleExecution msgData = .ok (target, inner))
    (room : inner.offset.toNat < 2 ^ 255) :
    (∃ hookData, AgentPolicyHook.preCheck s balanceOf timestamp sender msgData = .ok hookData) ↔
      target ∈ targets ∧ (target = asset → HookPasses targets inner.bytes) := by
  have counterparty : (∃ counterparty, decodeErc20Counterparty inner = .ok counterparty ∧
      (counterparty = 0 ∨ s.allowedTarget sender counterparty = true)) ↔
        HookPasses targets inner.bytes := by
    rw [decodeErc20Counterparty_eq room, counterpartyOf_eq]
    cases known : counterpartyIndex inner.bytes with
    | none => simp [HookPasses, known]
    | some index =>
        simp only [guard_eq_ok_iff, not_lt, Except.ok.injEq, HookPasses, known, Option.some.injEq,
          forall_eq', installed.allowed]
        constructor
        · rintro ⟨_, ⟨whole, rfl⟩, passes⟩
          exact ⟨whole, passes⟩
        · rintro ⟨whole, passes⟩
          exact ⟨_, ⟨whole, rfl⟩, passes⟩
  simp only [AgentPolicyHook.preCheck_eq_ok_iff, decoded, Except.ok.injEq, Prod.mk.injEq,
    installed.installed, installed.asset, true_and]
  constructor
  · rintro ⟨hookData, _, _, ⟨rfl, rfl⟩, listed, passes, -⟩
    exact ⟨(installed.allowed _).mp listed, fun onAsset => counterparty.mp (passes onAsset)⟩
  · rintro ⟨listed, passes⟩
    exact ⟨_, target, inner, ⟨rfl, rfl⟩, (installed.allowed target).mpr listed,
      fun onAsset => counterparty.mpr (passes onAsset), rfl⟩

/-! ## Where they differ -/

/-- A known call on which the two disagree.  Cut behind the counterparty's word, it passes only the
simulator; with dirt above an address that the hook accepts, or with the zero address for a
counterparty that is not listed, only the hook. -/
inductive Disputed (targets : List Address) (calldata : Bytes) : Prop
  | cut (index : Nat) (known : counterpartyIndex calldata = some index)
      (word : 4 + 32 * (index + 1) ≤ calldata.length)
      (short : calldata.length < 4 + 32 * (index + 2))
      (clean : (argumentWord calldata index).toNat < 2 ^ 160)
      (listed : argumentAddress calldata index ∈ targets)
  | dirty (index : Nat) (known : counterpartyIndex calldata = some index)
      (whole : 4 + 32 * (index + 2) ≤ calldata.length)
      (dirt : 2 ^ 160 ≤ (argumentWord calldata index).toNat)
      (passes : argumentAddress calldata index = 0 ∨ argumentAddress calldata index ∈ targets)
  | zero (index : Nat) (known : counterpartyIndex calldata = some index)
      (whole : 4 + 32 * (index + 2) ≤ calldata.length) (empty : argumentWord calldata index = 0)
      (unlisted : 0 ∉ targets)

theorem disputed_iff {calldata : Bytes} {index : Nat}
    (known : counterpartyIndex calldata = some index) :
    Disputed targets calldata ↔
      (4 + 32 * (index + 1) ≤ calldata.length ∧ ¬ 4 + 32 * (index + 2) ≤ calldata.length ∧
        (argumentWord calldata index).toNat < 2 ^ 160 ∧ argumentAddress calldata index ∈ targets) ∨
      (4 + 32 * (index + 2) ≤ calldata.length ∧ ¬ (argumentWord calldata index).toNat < 2 ^ 160 ∧
        (argumentAddress calldata index = 0 ∨ argumentAddress calldata index ∈ targets)) ∨
      (4 + 32 * (index + 2) ≤ calldata.length ∧ argumentWord calldata index = 0 ∧ 0 ∉ targets) := by
  have only {other : Nat} (some_ : counterpartyIndex calldata = some other) : other = index :=
    Option.some.inj (some_.symm.trans known)
  constructor
  · rintro (⟨_, some_, word, short, clean, listed⟩ | ⟨_, some_, whole, dirt, passes⟩ |
      ⟨_, some_, whole, empty, unlisted⟩)
    all_goals obtain rfl := only some_
    · exact .inl ⟨word, not_le.mpr short, clean, listed⟩
    · exact .inr (.inl ⟨whole, not_lt.mpr dirt, passes⟩)
    · exact .inr (.inr ⟨whole, empty, unlisted⟩)
  · rintro (⟨word, short, clean, listed⟩ | ⟨whole, dirt, passes⟩ | ⟨whole, empty, unlisted⟩)
    · exact .cut index known word (not_le.mp short) clean listed
    · exact .dirty index known whole (not_lt.mp dirt) passes
    · exact .zero index known whole empty unlisted

/-- A clean word is the zero address only when it is zero. -/
theorem argumentAddress_eq_zero_iff {calldata : Bytes} {index : Nat}
    (clean : (argumentWord calldata index).toNat < 2 ^ 160) :
    argumentAddress calldata index = 0 ↔ argumentWord calldata index = 0 := by
  rw [argumentAddress, ← BitVec.toNat_inj, ← BitVec.toNat_inj, BitVec.toNat_setWidth,
    Nat.mod_eq_of_lt clean]
  rfl

theorem passes_iff_not_disputed {calldata : Bytes} :
    (SimulatorPasses targets calldata ↔ HookPasses targets calldata) ↔
      ¬ Disputed targets calldata := by
  cases known : counterpartyIndex calldata with
  | none =>
      have simulator : SimulatorPasses targets calldata := by simp [SimulatorPasses, known]
      have hook : HookPasses targets calldata := by simp [HookPasses, known]
      refine iff_of_true (iff_of_true simulator hook) fun disputed => ?_
      rcases disputed with ⟨_, some_, -, -, -, -⟩ | ⟨_, some_, -, -, -⟩ | ⟨_, some_, -, -, -⟩
      all_goals cases known.symm.trans some_
  | some index =>
      have nested : 4 + 32 * (index + 2) ≤ calldata.length →
          4 + 32 * (index + 1) ≤ calldata.length := fun whole => by omega
      have zeros := @argumentAddress_eq_zero_iff calldata index
      have small : argumentWord calldata index = 0 →
          (argumentWord calldata index).toNat < 2 ^ 160 := fun empty => by
        rw [empty]
        decide
      have named : argumentAddress calldata index = 0 →
          (argumentAddress calldata index ∈ targets ↔ 0 ∈ targets) := fun empty => by rw [empty]
      rw [disputed_iff known]
      simp only [SimulatorPasses, HookPasses, known, Option.some.injEq, forall_eq']
      generalize (4 + 32 * (index + 1) ≤ calldata.length) = word,
        (4 + 32 * (index + 2) ≤ calldata.length) = whole,
        ((argumentWord calldata index).toNat < 2 ^ 160) = clean,
        (argumentAddress calldata index ∈ targets) = listed,
        (argumentAddress calldata index = 0) = toZero,
        (argumentWord calldata index = 0) = empty,
        (0 ∈ targets) = zeroListed at nested zeros small named ⊢
      grind

/-- What is not let through is refused. -/
theorem refused_iff {ε α : Type} {x : Except ε α} :
    (∃ e, x = .error e) ↔ ¬ ∃ a, x = .ok a := by
  cases x with
  | error e => simp
  | ok a => simp

/-- The simulator refuses a call of a target before its execution exactly when the hook refuses the
single execution of that call on an account installed with the same list, unless the call is a
disputed one to the asset. -/
theorem preCheck_agrees_iff {config : SimulatedConfig} {address : Text} {balance : Int} {nowMs : ℚ}
    {account : SimulatedAccount} {s : AgentPolicyHook.Storage} {sender : Address}
    (listed : asset ∈ targets) (hasAsset : config.asset = addressText asset)
    (hasTargets : config.allowedTargets = targets.map addressText)
    (built : SimulatedAccount.create address config balance nowMs = .ok account)
    (installed : Installed s sender asset targets)
    (balanceOf : Address → Address → Uint256) (timestamp : Nat) (target : Address)
    (value : Uint256) {calldata : Bytes} (fits : calldata.length < 2 ^ 255) :
    ((∃ e, account.preCheck ⟨address, addressText target, bytesToHex calldata, value.toNat⟩ =
        .error e) ↔
      ∃ e, AgentPolicyHook.preCheck s balanceOf timestamp sender
        (.ofBytes (encodeExecute target value calldata)) = .error e) ↔
      ¬ (target = asset ∧ Disputed targets calldata) := by
  have simulator := @Lists.preCheck_iff asset targets account
    (Lists.of_create listed hasAsset hasTargets built) target calldata
    ⟨address, addressText target, bytesToHex calldata, value.toNat⟩ rfl rfl
  have near : (innerCall target value calldata).offset.toNat < 2 ^ 255 := by
    change (152 : Uint256).toNat < 2 ^ 255
    decide
  have hook := @Installed.preCheck_iff asset targets s sender installed balanceOf timestamp _ _ target
    (decodeSingleExecution_innerCall target value fits) near
  rw [bytes_innerCall target value fits] at hook
  rw [refused_iff, refused_iff, simulator, hook, not_iff_not]
  have pairs := @passes_iff_not_disputed targets calldata
  by_cases onAsset : target = asset
  · simp only [onAsset, listed, true_and, forall_const]
    exact pairs
  · simp only [onAsset, false_and, not_false_iff, IsEmpty.forall_iff]

end Checks

/-! ## One list on both sides -/

def sharedList : List Address := [0x11, 0x22]

/-- The hook's storage with the list, for the asset `0x11`. -/
def listedStorage : AgentPolicyHook.Storage where
  config _ := ⟨0x11, 50, 100, 0, 0, true⟩
  window _ := .zero
  allowedTarget _ t := t ∈ sharedList

/-- The simulated account with the list. -/
def listedAccount : SimulatedAccount where
  address := addressText 0xA1
  config := ⟨addressText 0x11, 50, 100, 0, sharedList.map addressText⟩
  balance := 100
  window := ⟨0, 0⟩
  nonce := 0
  clockMs := 0
  allowed := sharedList.map addressText
  log := []

theorem installed_listedStorage (sender : Address) :
    Installed listedStorage sender 0x11 sharedList where
  installed := rfl
  asset := rfl
  allowed t := by simp [listedStorage]

/-- A transfer of the asset. -/
def listedTransfer (recipient : Address) : Bytes :=
  Bytes.ofNat 4 transferSelector.toNat ++ (wordBytes (recipient.setWidth 256) ++ wordBytes 5)

/-- Both refuse a recipient that is not listed. -/
theorem preCheck_agrees_iff_listedTransfer :
    (∃ e, listedAccount.preCheck ⟨addressText 0xA1, addressText 0x11,
        bytesToHex (listedTransfer 0x33), (0 : Uint256).toNat⟩ = .error e) ↔
      ∃ e, AgentPolicyHook.preCheck listedStorage (fun _ _ => 100) 0 0xA1
        (.ofBytes (encodeExecute 0x11 0 (listedTransfer 0x33))) = .error e := by
  have built : SimulatedAccount.create (addressText 0xA1) listedAccount.config 100 0 =
      .ok listedAccount := by decide +kernel
  refine (preCheck_agrees_iff (show (0x11 : Address) ∈ sharedList by decide) rfl rfl built
    (installed_listedStorage 0xA1) (fun _ _ => 100) 0 0x11 0 (by decide)).mpr ?_
  rintro ⟨-, disputed⟩
  rw [@disputed_iff _ _ 0 (by decide)] at disputed
  revert disputed
  decide +kernel

/-- The simulator refuses a transfer to the zero address, which the hook lets through. -/
theorem not_preCheck_agrees_zeroTransfer :
    ¬ ((∃ e, listedAccount.preCheck ⟨addressText 0xA1, addressText 0x11,
        bytesToHex (listedTransfer 0), (0 : Uint256).toNat⟩ = .error e) ↔
      ∃ e, AgentPolicyHook.preCheck listedStorage (fun _ _ => 100) 0 0xA1
        (.ofBytes (encodeExecute 0x11 0 (listedTransfer 0))) = .error e) := by
  have simulator : listedAccount.preCheck ⟨addressText 0xA1, addressText 0x11,
      bytesToHex (listedTransfer 0), (0 : Uint256).toNat⟩ =
        SimulatedAccount.targetNotAllowed (addressText 0) := by decide +kernel
  have hook : AgentPolicyHook.preCheck listedStorage (fun _ _ => 100) 0 0xA1
      (.ofBytes (encodeExecute 0x11 0 (listedTransfer 0))) =
        .ok (AgentPolicyHook.encodeHookData 100 0 0x11) := by decide +kernel
  intro agree
  obtain ⟨e, refused⟩ := agree.mp ⟨_, simulator⟩
  cases hook.symm.trans refused

end AgentProof
