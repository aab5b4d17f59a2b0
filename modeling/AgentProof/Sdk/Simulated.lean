import AgentProof.Sdk.Arguments
import AgentProof.Sdk.Execute

/-!
# The simulated account

`testing/SimulatedAccount.ts`: an account with its hook, in process.  A send
checks the allowlist, moves the balance, charges the day's window and checks the
floor; what it rolls back when it throws is written out by hand at every exit.
The state is the object's private fields; a method that may throw returns the
state it leaves with its answer.  The clock is a number of milliseconds.
-/

namespace AgentProof

namespace Sdk

open Js

/-! ## Errors -/

inductive RevertCode
  | exceedsMaxTransaction
  | exceedsDailyLimit
  | targetNotAllowed
  | belowMinBalance
  deriving DecidableEq, Repr

def RevertCode.text : RevertCode → Text
  | exceedsMaxTransaction => "ExceedsMaxTransaction".toList
  | exceedsDailyLimit => "ExceedsDailyLimit".toList
  | targetNotAllowed => "TargetNotAllowed".toList
  | belowMinBalance => "BelowMinBalance".toList

structure PolicyRevert where
  code : RevertCode
  detail : List (Text × Text)
  deriving DecidableEq, Repr

/-- The `message` the constructor makes. -/
def PolicyRevert.message (r : PolicyRevert) : Text :=
  r.code.text ++ "(".toList ++
    ", ".toList.intercalate (r.detail.map fun entry => entry.1 ++ "=".toList ++ entry.2) ++
    ")".toList

/-- What a send throws. -/
inductive SimulatedError
  | revert (r : PolicyRevert)
  | thrown (e : JsError)
  deriving DecidableEq, Repr

/-- An error of the language or a helper. -/
def orThrow {α : Type} (x : Except JsError α) : Except SimulatedError α := x.mapError .thrown

/-! ## The account -/

structure SimulatedConfig where
  asset : Text
  maxTransaction : Int
  dailyLimit : Int
  minBalance : Int
  allowedTargets : List Text
  deriving DecidableEq, Repr

structure DayWindow where
  day : Int
  spent : Int
  deriving DecidableEq, Repr

structure LogEntry where
  txHash : Text
  target : Text
  outflow : Int
  spentToday : Int
  deriving DecidableEq, Repr

structure SimulatedAccount where
  address : Text
  config : SimulatedConfig
  balance : Int
  window : DayWindow
  nonce : Nat
  clockMs : ℚ
  allowed : List Text
  log : List LogEntry
  deriving DecidableEq, Repr

namespace SimulatedAccount

def today (s : SimulatedAccount) : Int := ⌊s.clockMs / 1000 / 86400⌋

/-- The constructor. -/
def create (address : Text) (config : SimulatedConfig) (balance : Int) (nowMs : ℚ) :
    Except JsError SimulatedAccount := do
  let allowed ← addressSet (config.allowedTargets ++ [config.asset])
  let s : SimulatedAccount := ⟨address, config, balance, ⟨0, 0⟩, 0, nowMs, allowed, []⟩
  .ok { s with window := ⟨s.today, 0⟩ }

def spentToday (s : SimulatedAccount) : Int :=
  if s.window.day = s.today then s.window.spent else 0

def advance (s : SimulatedAccount) (ms : ℚ) : SimulatedAccount :=
  { s with clockMs := s.clockMs + ms }

/-- `asset` is not looked at any more once `account` is another. -/
def getErc20Balance (s : SimulatedAccount) (asset account : Text) : Except JsError Int := do
  let asset ← normalizeAddress asset
  if asset ≠ s.config.asset then .ok 0
  else
    let account ← normalizeAddress account
    .ok (if account = s.address then s.balance else 0)

/-! ## A send -/

def decodeCounterparty (data : Text) : Except JsError (Option Text) :=
  let selector := selectorOf data
  if selector = SELECTOR_TRANSFER ∨ selector = SELECTOR_APPROVE then some <$> readAddress data 0
  else if selector = SELECTOR_TRANSFER_FROM then some <$> readAddress data 1
  else .ok none

/-- `throw new PolicyRevert('TargetNotAllowed', { target })`. -/
def targetNotAllowed {α : Type} (target : Text) : Except SimulatedError α :=
  .error (.revert ⟨.targetNotAllowed, [("target".toList, target)]⟩)

/-- The code before the balance is read. -/
def preCheck (s : SimulatedAccount) (request : UserOperationRequest) :
    Except SimulatedError Text := do
  let target ← orThrow (normalizeAddress request.toAddress)
  if target ∉ s.allowed then targetNotAllowed target
  else if target = s.config.asset then
    match ← orThrow (decodeCounterparty request.data) with
    | some counterparty =>
        if counterparty ≠ [] ∧ counterparty ∉ s.allowed then targetNotAllowed counterparty
        else .ok target
    | none => .ok target
  else .ok target

/-- The account less `amount`, and `amount`. -/
def pay (s : SimulatedAccount) (amount : Int) : SimulatedAccount × Int :=
  ({ s with balance := s.balance - amount }, amount)

def applyRouterPull (s : SimulatedAccount) (data target : Text) :
    Except JsError (SimulatedAccount × Int) := do
  let intent ← createDefaultRegistry.decode ⟨target, data, 0⟩ ⟨s.address, s.config.asset⟩
  if intent.kind ≠ .swap then .ok (s, 0)
  else
    let pulled := ((intent.outflow.find? fun flow => flow.asset = s.config.asset).map
      AssetAmount.amount).getD 0
    .ok (s.pay (if pulled > s.balance then s.balance else pulled))

/-- An ERC-20 transfer of the word at `index`. -/
def applyAmount (s : SimulatedAccount) (data : Text) (index : Nat) :
    Except JsError (SimulatedAccount × Int) := do
  let amount ← readWord data index
  if (amount : Int) > s.balance then thrown "ERC20: transfer amount exceeds balance".toList
  else .ok (s.pay amount)

def applyTransfer (s : SimulatedAccount) (data target : Text) :
    Except JsError (SimulatedAccount × Int) :=
  if target ≠ s.config.asset then s.applyRouterPull data target
  else
    let selector := selectorOf data
    if selector = SELECTOR_TRANSFER then s.applyAmount data 1
    else if selector = SELECTOR_TRANSFER_FROM then do
      let holder ← readAddress data 0
      if holder = s.address then s.applyAmount data 2 else .ok (s, 0)
    else .ok (s, 0)

/-- What counts before this charge on the day `today`. -/
def base (s : SimulatedAccount) (today : Int) : Int :=
  if s.window.day = today then s.window.spent else 0

/-- The charge of the window, with its two rollbacks. -/
def charge (s : SimulatedAccount) (balanceBefore today outflow : Int) :
    SimulatedAccount × Except PolicyRevert Unit :=
  if outflow > 0 then
    if outflow > s.config.maxTransaction then
      ({ s with balance := balanceBefore }, .error ⟨.exceedsMaxTransaction,
        [("amount".toList, toDecimal outflow), ("limit".toList, toDecimal s.config.maxTransaction)]⟩)
    else
      let wouldBe := s.base today + outflow
      if wouldBe > s.config.dailyLimit then
        ({ s with balance := balanceBefore }, .error ⟨.exceedsDailyLimit,
          [("wouldBe".toList, toDecimal wouldBe), ("limit".toList, toDecimal s.config.dailyLimit)]⟩)
      else ({ s with window := ⟨today, wouldBe⟩ }, .ok ())
  else (s, .ok ())

/-- The floor, whose rollback is that of the balance alone. -/
def checkFloor (s : SimulatedAccount) (balanceBefore : Int) :
    SimulatedAccount × Except PolicyRevert Unit :=
  if s.balance < s.config.minBalance then
    ({ s with balance := balanceBefore }, .error ⟨.belowMinBalance,
      [("balance".toList, toDecimal s.balance),
        ("minBalance".toList, toDecimal s.config.minBalance)]⟩)
  else (s, .ok ())

/-- The code after the execution. -/
def postCheck (s : SimulatedAccount) (balanceBefore today : Int) :
    SimulatedAccount × Except PolicyRevert Unit :=
  let outflow := if balanceBefore > s.balance then balanceBefore - s.balance else 0
  match s.charge balanceBefore today outflow with
  | (s', .error e) => (s', .error e)
  | (s', .ok ()) => s'.checkFloor balanceBefore

section Send

variable (keccak256 : Text → Text)

/-- The hash, the nonce and the log line of an execution that is through. -/
def record (s : SimulatedAccount) (data target : Text) (moved : Int) : SimulatedAccount × Text :=
  let txHash := keccak256 ("sim:".toList ++ s.address ++ ":".toList ++ toDecimal s.nonce ++
    ":".toList ++ data)
  ({ s with
      nonce := s.nonce + 1
      log := s.log ++ [⟨txHash, target, moved, s.window.spent⟩] }, txHash)

def sendUnchecked (s : SimulatedAccount) (request : UserOperationRequest) :
    SimulatedAccount × Except SimulatedError Text :=
  match s.preCheck request with
  | .error e => (s, .error e)
  | .ok target =>
      let balanceBefore := s.balance
      let today := s.today
      match s.applyTransfer request.data target with
      | .error e => (s, .error (.thrown e))
      | .ok (executed, moved) =>
          match executed.postCheck balanceBefore today with
          | (s', .error e) => (s', .error (.revert e))
          | (s', .ok ()) =>
              let (logged, txHash) := s'.record keccak256 request.data target moved
              (logged, .ok txHash)

def send (s : SimulatedAccount) (request : UserOperationRequest) :
    SimulatedAccount × Except SimulatedError Text := s.sendUnchecked keccak256 request

/-- With another ceiling for one operation. -/
def withCeiling (s : SimulatedAccount) (maxTransaction : Int) : SimulatedAccount :=
  { s with config := { s.config with maxTransaction := maxTransaction } }

def sendAsOwner (s : SimulatedAccount) (request : UserOperationRequest) :
    SimulatedAccount × Except SimulatedError Text :=
  let previous := s.config.maxTransaction
  let (s', answer) := (s.withCeiling s.config.dailyLimit).sendUnchecked keccak256 request
  (s'.withCeiling previous, answer)

end Send

end SimulatedAccount

end Sdk

end AgentProof
