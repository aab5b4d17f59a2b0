import AgentProof.Contracts.AgentPolicyHook
import AgentProof.Lib.OrderedMap
import AgentProof.Sdk.Json

/-!
# The spend history subgraph

`mapping.ts`: the handlers that turn the hook's events into entities, the store
they write, and the reply to the daily-spend query.  Entities are kept by the
id the handlers give them.  A handler that traps stops the indexing.

The width of a day in the schema is 32 bits; `toI32` is graph-ts' conversion,
taken as a parameter.  Counters of the schema's `Int` type are 32-bit words.
-/

namespace AgentProof

namespace Subgraph

open AgentPolicyHook (Event)
open Sdk (addressText)
open Js

/-- An event as graph-node hands it to a handler. -/
structure LogEvent where
  event : Event
  address : Address
  blockNumber : Nat
  blockTimestamp : Nat
  transactionHash : Bytes32
  logIndex : Nat
  deriving DecidableEq, Repr

/-! ## Entities -/

structure Agent where
  policyHash : Bytes32
  hook : Address
  asset : Address
  installedAt : Nat
  allowedTargets : List Address
  totalOutflow : Nat
  executionCount : BitVec 32
  deriving DecidableEq, Repr

structure PolicyInstall where
  account : Address
  policyHash : Bytes32
  asset : Address
  blockNumber : Nat
  timestamp : Nat
  transactionHash : Bytes32
  deriving DecidableEq, Repr

structure Execution where
  agent : Text
  account : Address
  target : Address
  outflow : Nat
  dayTotal : Nat
  day : Int
  blockNumber : Nat
  timestamp : Nat
  transactionHash : Bytes32
  deriving DecidableEq, Repr

structure DailyAggregate where
  agent : Text
  account : Address
  day : Int
  totalOutflow : Nat
  executionCount : BitVec 32
  largestOutflow : Nat
  lastUpdatedBlock : Nat
  deriving DecidableEq, Repr

structure TargetPermission where
  account : Address
  target : Address
  allowed : Bool
  updatedAt : Nat
  deriving DecidableEq, Repr

structure Store where
  agents : OrderedMap Text Agent
  installs : OrderedMap Text PolicyInstall
  executions : OrderedMap Text Execution
  dailyAggregates : OrderedMap Text DailyAggregate
  targetPermissions : OrderedMap Text TargetPermission

def Store.empty : Store := ⟨.empty, .empty, .empty, .empty, .empty⟩

/-! ## Handlers -/

/-- `transaction.hash.toHexString() + '-' + logIndex.toString()`. -/
def eventId (e : LogEvent) : Text :=
  Sdk.bytesToHex (wordBytes e.transactionHash) ++ "-".toList ++ toDecimal e.logIndex

/-- `account.toHexString() + '-' + day.toString()`. -/
def aggregateId (account : Address) (day : Int) : Text :=
  addressText account ++ "-".toList ++ toDecimal day

def permissionId (account target : Address) : Text :=
  addressText account ++ "-".toList ++ addressText target

def handlePolicyInstalled (s : Store) (e : LogEvent) (account : Address) (policyHash : Bytes32)
    (asset : Address) : Store :=
  let known := (s.agents.get (addressText account)).getD ⟨0, 0, 0, 0, [], 0, 0⟩
  { s with
    agents := s.agents.set (addressText account) { known with
      policyHash := policyHash
      asset := asset
      hook := e.address
      installedAt := e.blockTimestamp }
    installs := s.installs.set (eventId e) {
      account := account
      policyHash := policyHash
      asset := asset
      blockNumber := e.blockNumber
      timestamp := e.blockTimestamp
      transactionHash := e.transactionHash } }

/-- The aggregate after a spend of `amount`, starting a new one if there is none. -/
def DailyAggregate.spend (known : Option DailyAggregate) (account : Address) (day : Int)
    (amount dayTotal blockNumber : Nat) : DailyAggregate :=
  let aggregate := known.getD ⟨addressText account, account, day, 0, 0, 0, 0⟩
  { aggregate with
    -- the hook's own accumulator, not a sum made here
    totalOutflow := dayTotal
    executionCount := aggregate.executionCount + 1
    largestOutflow :=
      if amount > aggregate.largestOutflow then amount else aggregate.largestOutflow
    lastUpdatedBlock := blockNumber }

def handleSpendRecorded (toI32 : Nat → Option Int) (s : Store) (e : LogEvent)
    (account target : Address) (amount dayTotal : Uint256) (day : Uint64) : Option Store :=
  match s.agents.get (addressText account) with
  | none => some s -- spend before install is not possible; ignored
  | some agent => do
      let day ← toI32 day.toNat
      some { s with
        executions := s.executions.set (eventId e) {
          agent := addressText account
          account := account
          target := target
          outflow := amount.toNat
          dayTotal := dayTotal.toNat
          day := day
          blockNumber := e.blockNumber
          timestamp := e.blockTimestamp
          transactionHash := e.transactionHash }
        agents := s.agents.set (addressText account) { agent with
          totalOutflow := agent.totalOutflow + amount.toNat
          executionCount := agent.executionCount + 1 }
        dailyAggregates := s.dailyAggregates.set (aggregateId account day)
          (.spend (s.dailyAggregates.get (aggregateId account day)) account day amount.toNat
            dayTotal.toNat e.blockNumber) }

def handleTargetAllowed (s : Store) (e : LogEvent) (account target : Address) (allowed : Bool) :
    Store :=
  { s with
    targetPermissions := s.targetPermissions.set (permissionId account target)
      ⟨account, target, allowed, e.blockTimestamp⟩ }

def handlePolicyUninstalled (s : Store) (account : Address) : Store :=
  match s.agents.get (addressText account) with
  | none => s
  | some agent =>
      -- the record is kept
      { s with agents := s.agents.set (addressText account) { agent with installedAt := 0 } }

def handle (toI32 : Nat → Option Int) (s : Store) (e : LogEvent) : Option Store :=
  match e.event with
  | .policyInstalled account policyHash asset =>
      some (handlePolicyInstalled s e account policyHash asset)
  | .spendRecorded account target amount dayTotal day =>
      handleSpendRecorded toI32 s e account target amount dayTotal day
  | .targetAllowed account target allowed => some (handleTargetAllowed s e account target allowed)
  | .policyUninstalled account => some (handlePolicyUninstalled s account)

/-- The store after events in the order of the chain. -/
def index (toI32 : Nat → Option Int) (es : List LogEvent) : Option Store :=
  es.foldlM (handle toI32) .empty

/-- What the mapping relies on: a day that fits is itself, and no two days that
convert are confused. -/
structure ConvertsDays (toI32 : Nat → Option Int) : Prop where
  exact : ∀ day < 2 ^ 31, toI32 day = some (day : Int)
  injective : ∀ {day day' : Nat} {i : Int}, toI32 day = some i → toI32 day' = some i → day = day'

/-! ## The query -/

def aggregateRow (row : Text × DailyAggregate) : Json :=
  .obj [("id".toList, .str row.1),
    ("totalOutflow".toList, .str (toDecimal row.2.totalOutflow)),
    ("executionCount".toList, .num row.2.executionCount.toInt)]

/-- The reply to `dailyAggregates(where: { account: $account, day: $day }, first: 1)`;
the variable is a 32-bit integer. -/
def dailySpendReply (s : Store) (account : Text) (day : Nat) : Except JsError Json :=
  if 2 ^ 31 ≤ day then .error ⟨"Error".toList, "Int cannot represent the variable".toList⟩
  else
    let rows := s.dailyAggregates.entries.filter fun row =>
      addressText row.2.account = account ∧ row.2.day = (day : Int)
    .ok (.obj [("data".toList, .obj [("dailyAggregates".toList,
      .arr ((rows.take 1).map aggregateRow))])])

/-! ## Ids -/

theorem aggregateId_injective {account account' : Address} {day day' : Int}
    (same : aggregateId account day = aggregateId account' day') :
    account = account' ∧ day = day' := by
  simp only [aggregateId, List.append_assoc] at same
  have length : (addressText account).length = (addressText account').length := by
    simp [Sdk.addressText_eq]
  obtain ⟨accounts, days⟩ := List.append_inj same length
  exact ⟨Sdk.addressText_injective accounts,
    toDecimal_injective (List.append_cancel_left days)⟩

theorem index_concat (toI32 : Nat → Option Int) (es : List LogEvent) (e : LogEvent) :
    index toI32 (es ++ [e]) = (index toI32 es).bind fun s => handle toI32 s e := by
  simp [index, List.foldlM_append]

end Subgraph

end AgentProof
