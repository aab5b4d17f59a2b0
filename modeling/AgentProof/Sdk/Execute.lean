import AgentProof.Sdk.Policy

/-!
# Building a protected account, and executing with it

`core/AgentProof.ts` and `enforcement/HookEnforcer.ts`: the startup checks of
`createAgentProof`, and `execute` as a process.  A call of `execute` decodes,
waits for the two state reads, decides, waits for a human where one is asked,
hands the executor at most one request, waits for its answer and has it
recorded.  Any number of calls are under way at a time; between the steps of one
call the others may move, the clock advances and the published status changes.
-/

namespace AgentProof

namespace Sdk

open Js

/-! ## `enforcement/HookEnforcer.ts` -/

structure UserOperationRequest where
  account : Text
  toAddress : Text
  data : Text
  value : Int
  deriving DecidableEq, Repr

/-- A call of the executor. -/
inductive Submission
  | send (request : UserOperationRequest)
  | sendAsOwner (request : UserOperationRequest) (signature : Text)
  deriving DecidableEq, Repr

structure Executor where
  /-- `sendAsOwner` is there. -/
  sendsAsOwner : Bool

structure HookEnforcer where
  account : Text
  hook : Text
  executor : Executor
  chain : Option (Text → Text → Except JsError Text)

/-- The selector of `config(address)`. -/
def CONFIG_SELECTOR : Text := "0x0e68ec95".toList

/-- `throw new PolicyBindingError(source, expected, actual)`. -/
def policyBindingError {α : Type} (source expected actual : Text) : Except JsError α :=
  .error ⟨"PolicyBindingError".toList,
    "Policy hash published by the ".toList ++ source ++
      " does not match the local policy file.\n  local:  ".toList ++ expected ++ "\n  ".toList ++
      padEnd 6 ' ' source ++ ": ".toList ++ actual ++
      ("\nRefusing to start. One of these has been edited without the others, and until you " ++
        "know which, the limits this agent runs under are unknown.").toList⟩

namespace HookEnforcer

def request (e : HookEnforcer) (intent : NormalizedIntent) : UserOperationRequest :=
  ⟨e.account, intent.raw.toAddress, intent.raw.data, intent.raw.value⟩

def execute (e : HookEnforcer) (intent : NormalizedIntent) : Submission := .send (e.request intent)

def executeWithOwnerApproval (e : HookEnforcer) (intent : NormalizedIntent) (signature : Text) :
    Except JsError Submission :=
  if ¬ e.executor.sendsAsOwner then
    thrown ("This executor cannot submit under the owner validator. Human approval requires an " ++
      "owner-capable executor — the agent session key must not be able to raise its own " ++
      "ceiling.").toList
  else .ok (.sendAsOwner (e.request intent) signature)

def assertInstalledPolicyHash (e : HookEnforcer) (expected : Text) : Except JsError Unit :=
  match e.chain with
  | none => .ok ()
  | some call => do
      let raw ← call e.hook (CONFIG_SELECTOR ++ padStart 64 '0' (toLowerCase (e.account.drop 2)))
      if raw.length < 2 + 64 * 6 then
        thrown ("Hook at ".toList ++ e.hook ++ " returned no config for ".toList ++ e.account)
      else do
        let installed ← bigIntHex (slice raw (2 + 64 * 5) (2 + 64 * 6))
        if installed ≠ 1 then
          thrown ("AgentPolicyHook is not installed on ".toList ++ e.account ++
            (". The SDK will not run against an account with no enforcement layer — that would " ++
              "be advice with nothing behind it.").toList)
        else
          let onchain := toLowerCase ("0x".toList ++ slice raw (2 + 64 * 4) (2 + 64 * 5))
          if onchain ≠ toLowerCase expected then policyBindingError "hook".toList expected onchain
          else .ok ()

end HookEnforcer

/-! ## `createAgentProof` and `protect` -/

/-- What the identity provider answers at startup. -/
structure IdentityProvider where
  resolvePolicyHash : Text → Except JsError Text
  resolveStatus : Text → Except JsError Text

structure EnforcementConfig where
  executor : Executor
  hook : Option Text
  account : Option Text
  chain : Option (Text → Text → Except JsError Text)

/-- The configuration; the approver's answers come later, so here it is only
whether there is one. -/
structure AgentProofConfig where
  policy : PolicyDocument
  identity : Option IdentityProvider
  approver : Bool
  enforcement : Option EnforcementConfig
  decoders : Option DecoderRegistry
  allowUnknownSelectors : Bool

/-- The `deps` of an instance. -/
structure Deps where
  policy : ResolvedPolicy
  engine : PolicyEngineOptions
  enforcer : Option HookEnforcer
  approver : Bool

/-- Binding check 1: the name. -/
def checkName (agent hash : Text) : Option IdentityProvider → Except JsError Unit
  | none => .ok ()
  | some identity => do
      let published ← identity.resolvePolicyHash agent
      if toLowerCase published ≠ toLowerCase hash then policyBindingError "ens".toList hash published
      else do
        let status ← identity.resolveStatus agent
        if status ≠ "active".toList then
          thrown ("Agent ".toList ++ agent ++ " is marked '".toList ++ status ++
            ("' in its ENS records. Refusing to start. Suspension is a kill switch an operator " ++
              "can pull without touching the agent process.").toList)
        else .ok ()

/-- Binding check 2: the hook. -/
def checkHook (hash : Text) : Option HookEnforcer → Except JsError Unit
  | none => .ok ()
  | some enforcer => enforcer.assertInstalledPolicyHash hash

def createAgentProof (policyHash : PolicyDocument → Text) (config : AgentProofConfig) :
    Except JsError Deps := do
  let policy ← resolvePolicy policyHash config.policy
  checkName config.policy.agent policy.hash config.identity
  let engine := { createEngine policy config.allowUnknownSelectors with
    decoders := config.decoders.getD createDefaultRegistry }
  let enforcer := config.enforcement.map fun enforcement =>
    ({ account := enforcement.account.getD policy.account
       hook := enforcement.hook.getD policy.hook
       executor := enforcement.executor
       chain := enforcement.chain } : HookEnforcer)
  checkHook policy.hash enforcer
  .ok ⟨policy, engine, enforcer, config.approver⟩

/-- An account whose actions go through the engine; `enforcer` is what `protect`
settles on. -/
structure ProtectedAccount where
  deps : Deps
  enforcer : Option HookEnforcer

def Deps.protect (deps : Deps) (executor : Option Executor) : ProtectedAccount where
  deps := deps
  enforcer := deps.enforcer.or (executor.map fun executor =>
    ⟨deps.policy.account, deps.policy.hook, executor, none⟩)

/-! ## `execute` as a process -/

structure ApprovalRequest where
  id : Text
  intent : NormalizedIntent
  reason : Text
  threshold : Int
  expiresAt : Nat

structure ApprovalOutcome where
  approved : Bool
  signature : Option Text
  approvedBy : Text

/-- A policy result with what `execute` adds to it. -/
structure ExecuteResult extends PolicyResult where
  sequence : Nat
  approvalRequest : Option ApprovalRequest
  txHash : Option Text

/-- What a call of `execute` waits for, with its local variables. -/
inductive ExecuteCall
  | gathering (intent : NormalizedIntent) (dayUtc : Nat) (dailySpend balance : Option Int)
  | approving (intent : NormalizedIntent) (state : PolicyState) (result : ExecuteResult)
      (request : ApprovalRequest)
  | submitting (intent : NormalizedIntent) (result : ExecuteResult)
  | recording (intent : NormalizedIntent) (result : ExecuteResult) (txHash : Text)
  | returned (result : ExecuteResult)
  | rejected (e : JsError)

/-- The executor was called: by which call of `execute`, on which UTC day, and on
what state the engine had decided. -/
structure Submitted where
  call : Nat
  day : Nat
  state : PolicyState
  intent : NormalizedIntent
  submission : Submission

structure Process where
  /-- The clock, in milliseconds. -/
  now : Nat
  /-- The agent's published status. -/
  status : Text
  sequence : Nat
  calls : List ExecuteCall
  submitted : List Submitted
  /-- What has been recorded, and on which UTC day. -/
  recorded : List (Nat × Int)
  published : List ExecuteResult

inductive ExecuteEvent
  | execute (action : Action)
  | spendReplies (call : Nat) (reply : Except JsError Int)
  | balanceReplies (call : Nat) (reply : Except JsError Int)
  /-- The call runs on from its two state reads. -/
  | decides (call : Nat)
  | approverReplies (call : Nat) (reply : Except JsError ApprovalOutcome)
  | executorReplies (call : Nat) (reply : Except JsError Text)
  | recordReplies (call : Nat) (reply : Except JsError Unit)
  | setStatus (status : Text)
  | tick (ms : Nat)

def utcDay (timestampMs : Nat) : Nat := timestampMs / 1000 / 86400

namespace Process

def become (s : Process) (i : Nat) (call : ExecuteCall) : Process :=
  { s with calls := s.calls.set i call }

/-- `publish(result)` and return it. -/
def finish (s : Process) (i : Nat) (result : ExecuteResult) : Process :=
  { s.become i (.returned result) with published := s.published ++ [result] }

/-- What follows once the verdict is to allow. -/
def submit (account : ProtectedAccount) (s : Process) (i : Nat) (intent : NormalizedIntent)
    (state : PolicyState) (result : ExecuteResult) : Process :=
  match account.enforcer with
  | none =>
      { s.become i (.returned { result with
          reason := result.reason ++ " (not executed: no executor configured)".toList }) with
        published := s.published ++ [result] }
  | some enforcer =>
      let submission := match result.approvalRequest with
        -- no result carries an owner's signature
        | some _ => enforcer.executeWithOwnerApproval intent "0x".toList
        | none => .ok (enforcer.execute intent)
      match submission with
      | .ok submission =>
          { s.become i (.submitting intent result) with
            submitted := s.submitted ++ [⟨i, utcDay s.now, state, intent, submission⟩] }
      | .error e => s.become i (.rejected e)

def evaluate (account : ProtectedAccount) (s : Process) (i : Nat) (intent : NormalizedIntent)
    (state : PolicyState) : Process :=
  let s := { s with sequence := s.sequence + 1 }
  let result : ExecuteResult :=
    { PolicyEngine.evaluate account.deps.engine.policies intent state with
      sequence := s.sequence
      approvalRequest := none
      txHash := none }
  match result.decision with
  | .allow => s.submit account i intent state result
  | .block => s.finish i result
  | .requireApproval =>
      if ¬ account.deps.approver then
        s.finish i { result with
          decision := .block
          reason := result.reason ++ ", and no approver is configured".toList }
      else
        s.become i (.approving intent state result {
          id := account.deps.policy.account ++ ":".toList ++ toDecimal result.sequence ++
            ":".toList ++ toDecimal s.now
          intent := result.intent
          reason := result.reason
          threshold := account.deps.policy.approvalThreshold
          expiresAt := s.now + 120000 })

/-- One step of one call, or of the world around them. -/
def step (account : ProtectedAccount) (s : Process) : ExecuteEvent → Option Process
  | .execute action =>
      let call : ExecuteCall :=
        match account.deps.engine.decoders.decode action account.deps.engine.decoderContext with
        | .ok intent => .gathering intent (utcDay s.now) none none
        | .error e => .rejected e
      some { s with calls := s.calls ++ [call] }
  | .spendReplies i reply =>
      match s.calls[i]? with
      | some (.gathering intent dayUtc none balance) =>
          match reply with
          | .ok dailySpend => some (s.become i (.gathering intent dayUtc (some dailySpend) balance))
          | .error e => some (s.become i (.rejected e))
      | _ => none
  | .balanceReplies i reply =>
      match s.calls[i]? with
      | some (.gathering intent dayUtc dailySpend none) =>
          match reply with
          | .ok balance => some (s.become i (.gathering intent dayUtc dailySpend (some balance)))
          | .error e => some (s.become i (.rejected e))
      | _ => none
  | .decides i =>
      match s.calls[i]? with
      | some (.gathering intent dayUtc (some dailySpend) (some balance)) =>
          some (s.evaluate account i intent
            ⟨account.deps.policy.account, dayUtc, dailySpend, balance, account.deps.policy.asset⟩)
      | _ => none
  | .approverReplies i reply =>
      match s.calls[i]? with
      | some (.approving intent state result request) =>
          match reply with
          | .ok outcome =>
              if outcome.approved then
                some (s.submit account i intent state { result with
                  decision := .allow
                  reason := "approved by ".toList ++ outcome.approvedBy
                  approvalRequest := some request })
              else
                some (s.finish i { result with
                  decision := .block
                  reason := "declined by ".toList ++ outcome.approvedBy
                  approvalRequest := some request })
          | .error e => some (s.become i (.rejected e))
      | _ => none
  | .executorReplies i reply =>
      match s.calls[i]? with
      | some (.submitting intent result) =>
          match reply with
          | .ok txHash => some (s.become i (.recording intent result txHash))
          | .error e => some (s.become i (.rejected e))
      | _ => none
  | .recordReplies i reply =>
      match s.calls[i]? with
      | some (.recording intent result txHash) =>
          match reply with
          | .ok _ =>
              let s := s.finish i { result with txHash := some txHash }
              some { s with recorded := s.recorded ++ [(utcDay s.now, intent.notionalUSDC)] }
          | .error e => some (s.become i (.rejected e))
      | _ => none
  | .setStatus status => some { s with status := status }
  | .tick ms => some { s with now := s.now + ms }

/-- The process when the instance has just been created. -/
def initial (now : Nat) : Process := ⟨now, "active".toList, 0, [], [], [], []⟩

def sumOn (day : Nat) (log : List (Nat × Int)) : Int :=
  ((log.filter fun entry => entry.1 = day).map Prod.snd).sum

/-- The sum of the notionals submitted on the day. -/
def submittedOn (s : Process) (day : Nat) : Int :=
  sumOn day (s.submitted.map fun x => (x.day, x.intent.notionalUSDC))

/-- The sum of the notionals recorded on the day. -/
def recordedOn (s : Process) (day : Nat) : Int := sumOn day s.recorded

end Process

end Sdk

end AgentProof
