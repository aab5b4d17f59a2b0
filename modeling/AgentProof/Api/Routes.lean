import AgentProof.Sdk.Json
import AgentProof.Sdk.Execute
import AgentProof.Sdk.Pools
import AgentProof.Sdk.Privacy

/-!
# The routes' own work

`routes/index.ts`: the action in a request, the wire body of a verdict, the
reconciliation view, the policy patch, and the status of an error.  A body says
in values what is sent as JSON.  The chain id of an action is not looked at, and
`JSON.stringify` of a value in an error message is a parameter.
-/

namespace AgentProof

namespace Api

open Sdk Js

/-- `throw new BadRequestError(message)`; the name stands for the class. -/
def badRequest {α : Type} (message : Text) : Except JsError α :=
  .error ⟨"BadRequestError".toList, message⟩

/-! ## Actions -/

/-- `record.data ?? '0x'`, where it is hexadecimal. -/
def actionData (data : Option Json) : Except JsError Text :=
  match data with
  | none | some .null => .ok "0x".toList
  | some (.str data) =>
      if isHex data then .ok data else badRequest "action.data must be 0x-prefixed hex".toList
  | some _ => badRequest "action.data must be 0x-prefixed hex".toList

def actionValue (value : Option Json) : Except JsError Int :=
  match value with
  | none => .ok 0
  | some value =>
      match Json.toBigInt (some value) with
      | .ok value => .ok value
      | .error _ => badRequest "action.value must be an integer string of wei".toList

/-- The target is looked at first, and kept in lower case. -/
def parseAction (input : Option Json) : Except JsError Sdk.Action :=
  match input with
  | some (.obj fields) =>
      match fields.lookup "to".toList with
      | some (.str target) =>
          if isAddress target then do
            let data ← actionData (fields.lookup "data".toList)
            let value ← actionValue (fields.lookup "value".toList)
            .ok ⟨toLowerCase target, data, value⟩
          else badRequest "action.to must be a 20-byte address".toList
      | _ => badRequest "action.to must be a 20-byte address".toList
  | some (.arr _) => badRequest "action.to must be a 20-byte address".toList
  | _ => badRequest "body.action must be an object".toList

/-! ## Verdicts -/

structure Enforcement where
  advisory : Bool
  note : Text
  hook : Text
  account : Text
  mode : Text
  unevaluatedPolicies : List (Text × Text)
  deriving DecidableEq, Repr

/-- What became of an approval that was asked for. -/
structure ApprovalReport where
  requested : Bool
  approved : Bool
  approvedBy : Text
  deriving DecidableEq, Repr

/-- The wire response of `/v1/verify`. -/
structure VerdictBody where
  decision : Decision
  reason : Text
  violations : List PolicyViolation
  policyRows : List PolicyRow
  checks : List PolicyCheck
  intent : NormalizedIntent
  enforcement : Enforcement
  approval : Option ApprovalReport
  deriving DecidableEq, Repr

/-- What a deployment tells with every verdict. -/
structure Deployment where
  mode : Text
  unevaluatedPolicies : List (Text × Text)

def verdictBody (deployment : Deployment) (policy : ResolvedPolicy) (result : PolicyResult) :
    VerdictBody where
  decision := result.decision
  reason := result.reason
  violations := result.violations
  policyRows := result.policyRows
  checks := result.checks
  intent := result.intent
  enforcement := {
    advisory := true
    note := ("This endpoint is advisory. Enforcement is the ERC-7579 hook installed on the " ++
      "account.").toList
    hook := policy.hook
    account := policy.account
    mode := deployment.mode
    unevaluatedPolicies := deployment.unevaluatedPolicies }
  approval := none

/-- The body once a human has answered, or nobody in time. -/
def resolvedBody (body : VerdictBody) (outcome : ApprovalOutcome) : VerdictBody :=
  { body with
    approval := some ⟨true, outcome.approved, outcome.approvedBy⟩
    decision := if outcome.approved then .allow else .block
    reason :=
      if outcome.approved then "approved by ".toList ++ outcome.approvedBy
      else if ":timeout".toList.isSuffixOf outcome.approvedBy then
        "nobody approved it in time — silence is not consent".toList
      else "declined by ".toList ++ outcome.approvedBy }

/-- `verifyRoute`, up to its reads of the state. -/
def readAction (stringify : Json → Text) (policy : ResolvedPolicy) (body : Json) :
    Except JsError Sdk.Action := do
  let agent ← body.property "agent".toList
  match agent with
  | none => parseAction (← body.property "action".toList)
  | some (.str agent) =>
      if agent = policy.document.agent then parseAction (← body.property "action".toList)
      else badRequest ("unknown agent ".toList ++ jsonString agent ++ "; expected ".toList ++
        policy.document.agent)
  | some agent =>
      badRequest ("unknown agent ".toList ++ stringify agent ++ "; expected ".toList ++
        policy.document.agent)

/-! ## The reconciliation view -/

structure SpendView where
  account : Text
  dayUtc : Nat
  spentGraph : Int
  spentOnchain : Option Int
  reconciled : Option Bool
  limit : Int
  remaining : Int
  deriving DecidableEq, Repr

def spendView (policy : ResolvedPolicy) (account : Text) (dayUtc : Nat) (spentGraph : Int)
    (spentOnchain : Option Int) : SpendView where
  account := account
  dayUtc := dayUtc
  spentGraph := spentGraph
  spentOnchain := spentOnchain
  reconciled := spentOnchain.map fun onchain => spentGraph == onchain
  limit := policy.dailySpend
  remaining := if policy.dailySpend > spentGraph then policy.dailySpend - spentGraph else 0

/-! ## The policy patch -/

inductive AmountKey
  | maxTransaction
  | dailySpend
  | approvalThreshold
  | minBalance
  deriving DecidableEq, Repr

inductive AddressKey
  | allowedContracts
  | allowedRecipients
  deriving DecidableEq, Repr

def AmountKey.text : AmountKey → Text
  | maxTransaction => "maxTransaction".toList
  | dailySpend => "dailySpend".toList
  | approvalThreshold => "approvalThreshold".toList
  | minBalance => "minBalance".toList

def AddressKey.text : AddressKey → Text
  | allowedContracts => "allowedContracts".toList
  | allowedRecipients => "allowedRecipients".toList

def AMOUNT_KEYS : List AmountKey := [.maxTransaction, .dailySpend, .approvalThreshold, .minBalance]

def ADDRESS_KEYS : List AddressKey := [.allowedContracts, .allowedRecipients]

def amountOf (policies : PolicyEntries) : AmountKey → Option Text
  | .maxTransaction => policies.maxTransaction
  | .dailySpend => policies.dailySpend
  | .approvalThreshold => policies.approvalThreshold
  | .minBalance => policies.minBalance

def setAmount (policies : PolicyEntries) (value : Text) : AmountKey → PolicyEntries
  | .maxTransaction => { policies with maxTransaction := some value }
  | .dailySpend => { policies with dailySpend := some value }
  | .approvalThreshold => { policies with approvalThreshold := some value }
  | .minBalance => { policies with minBalance := some value }

def addressesOf (policies : PolicyEntries) : AddressKey → Option (List Text)
  | .allowedContracts => policies.allowedContracts
  | .allowedRecipients => policies.allowedRecipients

def setAddresses (policies : PolicyEntries) (value : List Text) : AddressKey → PolicyEntries
  | .allowedContracts => { policies with allowedContracts := some value }
  | .allowedRecipients => { policies with allowedRecipients := some value }

def patchAmount (patch : Json) (policies : PolicyEntries) (key : AmountKey) :
    Except JsError PolicyEntries :=
  let refused := badRequest ("policies.".toList ++ key.text ++
    " must be a base-unit integer string, e.g. \"100000000\" for 100 USDC".toList)
  match patch.field key.text with
  | none => .ok policies
  | some (.str value) =>
      if value ≠ [] ∧ value.all isDigit then .ok (setAmount policies value key) else refused
  | some _ => refused

/-- An entry of an address list, in lower case. -/
def addressEntry : Json → Option Text
  | .str entry => if isAddress entry then some (toLowerCase entry) else none
  | _ => none

def patchAddresses (patch : Json) (policies : PolicyEntries) (key : AddressKey) :
    Except JsError PolicyEntries :=
  let refused := badRequest ("policies.".toList ++ key.text ++
    " must be an array of 20-byte addresses".toList)
  match patch.field key.text with
  | none => .ok policies
  | some (.arr entries) =>
      match entries.mapM addressEntry with
      | some value => .ok (setAddresses policies value key)
      | none => refused
  | some _ => refused

/-- What `resolvePolicy` rejects is the client's mistake. -/
def applyPolicyPatch (policyHash : PolicyDocument → Text) (policy : ResolvedPolicy) (body : Json) :
    Except JsError (PolicyDocument × ResolvedPolicy) :=
  match body with
  | .obj _ | .arr _ => do
      let amounts ← AMOUNT_KEYS.foldlM (patchAmount body) policy.document.policies
      let policies ← ADDRESS_KEYS.foldlM (patchAddresses body) amounts
      let document := { policy.document with policies := policies }
      match resolvePolicy policyHash document with
      | .ok resolved => .ok (document, resolved)
      | .error e => badRequest e.message
  | _ => badRequest "body must be an object".toList

/-! ## Errors -/

/-- `String(error)`. -/
def errorText (e : JsError) : Text :=
  if e.message = [] then e.name else e.name ++ ": ".toList ++ e.message

/-- `/unreachable|unavailable|Cannot determine/i`. -/
def tellsOutage (text : Text) : Bool :=
  ["unreachable", "unavailable", "cannot determine"].any fun phrase =>
    decide (phrase.toList <:+: toLowerCase text)

def errorStatus (e : JsError) : Nat :=
  if e.name = "BadRequestError".toList then 400
  else if tellsOutage (errorText e) then 503
  else 500

end Api

end AgentProof
