import AgentProof.Sdk.Policies

/-!
# What leaves for a public ledger

`privacy/index.ts`: the projection of a policy result to an audit record, and the
lines for an approval screen, which stay.  The hash is a parameter.  The status of an attached proof is not in the record, as
results carry no proof here.
-/

namespace AgentProof

namespace Sdk

open Js

def Decision.text : Decision → Text
  | allow => "ALLOW".toList
  | block => "BLOCK".toList
  | requireApproval => "REQUIRE_APPROVAL".toList

def IntentKind.text : IntentKind → Text
  | transfer => "TRANSFER".toList
  | approve => "APPROVE".toList
  | swap => "SWAP".toList
  | x402Payment => "X402_PAYMENT".toList
  | nativeTransfer => "NATIVE_TRANSFER".toList
  | unknown => "UNKNOWN".toList

/-- The text a commitment is the hash of. -/
def commitmentPreimage (salt account : Text) (intent : NormalizedIntent) (decision : Decision) :
    Text :=
  List.intercalate ['|'] [salt, toLowerCase account, intent.kind.text, intent.target,
    intent.counterparty.getD "0x".toList, toDecimal intent.notionalUSDC, decision.text]

/-- `CommitmentScheme.commit`. -/
def commit (keccak256 : Text → Text) (salt account : Text) (intent : NormalizedIntent)
    (decision : Decision) : Text :=
  keccak256 (commitmentPreimage salt account intent decision)

def BUCKET_EDGES : List Int := [1, 10, 100, 1000, 10000, 100000]

/-- The bucket whose upper edge is the first above the amount. -/
def bucketFrom (whole : Int) : List Int → Text
  | low :: high :: rest =>
      if whole < high then toDecimal low ++ "-".toList ++ toDecimal high
      else bucketFrom whole (high :: rest)
  | [last] => ">=".toList ++ toDecimal last
  | [] => []

def bucketAmount (baseUnits : Int) (decimals : Nat) : Text :=
  let whole := baseUnits.tdiv (10 ^ decimals)
  if whole ≤ 0 then "<1".toList else bucketFrom whole BUCKET_EDGES

structure PublicAuditRecord where
  policyHash : Text
  decision : Decision
  decidedBy : Text
  amountBucket : Text
  commitment : Text
  dayUtc : Nat
  deriving DecidableEq, Repr

/-- A fresh salt and the time of the evaluation come with the result. -/
def toPublicAuditRecord (keccak256 : Text → Text) (salt : Text) (evaluatedAt : Nat)
    (result : PolicyResult) (account policyHash : Text) : PublicAuditRecord where
  policyHash := policyHash
  decision := result.decision
  decidedBy :=
    match result.violations with
    | violation :: _ => violation.policy
    | [] => if result.decision = .allow then "none".toList else "approvalThreshold".toList
  amountBucket := bucketAmount result.intent.notionalUSDC 6
  commitment := commit keccak256 salt account result.intent result.decision
  dayUtc := evaluatedAt / 1000 / 86400

/-- The lines an approver shows. -/
def approvalScreenText (intent : NormalizedIntent) : Text :=
  let party := match intent.counterparty with
    | some counterparty => if counterparty = [] then [] else ["to ".toList ++ counterparty]
    | none => []
  List.intercalate ['\n'] (intent.summary :: party ++
    ["worth ".toList ++ displayUsdc intent.notionalUSDC])

end Sdk

end AgentProof
