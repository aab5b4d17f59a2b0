import AgentProof.Sdk.Text

/-!
# Actions, intents and policy verdicts

The public types of the SDK.  Amounts are bigints, addresses and calldata are
text, as in the source; an optional field is an `Option`.
-/

namespace AgentProof

namespace Sdk

/-- Where a number came from. -/
inductive Provenance
  | declared
  | decoded
  | measured
  deriving DecidableEq, Repr

inductive Decision
  | allow
  | block
  | requireApproval
  deriving DecidableEq, Repr

def NATIVE_ASSET : Text := "0xEeeeeEeeeEeEeeEeEeEeeEEEeeeeEeeeeeeeEEeE".toList

structure AssetAmount where
  asset : Text
  amount : Int
  provenance : Provenance
  deriving DecidableEq, Repr

/-- What an agent proposes: `to`, the calldata and the native wei. -/
structure Action where
  toAddress : Text
  data : Text
  value : Int
  deriving DecidableEq, Repr

inductive IntentKind
  | transfer
  | approve
  | swap
  | x402Payment
  | nativeTransfer
  | unknown
  deriving DecidableEq, Repr

/-- The decoder-produced view of an action. -/
structure NormalizedIntent where
  kind : IntentKind
  target : Text
  selector : Text
  nativeValue : Int
  outflow : List AssetAmount
  counterparty : Option Text
  notionalUSDC : Int
  summary : Text
  raw : Action
  deriving DecidableEq, Repr

structure PolicyViolation where
  policy : Text
  limit : Int
  observed : Int
  provenance : Provenance
  message : Text
  deriving DecidableEq, Repr

structure PolicyRow where
  id : Text
  name : Text
  decision : Decision
  passed : Bool
  formallyVerified : Bool
  reason : Text
  limit : Option Int
  observed : Option Int
  provenance : Option Provenance
  deriving DecidableEq, Repr

structure PolicyCheck where
  policy : Text
  decision : Decision
  reason : Option Text
  provenance : Option Provenance
  deriving DecidableEq, Repr

/-- Everything a policy needs to decide. -/
structure PolicyState where
  account : Text
  dayUtc : Nat
  dailySpend : Int
  balance : Int
  asset : Text
  deriving DecidableEq, Repr

structure PolicyEvaluation where
  decision : Decision
  violation : Option PolicyViolation
  reason : Option Text
  deriving DecidableEq, Repr

structure Policy where
  id : Text
  formallyVerified : Bool
  evaluate : NormalizedIntent → PolicyState → PolicyEvaluation

end Sdk

end AgentProof
