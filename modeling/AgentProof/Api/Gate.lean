import AgentProof.Api.Replay
import AgentProof.Lib.Base64
import AgentProof.Lib.Runs

/-!
# x402 gating

`x402/middleware.ts`: a priced request is verified before its work and settled
after it.  Any number of gates share one guard and their requests interleave at
every wait: for the facilitator's verdict, for the work, for the settlement.
Facilitator and work are the world outside, and answer as they please.

What node does with a header (its digest, and the JSON value in it) is a
parameter, and so is what the work returns, as long as it can be serialised.
The logger is left out.
-/

namespace AgentProof

namespace Api

open Js

/-- `sha256` is in hexadecimal, and `decodePayload` is
`JSON.parse(Buffer.from(header, 'base64').toString('utf8'))` where that does not throw. -/
structure PaymentCodec (Payload : Type) where
  sha256 : Text → Text
  decodePayload : Text → Option Payload

structure X402Options where
  network : Text
  asset : Text
  payTo : Text
  price : Text
  assetDecimals : Nat
  /-- `extra`, with its `feePayer`. -/
  extra : Option (Option Text)
  baseUrl : Text
  enabled : Bool

structure PaymentRequirements where
  scheme : Text
  network : Text
  asset : Text
  amount : Text
  payTo : Text
  resource : Text
  description : Text
  maxTimeoutSeconds : Nat
  facilitator : Text
  nonce : Text
  extra : Option (Option Text)
  deriving DecidableEq, Repr

structure Verification where
  valid : Bool
  reason : Option Text

structure SettlementResult where
  settled : Bool
  transactionId : Option Text
  network : Option Text
  payer : Option Text
  reason : Option Text

/-- What `X-PAYMENT-RESPONSE` carries. -/
structure PaymentResponse where
  success : Bool
  transaction : Option Text
  error : Option Text
  deriving DecidableEq, Repr

/-- Display units to atomic units. -/
def toAtomicUnits (display : Text) (decimals : Nat) : Except JsError Text := do
  let parts := display.splitOn '.'
  let whole := parts.headD "0".toList
  let frac := (parts[1]?).getD []
  let padded := (frac ++ List.replicate decimals '0').take decimals
  let units ← bigInt (if whole = [] then "0".toList else whole)
  let rest ← bigInt (if padded = [] then "0".toList else padded)
  .ok (toDecimal (units * 10 ^ decimals + rest))

def X402Options.requirements (options : X402Options) (resource nonce : Text) :
    Except JsError PaymentRequirements := do
  let amount ← toAtomicUnits options.price options.assetDecimals
  .ok {
    scheme := "exact".toList
    network := options.network
    asset := options.asset
    amount := amount
    payTo := options.payTo
    resource := options.baseUrl ++ resource
    description := "AgentProof policy verification, metered per call".toList
    maxTimeoutSeconds := 60
    facilitator := "blocky402".toList
    nonce := nonce
    extra := options.extra }

def SettlementResult.response (settlement : SettlementResult) : PaymentResponse where
  success := settlement.settled
  transaction := settlement.transactionId
  error :=
    if settlement.settled then none
    else some (settlement.reason.getD "settlement failed".toList)

/-- How a request ends. -/
inductive Reply (Result : Type)
  /-- 402 -/
  | challenge (requirements : PaymentRequirements) (error : Text)
  /-- 503 -/
  | unavailable
  /-- 200, with what became of the payment where one was asked for. -/
  | answered (result : Result) (payment : Option PaymentResponse)
  /-- The gate throws. -/
  | raised (e : JsError)
  deriving DecidableEq, Repr

def Reply.isAnswered {Result : Type} : Reply Result → Bool
  | answered _ _ => true
  | _ => false

/-- What a request waits for.  `claimed` tells whether it passed the replay check. -/
inductive GateCall (Result : Type)
  | verifying (header : Text) (requirements : PaymentRequirements)
  | working (paid : Option (Text × PaymentRequirements))
  | settling (header : Text) (requirements : PaymentRequirements) (result : Result)
  | finished (claimed : Option Text) (reply : Reply Result)
  deriving DecidableEq, Repr

namespace GateCall

variable {Result : Type}

/-- The header a request has passed the replay check with. -/
def claimed : GateCall Result → Option Text
  | verifying header _ => some header
  | working paid => paid.map Prod.fst
  | settling header _ _ => some header
  | finished claimed _ => claimed

def isFinished : GateCall Result → Bool
  | finished _ _ => true
  | _ => false

/-- The header whose claim a request keeps: while it is under way, and for good
once it has been answered. -/
def held : GateCall Result → Option Text
  | finished claimed reply => if reply.isAnswered then claimed else none
  | call => call.claimed

end GateCall

section Requests

variable {Payload Result : Type} (codec : PaymentCodec Payload) (guard : ReplayGuard)

def isWellFormedPayment (header : Text) : Bool := (codec.decodePayload header).isSome

def unused : Text := "This payment payload has already been used; obtain a new one".toList

/-- A request up to its first wait. -/
def gate (options : X402Options) (resource : Text) (header : Option Text) (nonce : Text)
    (now : Int) : GateCall Result × ReplayGuard :=
  if ¬ options.enabled then (.working none, guard)
  else
    match options.requirements resource nonce with
    | .error e => (.finished none (.raised e), guard)
    | .ok requirements =>
        match header with
        | none | some [] =>
            (.finished none (.challenge requirements "Payment required".toList), guard)
        | some header =>
            if ¬ isWellFormedPayment codec header then
              (.finished none (.challenge requirements
                "X-PAYMENT header is not base64-encoded JSON".toList), guard)
            else
              match guard.claim codec.sha256 header now with
              | (false, guard) => (.finished none (.challenge requirements unused), guard)
              | (true, guard) => (.verifying header requirements, guard)

/-- The facilitator's verdict is in. -/
def verified (header : Text) (requirements : PaymentRequirements) :
    Except JsError Verification → GateCall Result × ReplayGuard
  | .error _ => (.finished (some header) .unavailable, guard.release codec.sha256 header)
  | .ok verification =>
      if ¬ verification.valid then
        (.finished (some header) (.challenge requirements
          (verification.reason.getD "Payment verification failed".toList)),
          guard.release codec.sha256 header)
      else (.working (some (header, requirements)), guard)

/-- The work is done, or has failed. -/
def worked : Option (Text × PaymentRequirements) → Except JsError Result →
    GateCall Result × ReplayGuard
  | none, .ok result => (.finished none (.answered result none), guard)
  | none, .error e => (.finished none (.raised e), guard)
  | some (header, requirements), .ok result => (.settling header requirements result, guard)
  | some (header, _), .error e =>
      (.finished (some header) (.raised e), guard.release codec.sha256 header)

/-- A settlement that throws counts as one that was refused. -/
def settlementOf : Except JsError SettlementResult → SettlementResult
  | .ok settlement => settlement
  | .error e => ⟨false, none, none, none, some e.message⟩

def settled (header : Text) (result : Result) (reply : Except JsError SettlementResult) :
    GateCall Result :=
  .finished (some header) (.answered result (some (settlementOf reply).response))

end Requests

/-! ## Requests in flight -/

/-- What a request asks of the world outside. -/
inductive OutsideCall
  | verify (request : Nat) (header : Text)
  | work (request : Nat)
  | settle (request : Nat) (header : Text)
  deriving DecidableEq, Repr

def OutsideCall.request : OutsideCall → Nat
  | verify i _ => i
  | work i => i
  | settle i _ => i

def OutsideCall.isSettle : OutsideCall → Bool
  | settle _ _ => true
  | _ => false

/-- A request with its `X-PAYMENT` header. -/
structure GateRequest (Result : Type) where
  header : Option Text
  call : GateCall Result
  deriving DecidableEq, Repr

/-- The requests of all gates over one guard, and what they have asked for. -/
structure Gates (Result : Type) where
  guard : ReplayGuard
  requests : List (GateRequest Result)
  asked : List OutsideCall

inductive GateEvent (Result : Type)
  | arrives (options : X402Options) (resource : Text) (header : Option Text) (nonce : Text)
      (now : Int)
  | verifyReplies (request : Nat) (reply : Except JsError Verification)
  | workReplies (request : Nat) (reply : Except JsError Result)
  | settleReplies (request : Nat) (reply : Except JsError SettlementResult)

/-- What a request asks for as it comes to wait. -/
def GateCall.asks {Result : Type} (i : Nat) : GateCall Result → List OutsideCall
  | verifying header _ => [.verify i header]
  | working _ => [.work i]
  | settling header _ _ => [.settle i header]
  | finished _ _ => []

namespace Gates

variable {Payload Result : Type} (codec : PaymentCodec Payload)

def become (s : Gates Result) (i : Nat) (header : Option Text)
    (moved : GateCall Result × ReplayGuard) : Gates Result where
  guard := moved.2
  requests := s.requests.set i ⟨header, moved.1⟩
  asked := s.asked ++ moved.1.asks i

def receive (s : Gates Result) (header : Option Text) (moved : GateCall Result × ReplayGuard) :
    Gates Result where
  guard := moved.2
  requests := s.requests ++ [⟨header, moved.1⟩]
  asked := s.asked ++ moved.1.asks s.requests.length

def step (s : Gates Result) : GateEvent Result → Option (Gates Result)
  | .arrives options resource header nonce now =>
      some (s.receive header (gate codec s.guard options resource header nonce now))
  | .verifyReplies i reply =>
      match s.requests[i]? with
      | some ⟨presented, .verifying header requirements⟩ =>
          some (s.become i presented (verified codec s.guard header requirements reply))
      | _ => none
  | .workReplies i reply =>
      match s.requests[i]? with
      | some ⟨presented, .working paid⟩ =>
          some (s.become i presented (worked codec s.guard paid reply))
      | _ => none
  | .settleReplies i reply =>
      match s.requests[i]? with
      | some ⟨presented, .settling header _ result⟩ =>
          some (s.become i presented (settled header result reply, s.guard))
      | _ => none

/-- No request has come in yet. -/
def opened (guard : ReplayGuard) : Gates Result := ⟨guard, [], []⟩

end Gates

/-! ## A gate to run -/

def freshGuard : ReplayGuard := ⟨none, none, .empty⟩

def sampleOptions : X402Options where
  network := "hedera:testnet".toList
  asset := "0.0.429274".toList
  payTo := "0.0.1234".toList
  price := "0.01".toList
  assetDecimals := 6
  extra := none
  baseUrl := "http://localhost:8402".toList
  enabled := true

/-- `{"x402Version":2}` in base64. -/
def samplePayment : Text := "eyJ4NDAyVmVyc2lvbiI6Mn0=".toList

def sampleUnpadded : Text := "eyJ4NDAyVmVyc2lvbiI6Mn0".toList

/-- The digests of the two sample headers are theirs.  A payload is shown as its
JSON text, which has to be the sample's. -/
def sampleCodec : PaymentCodec Text where
  sha256 header :=
    if header = samplePayment then
      "c77c2a8972bd822f3ae02172ed3155b99c226102a5985f8a19b653cb79b9e586".toList
    else if header = sampleUnpadded then
      "353860bf1710bd04950ec511a80cf48fdb66c8b8f5590087866f2767539ae296".toList
    else header
  decodePayload header :=
    let text := (Base64.decode header).map Char.ofNat
    if text = "\x7b\"x402Version\":2\x7d".toList then some text else none

end Api

end AgentProof
