import AgentProof.Sdk.Numbers
import AgentProof.Sdk.SwapInputs

/-!
# The x402 client

`x402-client/src/index.ts` and `hedera.ts`: a paid resource is fetched, and a 402
challenge is answered with a signed payment once the price and the policy allow it.
What the client does to the world outside is recorded in order: its requests, the
calls of `authorise` and those of the signer.  These three answer as they please, and
may throw.

A reply is what the client reads of it.  The chain id, which goes into no calldata, and
the logger are left out.
-/

namespace AgentProof

namespace X402

open Js Sdk Binary64

/-! ## `decode/x402.ts` -/

structure PaymentParams where
  facilitator : Text
  token : Text
  payTo : Text
  amount : Int
  requestId : Text
  deriving DecidableEq, Repr

/-- The action of an agent that answers a challenge. -/
def x402PaymentAction (params : PaymentParams) : Except JsError Sdk.Action := do
  let token ← bigInt params.token
  let payTo ← bigInt params.payTo
  .ok {
    toAddress := params.facilitator
    data := SELECTOR_X402_SETTLE ++ Calldata.bigWord token ++ Calldata.bigWord payTo ++
      Calldata.bigWord params.amount ++ padStart 64 '0' (params.requestId.drop 2)
    value := 0 }

/-! ## `index.ts` -/

structure PaymentRequirements where
  scheme : Text
  network : Text
  asset : Text
  amount : Text
  payTo : Text
  resource : Text
  nonce : Text
  maxTimeoutSeconds : Option Nat
  /-- `extra`, with its `feePayer`. -/
  extra : Option (Option Text)
  deriving DecidableEq, Repr

structure PolicyContext where
  facilitator : Text
  token : Text
  deriving DecidableEq, Repr

structure X402ClientOptions where
  signPayment : PaymentRequirements → Except JsError Text
  authorise : Option (Sdk.Action → PaymentRequirements → Except JsError Bool)
  policyContext : Option PolicyContext
  maxPricePerCall : Option Text

/-- `throw new PaymentRefused(reason)`. -/
def paymentRefused {α : Type} (reason : Text) : Except JsError α :=
  .error ⟨"PaymentRefused".toList, "Payment refused: ".toList ++ reason⟩

/-- `n.toString(16)` of a bigint. -/
def toString16 (n : Int) : Text := if n < 0 then '-' :: toHex n.natAbs else toHex n.natAbs

/-- Maps a Hedera account id (0.0.x) into the address shape the decoder expects. -/
def toEvmAddress (accountId : Text) : Except JsError Text :=
  if isAddress accountId then .ok (toLowerCase accountId)
  else do
    let num ← bigInt ((accountId.splitOn '.').getLastD "0".toList)
    .ok ('0' :: 'x' :: padStart 40 '0' (toString16 num))

/-- `BigInt(Math.round(Number(amount) * 1e6))`. -/
def policyAmount (amount : Text) : Except JsError Int :=
  bigIntOfDouble ((number amount).mul (.finite (10 ^ 6))).roundHalfUp

/-- The nonce without its dashes, as 32 bytes. -/
def requestIdOf (nonce : Text) : Text :=
  '0' :: 'x' :: (padEnd 64 '0' (nonce.filter (· ≠ '-'))).take 64

/-- The action that `checkPolicy` hands to `authorise`. -/
def proposedAction (context : PolicyContext) (requirements : PaymentRequirements) :
    Except JsError Sdk.Action := do
  let payTo ← toEvmAddress requirements.payTo
  let amount ← policyAmount requirements.amount
  x402PaymentAction {
    facilitator := context.facilitator
    token := context.token
    payTo := payTo
    amount := amount
    requestId := requestIdOf requirements.nonce }

/-- A price above the ceiling, where there is one. -/
def aboveCeiling (maxPricePerCall : Option Text) (amount : Text) : Bool :=
  match maxPricePerCall with
  | none => false
  | some ceiling => ceiling ≠ [] && (number amount).gt (number ceiling)

def checkPrice (options : X402ClientOptions) (requirements : PaymentRequirements) :
    Except JsError Unit :=
  if aboveCeiling options.maxPricePerCall requirements.amount then
    paymentRefused ("service asked for ".toList ++ requirements.amount ++
      " but this client's ceiling is ".toList ++ options.maxPricePerCall.getD [] ++
      " per call".toList)
  else .ok ()

/-! ## What the client does -/

inductive Event
  /-- A request, with the `X-PAYMENT` header it carries. -/
  | attempt (payment : Option Text)
  | authorise (action : Sdk.Action) (requirements : PaymentRequirements)
      (answer : Except JsError Bool)
  | signPayment (requirements : PaymentRequirements)

/-- What is done until a value is returned, or an error thrown. -/
structure Traced (α : Type) where
  events : List Event
  result : Except JsError α

namespace Traced

variable {α β : Type}

instance : Monad Traced where
  pure value := ⟨[], .ok value⟩
  bind first next :=
    match first.result with
    | .ok value => ⟨first.events ++ (next value).events, (next value).result⟩
    | .error e => ⟨first.events, .error e⟩

/-- Nothing is done to the world outside. -/
def silent (result : Except JsError α) : Traced α := ⟨[], result⟩

/-- One call of the world outside. -/
def call (event : Event) (result : Except JsError α) : Traced α := ⟨[event], result⟩

theorem events_bind (first : Traced α) (next : α → Traced β) :
    (first >>= next).events = first.events ++
      match first.result with
      | .ok value => (next value).events
      | .error _ => [] := by
  obtain ⟨events, result⟩ := first
  cases result with
  | ok => rfl
  | error => exact (List.append_nil events).symm

end Traced

/-- What the client reads of a reply: the status, the `accepts` of a challenge, the data, and
the transaction of the `X-PAYMENT-RESPONSE` header. -/
structure Response (Data : Type) where
  status : Nat
  accepts : Except JsError (Option (List PaymentRequirements))
  data : Except JsError Data
  transaction : Except JsError (Option Text)

def Response.ok {Data : Type} (response : Response Data) : Bool :=
  200 ≤ response.status && response.status ≤ 299

/-- The answers to the two attempts, the second one's by its payment. -/
structure Endpoint (Data : Type) where
  first : Except JsError (Response Data)
  second : Option Text → Except JsError (Response Data)

structure Fetched (Data : Type) where
  data : Data
  paid : Bool
  transactionId : Option Text

def checkPolicy (options : X402ClientOptions) (requirements : PaymentRequirements) : Traced Unit :=
  match options.authorise, options.policyContext with
  | some authorise, some context => do
      let action ← Traced.silent (proposedAction context requirements)
      let answer := authorise action requirements
      let approved ← Traced.call (.authorise action requirements answer) answer
      if approved then pure ()
      else Traced.silent (paymentRefused "AgentProof policy declined this payment".toList)
  | _, _ => pure ()

/-- Answering the challenge: the payment is signed, and the request repeated with it. -/
def pay {Data : Type} (options : X402ClientOptions) (endpoint : Endpoint Data)
    (requirements : PaymentRequirements) : Traced (Fetched Data) := do
  let payload ← Traced.call (.signPayment requirements) (options.signPayment requirements)
  let header := if payload = [] then none else some payload
  let second ← Traced.call (.attempt header) (endpoint.second header)
  if second.status = 402 then
    Traced.silent (paymentRefused "endpoint rejected a signed payment".toList)
  else if ¬ second.ok then
    Traced.silent (thrown ("Paid request failed with ".toList ++ toDecimal second.status))
  else
    Traced.silent do
      let transaction ← second.transaction
      let data ← second.data
      .ok ⟨data, true, transaction⟩

def fetchPaid {Data : Type} (options : X402ClientOptions) (endpoint : Endpoint Data) :
    Traced (Fetched Data) := do
  let first ← Traced.call (.attempt none) endpoint.first
  if first.status ≠ 402 then
    Traced.silent do
      let data ← first.data
      .ok ⟨data, false, none⟩
  else
    let accepts ← Traced.silent first.accepts
    match (accepts.getD []).head? with
    | none =>
        Traced.silent (paymentRefused "402 response carried no payment requirements".toList)
    | some requirements =>
        Traced.silent (checkPrice options requirements)
        checkPolicy options requirements
        pay options endpoint requirements

/-! ## `hedera.ts` -/

/-- What `ExactHederaScheme` is asked to sign, and what the facilitator compares. -/
structure ExactRequirements where
  scheme : Text
  network : Text
  amount : Text
  payTo : Text
  maxTimeoutSeconds : Nat
  asset : Text
  feePayer : Text
  deriving DecidableEq, Repr

def PaymentRequirements.exact (requirements : PaymentRequirements) : ExactRequirements where
  scheme := "exact".toList
  network := requirements.network
  amount := requirements.amount
  payTo := requirements.payTo
  maxTimeoutSeconds := requirements.maxTimeoutSeconds.getD 60
  asset := requirements.asset
  feePayer := (requirements.extra.getD none).getD []

structure Envelope (Payload : Type) where
  x402Version : Nat
  scheme : Text
  network : Text
  accepted : ExactRequirements
  payload : Payload

/-- The amount that is signed; a payment of nothing is refused. -/
def signedAmount (requirements : PaymentRequirements) : Except JsError Int := do
  let amount ← bigInt requirements.amount
  if amount ≤ 0 then
    thrown ("Refusing to sign a non-positive payment: ".toList ++ requirements.amount)
  else .ok amount

/-- The scheme with the account's key, and the base64 of an envelope's JSON, are parameters. -/
def hederaSigner {Payload : Type} (createPaymentPayload : ExactRequirements → Except JsError Payload)
    (encode : Envelope Payload → Text) (requirements : PaymentRequirements) :
    Except JsError Text := do
  let _amount ← signedAmount requirements
  let payload ← createPaymentPayload requirements.exact
  .ok (encode ⟨2, requirements.scheme, requirements.network, requirements.exact, payload⟩)

end X402

end AgentProof
