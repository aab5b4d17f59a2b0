import AgentProof.Api.Gate
import AgentProof.Api.Routes
import AgentProof.Sdk.Approval

/-!
# The Verification API

`server.ts`: the routes of the server, and its requests as they interleave at
every wait.  A request goes from wait to wait; on the way it may publish an
event, open or settle an approval, store a policy, record a verdict.  What a
request waits for is answered by the world outside, in any order: bodies, files,
facilitator, state reads, timers.

The texts by which a client shows who it is, and what the server makes of the
admin token, are of any type with the operations on texts the server uses: they
are texts, or texts that depend on what a client does not know.  The proof
artifacts, the headers that do not depend on the request and the loggers are left
out.
-/

namespace AgentProof

namespace Api

open Sdk Js

/-! ## Configuration -/

/-- `sha256` is in hexadecimal. -/
structure Texts (M : Type) where
  ofText : Text → M
  append : M → M → M
  take : Nat → M → M
  sha256 : M → M
  base64url : M → M

variable {M Payload : Type}

def tokenFingerprint (texts : Texts M) (token : M) : M := texts.take 12 (texts.sha256 token)

def sessionValue (texts : Texts M) (token : M) : M :=
  texts.base64url (texts.append (texts.ofText "v1:".toList) (tokenFingerprint texts token))

structure X402Config where
  enabled : Bool
  network : Text
  asset : Text
  assetDecimals : Nat
  payTo : Text
  priceVerify : Text
  priceDecode : Text
  baseUrl : Text
  /-- The facilitator's, when it has told. -/
  feePayer : Option Text

def X402Config.gateAt (config : X402Config) (price : Text) : X402Options where
  network := config.network
  asset := config.asset
  payTo := config.payTo
  price := price
  assetDecimals := config.assetDecimals
  extra := config.feePayer.map some
  baseUrl := config.baseUrl
  enabled := config.enabled

/-- An empty admin token counts as none. -/
structure ServerOptions (M Payload : Type) where
  texts : Texts M
  adminToken : Option M
  agent : Text
  policyPath : Option Text
  x402 : Option X402Config
  /-- There is an audit trail. -/
  audit : Bool
  deployment : Deployment
  /-- The account's balance can be read. -/
  readsBalance : Bool
  /-- The floor for pools, where they can be read. -/
  minTvlUsd : Option Rat
  /-- There is a universal resolver. -/
  resolvesNames : Bool
  /-- The hook's window can be read. -/
  readsChain : Bool
  approvalTimeoutMs : Nat
  codec : PaymentCodec Payload
  policyHash : PolicyDocument → Text
  keccak256 : Text → Text
  stringify : Json → Text
  decodeURIComponent : Text → Except JsError Text

/-- `buildEngine`, for the pool a verdict is to see. -/
def buildEngine (o : ServerOptions M Payload) (p : ResolvedPolicy)
    (pool : Option (Option PoolState)) : PolicyEngineOptions where
  decoders := createDefaultRegistry
  decoderContext := ⟨p.account, p.asset⟩
  policies :=
    [AllowlistPolicy p.allowedContracts p.allowedRecipients false,
      MaxTransactionPolicy p.maxTransaction] ++
    (if o.readsBalance then [MinBalancePolicy p.minBalance] else []) ++
    [DailySpendPolicy p.dailySpend] ++
    (o.minTvlUsd.map fun floor => PoolLiquidityPolicy floor pool).toList ++
    [ApprovalThresholdPolicy p.approvalThreshold]

/-- The pair whose pool is read for a swap. -/
def poolPair (policy : ResolvedPolicy) (intent : NormalizedIntent) : Option (Text × Text) :=
  if intent.kind ≠ .swap then none
  else
    let other := intent.outflow.find? fun flow =>
      toLowerCase flow.asset ≠ toLowerCase policy.asset
    ((other.map AssetAmount.asset).or intent.counterparty).bind fun pair =>
      if pair = [] then none else some (policy.asset, pair)

/-! ## Requests and responses -/

/-- `session` is the value of the session cookie, `admin` and `payment` the
headers `X-AgentProof-Admin` and `X-PAYMENT`. -/
structure Request (M : Type) where
  method : Text
  path : Text
  session : Option M
  admin : Option M
  payment : Option Text

inductive Route
  | preflight
  | health
  | dashboard
  | openapi
  | login
  | verify
  | decode
  | policy (name : Text)
  | spend (account : Text)
  | stream
  | approve
  | internalPublish
  | publish
  | proofs
  | putPolicy
  | notFound
  deriving DecidableEq, Repr

/-- What follows the prefix in a path, if anything does. -/
def pathAfter (start path : Text) : Option Text :=
  if start.isPrefixOf path ∧ start.length < path.length then some (path.drop start.length) else none

/-- The first route that matches. -/
def Request.route (request : Request M) : Route :=
  let path := request.path
  let is (method : String) := request.method = method.toList
  if is "OPTIONS" then .preflight
  else if path = "/health".toList then .health
  else if path = "/".toList ∨ path = "/dashboard".toList then .dashboard
  else if path = "/openapi.yaml".toList then .openapi
  else if path = "/v1/dashboard/login".toList ∧ is "POST" then .login
  else if path = "/v1/verify".toList ∧ is "POST" then .verify
  else if path = "/v1/decode".toList ∧ is "POST" then .decode
  else
    match (pathAfter "/v1/policy/".toList path).filter fun _ => is "GET" with
    | some name => .policy name
    | none =>
        match (pathAfter "/v1/spend/".toList path).filter fun name => isAddress name ∧ is "GET" with
        | some account => .spend account
        | none =>
            if path = "/v1/stream".toList ∧ is "GET" then .stream
            else if path = "/v1/approve".toList ∧ is "POST" then .approve
            else if path = "/v1/internal/publish".toList ∧ is "POST" then .internalPublish
            else if path = "/v1/publish".toList ∧ is "POST" then .publish
            else if path = "/v1/proofs".toList ∧ is "GET" then .proofs
            else if path = "/v1/policy".toList ∧ is "PUT" then .putPolicy
            else .notFound

/-- What the priced routes return. -/
inductive Wire
  | verdict (body : VerdictBody)
  | intent (intent : NormalizedIntent)
  deriving DecidableEq, Repr

structure HealthView (M : Type) where
  mode : Text
  policyHash : Text
  agent : Text
  account : Text
  hook : Text
  x402 : Bool
  dashboardAuth : Bool
  dashboardSession : Bool
  adminTokenFingerprint : Option M

/-- What a name resolves to. -/
structure EnsRecords where
  publishedHash : Text
  hook : Option Text
  status : Text

/-- A policy as `/v1/policy/:name` shows it; the records are there where names resolve. -/
structure PolicyView where
  name : Text
  records : Option (EnsRecords × Bool)
  document : PolicyDocument
  policyHash : Text

structure PolicyUpdate where
  policyHash : Text
  policies : PolicyEntries
  persisted : Bool
  policyPath : Option Text
  /-- Whether the published hash is the local one, and the published hash. -/
  ens : Option (Bool × Text)

inductive Response (M : Type)
  | noContent
  | health (view : HealthView M)
  | file (content : Text)
  | loggedIn (cookie : M)
  | wire (wire : Wire) (payment : Option PaymentResponse)
  | challenge (requirements : PaymentRequirements) (error : Text)
  | unavailable
  | policy (view : PolicyView)
  | spend (view : SpendView)
  | proofs
  | subscribed
  | settled (settled : Bool)
  | published (clients : Nat)
  | policyUpdated (view : PolicyUpdate)
  | error (status : Nat) (message : Text)

def Response.status : Response M → Nat
  | noContent => 204
  | challenge _ _ => 402
  | unavailable => 503
  | settled false => 404
  | published _ => 202
  | error status _ => status
  | _ => 200

/-- How the gate's replies go out; an exception goes through `respondError`. -/
def Response.ofReply : Reply Wire → Response M
  | .challenge requirements message => challenge requirements message
  | .unavailable => unavailable
  | .answered result payment => wire result payment
  | .raised e => error (errorStatus e) e.message

/-! ## The event stream -/

inductive StreamType
  | decision
  | thought
  | approval
  | identity
  deriving DecidableEq, Repr

inductive StreamData
  | verdict (body : VerdictBody)
  | approval (id reason : Text) (intent : NormalizedIntent) (expiresAt : Nat)
  | posted (data : Option Json)

structure StreamEvent where
  type : StreamType
  data : StreamData

/-- The subscribers and the events a new one is shown. -/
structure EventStream where
  clients : List Nat
  recent : List StreamEvent

def EventStream.publish (stream : EventStream) (event : StreamEvent) : EventStream :=
  let recent := stream.recent ++ [event]
  { stream with recent := if recent.length > 50 then recent.drop 1 else recent }

/-! ## Requests in flight -/

/-- Where the work of a verification stands. -/
inductive Work
  | idle
  | gathering (action : Sdk.Action) (dayUtc : Nat) (dailySpend balance : Option Int)
  | readingPool (action : Sdk.Action) (dayUtc : Nat) (dailySpend balance : Int)
  /-- `outcome` is what the approval's promise has been resolved with. -/
  | approving (body : VerdictBody) (id : Text) (outcome : Option ApprovalOutcome)

/-- A request behind a gate; without one it works as behind a disabled gate.
`evaluated` is the engine's result and the time of it. -/
structure PricedCall where
  call : GateCall Wire
  body : Json
  work : Work
  evaluated : Option (PolicyResult × Nat)

inductive Phase (M : Type)
  | readingBody
  | readingFile
  | priced (priced : PricedCall)
  | readingSpend (account : Text) (dayUtc : Nat)
  | readingChain (account : Text) (dayUtc : Nat) (spentGraph : Int)
  | resolvingPolicy (name : Text)
  | writingPolicy (document : PolicyDocument) (resolved : ResolvedPolicy)
  | checkingName (document : PolicyDocument) (persisted : Bool)
  | finished (response : Response M)

/-- The response a request has ended with. -/
def Phase.response : Phase M → Option (Response M)
  | finished response => some response
  | priced ⟨.finished _ reply, _, _, _⟩ => some (.ofReply reply)
  | _ => none

/-- What a request does to the rest of the server. -/
inductive Effect
  | guard (guard : ReplayGuard)
  /-- The engine built from the policy came to the result. -/
  | decide (engine : ResolvedPolicy) (result : PolicyResult)
  | publish (event : StreamEvent)
  | ask (id : Text)
  | settle (id : Text) (outcome : ApprovalOutcome)
  | forget (id : Text)
  | write (document : Option PolicyDocument)
  | store (policy : ResolvedPolicy)
  | record (record : PublicAuditRecord)
  | subscribe
  | unsubscribe

/-- `engine` is what the engine was built from; `file` is what the policy file
says.  Decisions, events and records are kept with the request they came from. -/
structure Server (M : Type) where
  policy : ResolvedPolicy
  engine : ResolvedPolicy
  guard : ReplayGuard
  approver : DashboardApprover Nat
  stream : EventStream
  file : Option PolicyDocument
  requests : List (Request M × Phase M)
  decided : List (Nat × ResolvedPolicy × PolicyResult)
  published : List (Nat × StreamEvent)
  audited : List (Nat × PublicAuditRecord)

/-- What a request may be told. -/
inductive Answer (M : Type)
  | body (body : Except JsError Json)
  /-- The `token` in the body of a login. -/
  | token (token : Except JsError (Option M))
  | file (content : Except JsError Text)
  | verification (reply : Except JsError Verification)
  | dailySpend (reply : Except JsError Int)
  | balance (reply : Except JsError Int)
  /-- The request runs on from its state reads. -/
  | decides
  | pool (reply : Except JsError (Option PoolState))
  | timer
  /-- The request runs on from its approval. -/
  | approval
  | settlement (reply : Except JsError SettlementResult)
  /-- A write that fails leaves something in the file, or nothing that is a policy. -/
  | written (reply : Except (JsError × Option PolicyDocument) Unit)
  | ens (reply : Except JsError EnsRecords)
  | onchain (reply : Option Int)
  | closed

inductive Happening (M : Type)
  | arrives (request : Request M)
  | answers (request : Nat) (answer : Answer M)

/-- A happening, with the clock and what the random source gives. -/
structure ServerEvent (M : Type) where
  now : Nat
  random : Text
  happening : Happening M

end Api

end AgentProof
