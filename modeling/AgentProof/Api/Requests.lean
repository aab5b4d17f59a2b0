import AgentProof.Api.Server

/-!
# The server's requests

What `server.ts` does with a request on arrival, and with each answer to what it
waits for: where the request then stands, and its effects on the server, in
their order.
-/

namespace AgentProof

namespace Api

open Sdk Js

variable {M Payload : Type} [DecidableEq M]

/-! ## Who may do what -/

def ServerOptions.hasDashboardSession (o : ServerOptions M Payload) (request : Request M) : Bool :=
  match o.adminToken with
  | none => true
  | some token => request.session = some (sessionValue o.texts token)

def ServerOptions.isInternalPublisher (o : ServerOptions M Payload) (request : Request M) : Bool :=
  match o.adminToken with
  | none => true
  | some token => request.admin = some token

/-! ## Handlers

Each gives where the request stands next and its effects. -/

section Handlers

variable (o : ServerOptions M Payload) (s : Server M) (now : Nat) (random : Text)

/-- `respondError`. -/
def failed (e : JsError) : Phase M := .finished (.error (errorStatus e) e.message)

def healthView (request : Request M) : HealthView M where
  mode := o.deployment.mode
  policyHash := s.policy.hash
  agent := o.agent
  account := s.policy.account
  hook := s.policy.hook
  x402 := (o.x402.map X402Config.enabled).getD false
  dashboardAuth := o.adminToken.isSome
  dashboardSession := o.hasDashboardSession request
  adminTokenFingerprint := o.adminToken.map (tokenFingerprint o.texts)

/-- A request up to its first wait. -/
def arrive (request : Request M) : Phase M × List Effect :=
  match request.route with
  | .preflight => (.finished .noContent, [])
  | .health => (.finished (.health (healthView o s request)), [])
  | .dashboard | .openapi => (.readingFile, [])
  | .login | .verify | .decode | .publish => (.readingBody, [])
  | .policy name =>
      match o.decodeURIComponent name with
      | .error e => (failed e, [])
      | .ok name =>
          if o.resolvesNames then (.resolvingPolicy name, [])
          else (.finished (.policy ⟨name, none, s.policy.document, s.policy.hash⟩), [])
  | .spend account => (.readingSpend account (utcDay now), [])
  | .stream =>
      if o.hasDashboardSession request then (.finished .subscribed, [.subscribe])
      else (.finished (.error 401 "dashboard session required".toList), [])
  | .approve | .putPolicy =>
      if o.hasDashboardSession request then (.readingBody, [])
      else (.finished (.error 401 "dashboard session required".toList), [])
  | .internalPublish =>
      if o.isInternalPublisher request then (.readingBody, [])
      else (.finished (.error 401 "internal publisher token required".toList), [])
  | .proofs => (.finished .proofs, [])
  | .notFound =>
      (.finished (.error 404 ("No route for ".toList ++ request.method ++ " ".toList ++
        request.path)), [])

/-- `/v1/dashboard/login`, with the token it is told. -/
def login (told : Option M) : Phase M :=
  match o.adminToken with
  | none => .finished (.error 503 "dashboard auth is not configured".toList)
  | some token =>
      if told = some token then .finished (.loggedIn (sessionValue o.texts token))
      else .finished (.error 401 "invalid dashboard token".toList)

/-! ### The priced routes -/

/-- `publishAudit`, which is called once the gate knows what became of the payment. -/
def publishAudit (call : GateCall Wire) (evaluated : Option (PolicyResult × Nat)) : List Effect :=
  match call, evaluated with
  | .finished _ (.answered _ _), some (result, evaluatedAt) =>
      if o.audit then
        [.record (toPublicAuditRecord o.keccak256 random evaluatedAt result s.policy.account
          s.policy.hash)]
      else []
  | _, _ => []

/-- The work is over, and the gate goes on. -/
def finishWork (guard : ReplayGuard) (paid : Option (Text × PaymentRequirements))
    (priced : PricedCall) (reply : Except JsError Wire) : Phase M × List Effect :=
  let moved := worked o.codec guard paid reply
  (.priced { priced with call := moved.1, work := .idle },
    .guard moved.2 :: publishAudit o s random moved.1 priced.evaluated)

/-- `decodeRoute`. -/
def decodeRoute (body : Json) : Except JsError Wire := do
  let engine := buildEngine o s.engine none
  let action ← parseAction (some body)
  let intent ← engine.decoders.decode action engine.decoderContext
  .ok (.intent intent)

/-- The work of a priced route, up to its first wait. -/
def startWork (route : Route) (guard : ReplayGuard) (paid : Option (Text × PaymentRequirements))
    (body : Json) : Phase M × List Effect :=
  let started : PricedCall := ⟨.working paid, body, .idle, none⟩
  match route with
  | .verify =>
      match readAction o.stringify s.policy body with
      | .error e => finishWork o s random guard paid started (.error e)
      | .ok action =>
          (.priced { started with work := .gathering action (utcDay now) none none },
            [.guard guard])
  | _ => finishWork o s random guard paid started (decodeRoute o s body)

/-- The gate has let the request go on, or has answered it. -/
def enter (route : Route) (body : Json) (moved : GateCall Wire × ReplayGuard) :
    Phase M × List Effect :=
  match moved.1 with
  | .working paid => startWork o s now random route moved.2 paid body
  | call => (.priced ⟨call, body, .idle, none⟩, [.guard moved.2])

/-- The body of a priced request is there. -/
def pricedBody (request : Request M) (resource : Text) (price : X402Config → Text) (body : Json) :
    Phase M × List Effect :=
  match o.x402 with
  | none => enter o s now random request.route body (.working none, s.guard)
  | some config =>
      enter o s now random request.route body
        (gate o.codec s.guard (config.gateAt (price config)) resource request.payment random now)

/-- The engine's verdict, on the pool that was read. -/
def evaluate (paid : Option (Text × PaymentRequirements)) (priced : PricedCall) (action : Sdk.Action)
    (dayUtc : Nat) (dailySpend balance : Int) (pool : Option (Option PoolState)) :
    Phase M × List Effect :=
  match (buildEngine o s.engine pool).verify action
    ⟨s.policy.account, dayUtc, dailySpend, balance, s.policy.asset⟩ with
  | .error e => finishWork o s random s.guard paid priced (.error e)
  | .ok result =>
      let body := verdictBody o.deployment s.policy result
      let priced := { priced with evaluated := some (result, now) }
      let told : List Effect := [.decide s.engine result, .publish ⟨.decision, .verdict body⟩]
      if result.decision = .requireApproval then
        (.priced { priced with work := .approving body random none },
          told ++ [.publish ⟨.approval, .approval random result.reason result.intent
            (now + o.approvalTimeoutMs)⟩, .ask random])
      else
        let ended := finishWork o s random s.guard paid priced (.ok (.verdict body))
        (ended.1, told ++ ended.2)

/-- Both state reads are there; a swap's pool is read before the verdict. -/
def decide (paid : Option (Text × PaymentRequirements)) (priced : PricedCall) (action : Sdk.Action)
    (dayUtc : Nat) (dailySpend balance : Int) : Phase M × List Effect :=
  let engine := buildEngine o s.engine none
  match engine.decoders.decode action engine.decoderContext with
  | .error e => finishWork o s random s.guard paid priced (.error e)
  | .ok intent =>
      if o.minTvlUsd.isSome ∧ (poolPair s.policy intent).isSome then
        (.priced { priced with work := .readingPool action dayUtc dailySpend balance }, [])
      else evaluate o s now random paid priced action dayUtc dailySpend balance none

/-- A human has answered, or nobody in time. -/
def resolveApproval (paid : Option (Text × PaymentRequirements)) (priced : PricedCall)
    (body : VerdictBody) (outcome : ApprovalOutcome) : Phase M × List Effect :=
  let resolved := resolvedBody body outcome
  let ended := finishWork o s random s.guard paid priced (.ok (.verdict resolved))
  (ended.1, .publish ⟨.decision, .verdict resolved⟩ :: ended.2)

/-- What an answer makes of a priced request. -/
def pricedAnswer (request : Request M) (priced : PricedCall) (answer : Answer M) :
    Option (Phase M × List Effect) :=
  match priced.call, priced.work, answer with
  | .verifying header requirements, _, .verification reply =>
      some (enter o s now random request.route priced.body
        (verified o.codec s.guard header requirements reply))
  | .working paid, .gathering action dayUtc none balance, .dailySpend reply =>
      match reply with
      | .ok spend =>
          some (.priced { priced with work := .gathering action dayUtc (some spend) balance }, [])
      | .error e => some (finishWork o s random s.guard paid priced (.error e))
  | .working paid, .gathering action dayUtc dailySpend none, .balance reply =>
      match reply with
      | .ok balance =>
          some (.priced { priced with
            work := .gathering action dayUtc dailySpend (some balance) }, [])
      | .error e => some (finishWork o s random s.guard paid priced (.error e))
  | .working paid, .gathering action dayUtc (some dailySpend) (some balance), .decides =>
      some (decide o s now random paid priced action dayUtc dailySpend balance)
  | .working paid, .readingPool action dayUtc dailySpend balance, .pool reply =>
      some (evaluate o s now random paid priced action dayUtc dailySpend balance reply.toOption)
  | .working _, .approving body id none, .timer =>
      some (.priced { priced with
        work := .approving body id (some DashboardApprover.timeoutOutcome) }, [.forget id])
  | .working paid, .approving body _ (some outcome), .approval =>
      some (resolveApproval o s random paid priced body outcome)
  | .settling header _ wire, _, .settlement reply =>
      let call := settled header wire reply
      some (.priced { priced with call := call }, publishAudit o s random call priced.evaluated)
  | _, _, _ => none

/-! ### The dashboard's routes -/

def approveBody (body : Json) : Except JsError (Phase M × List Effect) := do
  let id ← body.property "id".toList
  match id with
  | some (.str id) => do
      let approved ← body.property "approved".toList
      let consent := match approved with
        | some (.bool approved) => approved
        | _ => false
      .ok (.finished (.settled (s.approver.resolve id).isSome),
        [.settle id ⟨consent, none, "dashboard:owner".toList⟩])
  | _ => .ok (.finished (.error 400 "id is required".toList), [])

/-- The type of a posted event; any other is taken for a decision. -/
def postedType (type : Option Json) : StreamType :=
  match type with
  | some (.str type) =>
      if type = "thought".toList then .thought
      else if type = "approval".toList then .approval
      else if type = "identity".toList then .identity
      else .decision
  | _ => .decision

def publishBody (body : Json) : Except JsError (Phase M × List Effect) := do
  let type ← body.property "type".toList
  let data ← body.property "data".toList
  .ok (.finished (.published s.stream.clients.length),
    [.publish ⟨postedType type, .posted data⟩])

/-- The policy is swapped, and the name is looked at where names resolve. -/
def storePolicy (document : PolicyDocument) (resolved : ResolvedPolicy) (persisted : Bool) :
    Phase M :=
  if o.resolvesNames then .checkingName document persisted
  else .finished (.policyUpdated ⟨resolved.hash, document.policies, persisted, o.policyPath, none⟩)

def putPolicyBody (body : Json) : Except JsError (Phase M × List Effect) := do
  let (document, resolved) ← applyPolicyPatch o.policyHash s.policy body
  if o.policyPath.isSome then .ok (.writingPolicy document resolved, [])
  else .ok (storePolicy o document resolved false, [.store resolved])

/-- The published hash is the local one. -/
def matchesLocal (records : EnsRecords) : Bool :=
  toLowerCase records.publishedHash = toLowerCase s.policy.hash

def nameChecked (document : PolicyDocument) (persisted : Bool) (reply : Except JsError EnsRecords) :
    Phase M :=
  .finished (.policyUpdated ⟨s.policy.hash, document.policies, persisted, o.policyPath,
    reply.toOption.map fun records => (matchesLocal s records, records.publishedHash)⟩)

/-- An exception reaches the server. -/
def orFailed (outcome : Except JsError (Phase M × List Effect)) : Phase M × List Effect :=
  match outcome with
  | .ok next => next
  | .error e => (failed e, [])

/-- A request whose body has been read. -/
def bodyRead (request : Request M) (body : Json) : Option (Phase M × List Effect) :=
  match request.route with
  | .verify => some (pricedBody o s now random request "/v1/verify".toList X402Config.priceVerify body)
  | .decode => some (pricedBody o s now random request "/v1/decode".toList X402Config.priceDecode body)
  | .approve => some (orFailed (approveBody s body))
  | .internalPublish | .publish => some (orFailed (publishBody s body))
  | .putPolicy => some (orFailed (putPolicyBody o s body))
  | _ => none

/-- What an answer makes of a request that waits for it. -/
def advance (request : Request M) : Phase M → Answer M → Option (Phase M × List Effect)
  | .readingBody, .body (.ok body) => bodyRead o s now random request body
  | .readingBody, .body (.error e) => some (failed e, [])
  | .readingBody, .token told =>
      if request.route = .login then
        match told with
        | .ok told => some (login o told, [])
        | .error e => some (failed e, [])
      else none
  | .readingFile, .file (.ok content) => some (.finished (.file content), [])
  | .readingFile, .file (.error e) => some (failed e, [])
  | .priced priced, answer => pricedAnswer o s now random request priced answer
  | .readingSpend account dayUtc, .dailySpend (.ok spent) =>
      if o.readsChain then some (.readingChain account dayUtc spent, [])
      else some (.finished (.spend (spendView s.policy account dayUtc spent none)), [])
  | .readingSpend _ _, .dailySpend (.error e) => some (failed e, [])
  | .readingChain account dayUtc spent, .onchain reply =>
      some (.finished (.spend (spendView s.policy account dayUtc spent reply)), [])
  | .resolvingPolicy name, .ens (.ok records) =>
      some (.finished (.policy ⟨name, some (records, matchesLocal s records), s.policy.document,
        s.policy.hash⟩), [])
  | .resolvingPolicy _, .ens (.error e) => some (failed e, [])
  | .writingPolicy document resolved, .written (.ok _) =>
      some (storePolicy o document resolved true, [.write (some document), .store resolved])
  | .writingPolicy _ _, .written (.error (e, left)) => some (failed e, [.write left])
  | .checkingName document persisted, .ens reply => some (nameChecked o s document persisted reply, [])
  | .finished .subscribed, .closed => some (.finished .subscribed, [.unsubscribe])
  | _, _ => none

end Handlers

/-! ## Steps -/

/-- An approval's promise is resolved once. -/
def Phase.answerApproval (outcome : ApprovalOutcome) : Phase M → Phase M
  | .priced ⟨call, body, .approving verdict id none, evaluated⟩ =>
      .priced ⟨call, body, .approving verdict id (some outcome), evaluated⟩
  | phase => phase

namespace Server

def apply (i : Nat) (s : Server M) : Effect → Server M
  | .guard guard => { s with guard := guard }
  | .decide engine result => { s with decided := s.decided ++ [(i, engine, result)] }
  | .publish event =>
      { s with
        stream := s.stream.publish event
        published := s.published ++ [(i, event)] }
  | .ask id => { s with approver := s.approver.request id i }
  | .settle id outcome =>
      match s.approver.resolve id with
      | some j =>
          { s with
            approver := s.approver.delete id
            requests := s.requests.modify j fun served =>
              (served.1, served.2.answerApproval outcome) }
      | none => s
  | .forget id => { s with approver := s.approver.delete id }
  | .write document => { s with file := document }
  | .store policy => { s with policy := policy, engine := policy }
  | .record record => { s with audited := s.audited ++ [(i, record)] }
  | .subscribe => { s with stream := { s.stream with clients := s.stream.clients ++ [i] } }
  | .unsubscribe => { s with stream := { s.stream with clients := s.stream.clients.erase i } }

def applyAll (i : Nat) (s : Server M) (effects : List Effect) : Server M := effects.foldl (apply i) s

def receive (s : Server M) (request : Request M) (phase : Phase M) : Server M :=
  { s with requests := s.requests ++ [(request, phase)] }

def become (s : Server M) (i : Nat) (request : Request M) (phase : Phase M) : Server M :=
  { s with requests := s.requests.set i (request, phase) }

def step (o : ServerOptions M Payload) (s : Server M) (e : ServerEvent M) : Option (Server M) :=
  match e.happening with
  | .arrives request =>
      let next := arrive o s e.now request
      some ((s.receive request next.1).applyAll s.requests.length next.2)
  | .answers i answer =>
      match s.requests[i]? with
      | none => none
      | some (request, phase) =>
          (advance o s e.now e.random request phase answer).map fun next =>
            (s.become i request next.1).applyAll i next.2

/-- A server that has just started. -/
def started (policy : ResolvedPolicy) (file : Option PolicyDocument) : Server M where
  policy := policy
  engine := policy
  guard := ⟨none, none, .empty⟩
  approver := ⟨.empty⟩
  stream := ⟨[], []⟩
  file := file
  requests := []
  decided := []
  published := []
  audited := []

end Server

/-! ## A server to run -/

def sampleToken : Text := "owner-token".toList

/-- The digest of the sample token is its own. -/
def sampleTexts : Texts Text where
  ofText text := text
  append := List.append
  take := List.take
  sha256 text :=
    if text = sampleToken then
      "c32c7bb97d785c65916c05538cfc0f9d94768cb167eb73615071783ccc4bef77".toList
    else text
  base64url text := Base64.encodeUrl (text.map Char.toNat)

/-- A server that asks for no payment and looks at no balance, pool or name; a
policy's hash shows its daily limit. -/
def serverWith (texts : Texts M) (token : M) (policyPath : Option Text) : ServerOptions M Text where
  texts := texts
  adminToken := some token
  agent := "payer.agentproof.eth".toList
  policyPath := policyPath
  x402 := none
  audit := true
  deployment := ⟨"simulation".toList, []⟩
  readsBalance := false
  minTvlUsd := none
  resolvesNames := false
  readsChain := false
  approvalTimeoutMs := 60000
  codec := sampleCodec
  policyHash document := "0x".toList ++ document.policies.dailySpend.getD []
  keccak256 text := text
  stringify _ := []
  decodeURIComponent := .ok

def sampleServer (policyPath : Option Text) : ServerOptions Text Text :=
  serverWith sampleTexts sampleToken policyPath

/-- 100 USDC a payment and 150 a day, and a human from 90 on. -/
def sampleDocument : PolicyDocument where
  version := "agentproof/v1".toList
  agent := "payer.agentproof.eth".toList
  chainId := 1
  asset := ⟨addressText 0xa55e7, 6⟩
  policies := ⟨some "100000000".toList, some "150000000".toList, some "90000000".toList,
    some "0".toList, some [addressText 0x22], none⟩
  enforcement := ⟨addressText 0x400c, addressText 0xacc0⟩

def samplePolicy : ResolvedPolicy where
  document := sampleDocument
  hash := "0x150000000".toList
  maxTransaction := 100000000
  dailySpend := 150000000
  approvalThreshold := 90000000
  minBalance := 0
  allowedContracts := [addressText 0x22, addressText 0xa55e7]
  allowedRecipients := []
  asset := addressText 0xa55e7
  decimals := 6
  account := addressText 0xacc0
  hook := addressText 0x400c

/-- A request that shows nothing of who it is from. -/
def anonymous (method path : String) : Request M :=
  ⟨method.toList, path.toList, none, none, none⟩

/-- The owner, with the session the sample token gives, edits the policy. -/
def ownerEdit : Request Text :=
  ⟨"PUT".toList, "/v1/policy".toList, some (sessionValue sampleTexts sampleToken), none, none⟩

/-- A patch of one amount. -/
def amountPatch (key : AmountKey) (value : String) : Json :=
  .obj [(key.text, .str value.toList)]

def happens (happening : Happening M) : ServerEvent M := ⟨0, "n".toList, happening⟩

/-- A transfer of `amount` to the listed payee. -/
def paymentOf (amount : Nat) : Sdk.Action :=
  ⟨addressText 0xa55e7, "0xa9059cbb".toList ++ word 0x22 ++ word amount, 0⟩

/-- The body of a verification of an action. -/
def actionBody (action : Sdk.Action) : Json :=
  .obj [("action".toList, .obj [("to".toList, .str action.toAddress), ("data".toList, .str action.data)])]

/-- The request `i` has an action verified at `spent` of the day. -/
def verifyCall (i : Nat) (action : Sdk.Action) (spent : Int) : List (ServerEvent Text) :=
  [.arrives (anonymous "POST" "/v1/verify"), .answers i (.body (.ok (actionBody action))),
    .answers i (.dailySpend (.ok spent)), .answers i (.balance (.ok 0)),
    .answers i .decides].map happens

end Api

end AgentProof
