import AgentProof.Api.Requests

/-!
# What a request's steps can do

One case for each way a request can go on, with its effects: for the priced
routes first, and then for all.
-/

namespace AgentProof

namespace Api

open Sdk Js

variable {M Payload : Type} {o : ServerOptions M Payload} {s s' : Server M}
  {now : Nat} {random : Text} {request : Request M}

/-! ## Priced requests -/

/-- The gate has answered without any work, or waits for the facilitator. -/
def GateCall.beforeWork : GateCall Wire → Bool
  | verifying _ _ => true
  | finished _ reply => !reply.isAnswered
  | _ => false

/-- The verification has read what it needs of the state. -/
inductive Ready : Work → Prop
  | gathered {action : Sdk.Action} {dayUtc : Nat} {dailySpend balance : Int} :
      Ready (.gathering action dayUtc (some dailySpend) (some balance))
  | pooled {action : Sdk.Action} {dayUtc : Nat} {dailySpend balance : Int} :
      Ready (.readingPool action dayUtc dailySpend balance)

/-- The verification is still reading the state. -/
inductive Reading : Work → Prop
  | gathering {action : Sdk.Action} {dayUtc : Nat} {dailySpend balance : Option Int} :
      Reading (.gathering action dayUtc dailySpend balance)
  | pool {action : Sdk.Action} {dayUtc : Nat} {dailySpend balance : Int} :
      Reading (.readingPool action dayUtc dailySpend balance)

theorem Ready.reading {work : Work} (ready : Ready work) : Reading work := by
  cases ready with
  | gathered => exact .gathering
  | pooled => exact .pool

/-- The gate has not let the request go on yet. -/
inductive Unentered : Option PricedCall → Prop
  | unread : Unentered none
  | verifying {priced : PricedCall} {header : Text} {requirements : PaymentRequirements}
      (call : priced.call = .verifying header requirements) : Unentered (some priced)

/-- What a priced request can become, and with which effects.  `before` is
`none` for a request whose body has just been read. -/
inductive PricedStep (o : ServerOptions M Payload) (s : Server M) (now : Nat) (random : Text)
    (request : Request M) : Option PricedCall → PricedCall → List Effect → Prop
  | gated {before : Option PricedCall} {call : GateCall Wire} {body : Json} {guard : ReplayGuard}
      (unentered : Unentered before) (waits : call.beforeWork = true) :
      PricedStep o s now random request before ⟨call, body, .idle, none⟩ [.guard guard]
  | starts {before : Option PricedCall} {paid : Option (Text × PaymentRequirements)} {body : Json}
      {action : Sdk.Action} {dayUtc : Nat} {guard : ReplayGuard} (unentered : Unentered before)
      (verify : request.route = .verify) :
      PricedStep o s now random request before
        ⟨.working paid, body, .gathering action dayUtc none none, none⟩ [.guard guard]
  /-- The work of `/v1/decode` is done where it starts. -/
  | decodes {before : Option PricedCall} {paid : Option (Text × PaymentRequirements)}
      {body : Json} {intent : NormalizedIntent} {guard : ReplayGuard}
      (unentered : Unentered before) (decode : request.route ≠ .verify) :
      PricedStep o s now random request before
        ⟨(worked o.codec guard paid (.ok (.intent intent))).1, body, .idle, none⟩
        [.guard (worked o.codec guard paid (.ok (Wire.intent intent))).2]
  | fails {before : Option PricedCall} {claimed : Option Text} {e : JsError} {body : Json}
      {evaluated : Option (PolicyResult × Nat)} {guard : ReplayGuard} :
      PricedStep o s now random request before
        ⟨.finished claimed (.raised e), body, .idle, evaluated⟩ [.guard guard]
  | reads {priced : PricedCall} {work : Work} (reading : Reading priced.work)
      (goesOn : Reading work) :
      PricedStep o s now random request (some priced) { priced with work := work } []
  | asks {priced : PricedCall} {result : PolicyResult}
      {paid : Option (Text × PaymentRequirements)} (works : priced.call = .working paid)
      (ready : Ready priced.work) (human : result.decision = .requireApproval) :
      PricedStep o s now random request (some priced)
        { priced with
          evaluated := some (result, now)
          work := .approving (verdictBody o.deployment s.policy result) random none }
        [.decide s.engine result,
          .publish ⟨.decision, .verdict (verdictBody o.deployment s.policy result)⟩,
          .publish ⟨.approval, .approval random result.reason result.intent
            (now + o.approvalTimeoutMs)⟩,
          .ask random]
  | concludes {priced : PricedCall} {result : PolicyResult} {call : GateCall Wire}
      {guard : ReplayGuard} {paid : Option (Text × PaymentRequirements)}
      (works : priced.call = .working paid) (ready : Ready priced.work)
      (nobody : result.decision ≠ .requireApproval)
      (goesOn : worked o.codec s.guard paid
        (.ok (.verdict (verdictBody o.deployment s.policy result))) = (call, guard)) :
      PricedStep o s now random request (some priced)
        { priced with call := call, evaluated := some (result, now), work := .idle }
        ([.decide s.engine result,
          .publish ⟨.decision, .verdict (verdictBody o.deployment s.policy result)⟩,
          .guard guard] ++ publishAudit o s random call (some (result, now)))
  | timesOut {priced : PricedCall} {body : VerdictBody} {id : Text}
      (waits : priced.work = .approving body id none) :
      PricedStep o s now random request (some priced)
        { priced with work := .approving body id (some DashboardApprover.timeoutOutcome) }
        [.forget id]
  | resolves {priced : PricedCall} {body : VerdictBody} {id : Text} {outcome : ApprovalOutcome}
      {call : GateCall Wire} {guard : ReplayGuard} {paid : Option (Text × PaymentRequirements)}
      (works : priced.call = .working paid) (answered : priced.work = .approving body id (some outcome))
      (goesOn : worked o.codec s.guard paid (.ok (.verdict (resolvedBody body outcome))) =
        (call, guard)) :
      PricedStep o s now random request (some priced)
        { priced with call := call, work := .idle }
        ([.publish ⟨.decision, .verdict (resolvedBody body outcome)⟩, .guard guard] ++
          publishAudit o s random call priced.evaluated)
  | settles {priced : PricedCall} {header : Text} {requirements : PaymentRequirements}
      {wire : Wire} {reply : Except JsError SettlementResult}
      (waits : priced.call = .settling header requirements wire) :
      PricedStep o s now random request (some priced)
        { priced with call := settled header wire reply }
        (publishAudit o s random (settled header wire reply) priced.evaluated)

variable {before : Option PricedCall} {priced : PricedCall} {guard : ReplayGuard}
  {paid : Option (Text × PaymentRequirements)}

/-- A priced step that has a phase and effects of the form handlers give. -/
def PricedStep.Gives (o : ServerOptions M Payload) (s : Server M) (now : Nat) (random : Text)
    (request : Request M) (before : Option PricedCall) (next : Phase M × List Effect) : Prop :=
  ∃ after effects, next = (.priced after, effects) ∧
    PricedStep o s now random request before after effects

theorem finishWork_error (e : JsError) :
    PricedStep.Gives o s now random request before
      (finishWork o s random guard paid priced (.error e)) := by
  cases paid with
  | none => exact ⟨_, _, rfl, .fails⟩
  | some payment => exact ⟨_, _, rfl, .fails⟩

theorem startWork_gives (unentered : Unentered before) (body : Json) :
    PricedStep.Gives o s now random request before
      (startWork o s now random request.route guard paid body) := by
  unfold startWork
  by_cases verify : request.route = .verify
  · rw [verify]
    dsimp only
    cases readAction o.stringify s.policy body with
    | error e => exact finishWork_error e
    | ok action => exact ⟨_, _, rfl, .starts unentered verify⟩
  · have decodes : PricedStep.Gives o s now random request before
        (finishWork o s random guard paid ⟨.working paid, body, .idle, none⟩
          (decodeRoute o s body)) := by
      cases decoded : decodeRoute o s body with
      | error e => exact finishWork_error e
      | ok wire =>
          obtain ⟨intent, rfl⟩ : ∃ intent, wire = .intent intent := by
            simp only [decodeRoute, bind_eq_ok_iff, Except.ok.injEq] at decoded
            obtain ⟨action, -, intent, -, rfl⟩ := decoded
            exact ⟨intent, rfl⟩
          refine ⟨_, _, rfl, ?_⟩
          have silent : publishAudit o s random
              (worked o.codec guard paid (.ok (.intent intent))).1 none = [] := by
            unfold publishAudit
            split
            · next nothing => cases nothing
            · rfl
          rw [silent]
          exact .decodes unentered verify
    generalize request.route = route at verify decodes ⊢
    cases route with
    | verify => exact absurd rfl verify
    | _ => exact decodes

/-- The gate lets the request go on, or keeps it from its work. -/
def Entered (call : GateCall Wire) : Prop :=
  (∃ paid, call = .working paid) ∨ call.beforeWork = true

theorem enter_gives {body : Json} {moved : GateCall Wire × ReplayGuard}
    (unentered : Unentered before) (entered : Entered moved.1) :
    PricedStep.Gives o s now random request before
      (enter o s now random request.route body moved) := by
  obtain ⟨call, guard⟩ := moved
  unfold enter
  rcases entered with ⟨paid, rfl⟩ | waits
  · exact startWork_gives unentered body
  · cases call with
    | verifying header requirements => exact ⟨_, _, rfl, .gated unentered waits⟩
    | working paid => cases waits
    | settling header requirements wire => cases waits
    | finished claimed reply => exact ⟨_, _, rfl, .gated unentered waits⟩

theorem gate_entered {options : X402Options} {resource : Text} {presented : Option Text}
    {nonce : Text} {now : Int} :
    Entered (gate o.codec guard options resource presented nonce now).1 := by
  unfold gate
  by_cases enabled : options.enabled = true
  · rw [if_neg (not_not.mpr enabled)]
    refine .inr ?_
    cases options.requirements resource nonce with
    | error e => rfl
    | ok requirements =>
        match presented with
        | none => rfl
        | some [] => rfl
        | some (c :: rest) =>
            dsimp only
            by_cases payment : isWellFormedPayment o.codec (c :: rest) = true
            · rw [if_neg (not_not.mpr payment)]
              split
              · rfl
              · rfl
            · rw [if_pos payment]
              rfl
  · rw [if_pos enabled]
    exact .inl ⟨none, rfl⟩

theorem verified_entered {header : Text} {requirements : PaymentRequirements}
    {reply : Except JsError Verification} :
    Entered (verified o.codec guard header requirements reply).1 := by
  cases reply with
  | error e => exact .inr rfl
  | ok verification =>
      unfold verified
      dsimp only
      by_cases valid : verification.valid = true
      · rw [if_neg (not_not.mpr valid)]
        exact .inl ⟨_, rfl⟩
      · rw [if_pos valid]
        exact .inr rfl

theorem pricedBody_gives {resource : Text} {price : X402Config → Text} {body : Json} :
    PricedStep.Gives o s now random request none
      (pricedBody o s now random request resource price body) := by
  unfold pricedBody
  cases o.x402 with
  | none => exact enter_gives .unread (.inl ⟨none, rfl⟩)
  | some config => exact enter_gives .unread gate_entered

theorem evaluate_gives {action : Sdk.Action} {dayUtc : Nat} {dailySpend balance : Int}
    {pool : Option (Option PoolState)} (works : priced.call = .working paid)
    (ready : Ready priced.work) :
    PricedStep.Gives o s now random request (some priced)
      (evaluate o s now random paid priced action dayUtc dailySpend balance pool) := by
  unfold evaluate
  cases (buildEngine o s.engine pool).verify action
    ⟨s.policy.account, dayUtc, dailySpend, balance, s.policy.asset⟩ with
  | error e => exact finishWork_error e
  | ok result =>
      dsimp only
      split_ifs with human
      · exact ⟨_, _, rfl, .asks works ready human⟩
      · exact ⟨_, _, rfl, .concludes works ready human rfl⟩

theorem decide_gives {action : Sdk.Action} {dayUtc : Nat} {dailySpend balance : Int}
    (works : priced.call = .working paid) (ready : Ready priced.work) :
    PricedStep.Gives o s now random request (some priced)
      (decide o s now random paid priced action dayUtc dailySpend balance) := by
  unfold decide
  dsimp only
  cases (buildEngine o s.engine none).decoders.decode action
    (buildEngine o s.engine none).decoderContext with
  | error e => exact finishWork_error e
  | ok intent =>
      dsimp only
      split_ifs
      · exact ⟨_, _, rfl, .reads ready.reading .pool⟩
      · exact evaluate_gives works ready

theorem pricedAnswer_gives {answer : Answer M} {next : Phase M × List Effect}
    (answered : pricedAnswer o s now random request priced answer = some next) :
    PricedStep.Gives o s now random request (some priced) next := by
  obtain ⟨call, body, work, evaluated⟩ := priced
  unfold pricedAnswer at answered
  split at answered
  · cases Option.some.inj answered
    exact enter_gives (.verifying ‹_›) verified_entered
  · next spent reading =>
      cases reading
      split at answered
      · cases Option.some.inj answered
        exact ⟨_, _, rfl, .reads .gathering .gathering⟩
      · cases Option.some.inj answered
        exact finishWork_error _
  · next balance reading =>
      cases reading
      split at answered
      · cases Option.some.inj answered
        exact ⟨_, _, rfl, .reads .gathering .gathering⟩
      · cases Option.some.inj answered
        exact finishWork_error _
  · next reading =>
      cases reading
      cases Option.some.inj answered
      exact decide_gives ‹_› .gathered
  · next reading =>
      cases reading
      cases Option.some.inj answered
      exact evaluate_gives ‹_› .pooled
  · next waits =>
      cases Option.some.inj answered
      exact ⟨_, _, rfl, .timesOut waits⟩
  · next works waits =>
      cases Option.some.inj answered
      exact ⟨_, _, rfl, .resolves works waits rfl⟩
  · cases Option.some.inj answered
    exact ⟨_, _, rfl, .settles ‹_›⟩
  · cases answered

/-! ## All requests -/

/-- A read that is answered with what it gives. -/
def Phase.isRead : Phase M → Bool
  | readingFile => true
  | readingSpend _ _ => true
  | readingChain _ _ _ => true
  | resolvingPolicy _ => true
  | _ => false

/-- A response that tells what was read. -/
def Response.isRead : Response M → Bool
  | noContent => true
  | file _ => true
  | policy _ => true
  | spend _ => true
  | proofs => true
  | _ => false

/-- The request has its policy in force. -/
def Phase.isStored : Phase M → Bool
  | checkingName _ _ => true
  | finished (.policyUpdated _) => true
  | _ => false

/-- The request is answered, or will be whatever it is told. -/
def Phase.isSafe : Phase M → Bool
  | checkingName _ _ => true
  | finished _ => true
  | _ => false

/-- The request can still fail. -/
def CanFail (before : Option (Phase M × Answer M)) : Prop := ∀ told ∈ before, told.1.isSafe = false

theorem canFail_none : CanFail (none : Option (Phase M × Answer M)) := by
  intro told mem
  cases mem

theorem canFail_some {phase : Phase M} {answer : Answer M} (unsettled : phase.isSafe = false) :
    CanFail (some (phase, answer)) := by
  intro told mem
  cases mem
  exact unsettled

theorem unstored_of_canFail {before : Option (Phase M × Answer M)} (canFail : CanFail before) :
    before.any (fun told => told.1.isStored) = false := by
  cases before with
  | none => rfl
  | some told =>
      obtain ⟨phase, answer⟩ := told
      have unsettled := canFail _ rfl
      cases phase with
      | checkingName document persisted => cases unsettled
      | finished response => cases unsettled
      | _ => rfl

/-- Routes whose requests are only answered. -/
def Route.isRead : Route → Bool
  | preflight => true
  | dashboard => true
  | openapi => true
  | policy _ => true
  | spend _ => true
  | proofs => true
  | _ => false

/-- The request is guarded by `requireDashboardSession`. -/
def Route.needsSession : Route → Bool
  | approve => true
  | putPolicy => true
  | stream => true
  | _ => false

section

variable [DecidableEq M]

/-- What a request can become, on arrival or told an answer, and with which
effects. -/
inductive RequestStep (o : ServerOptions M Payload) (s : Server M) (now : Nat) (random : Text)
    (request : Request M) : Option (Phase M × Answer M) → Phase M → List Effect → Prop
  | fails {before : Option (Phase M × Answer M)} {status : Nat} {message : Text}
      (bad : 400 ≤ status) (canFail : CanFail before) :
      RequestStep o s now random request before (.finished (.error status message)) []
  | reads {after : Phase M} (route : request.route.isRead = true) (waits : after.isRead = true) :
      RequestStep o s now random request none after []
  | readsOn {before after : Phase M} {answer : Answer M} (waited : before.isRead = true)
      (waits : after.isRead = true) :
      RequestStep o s now random request (some (before, answer)) after []
  | shows {response : Response M} (route : request.route.isRead = true)
      (read : response.isRead = true) :
      RequestStep o s now random request none (.finished response) []
  | showsRead {before : Phase M} {answer : Answer M} {response : Response M}
      (waited : before.isRead = true) (read : response.isRead = true) :
      RequestStep o s now random request (some (before, answer)) (.finished response) []
  | awaitsBody (priced : request.route.isRead = false) (health : request.route ≠ .health)
      (session : request.route.needsSession = true → o.hasDashboardSession request = true)
      (publisher : request.route = .internalPublish → o.isInternalPublisher request = true) :
      RequestStep o s now random request none .readingBody []
  | tellsHealth (health : request.route = .health) :
      RequestStep o s now random request none (.finished (.health (healthView o s request))) []
  | logsIn {token : M} (route : request.route = .login) (set : o.adminToken = some token) :
      RequestStep o s now random request (some (.readingBody, .token (.ok (some token))))
        (.finished (.loggedIn (sessionValue o.texts token))) []
  | subscribes (route : request.route = .stream) (session : o.hasDashboardSession request = true) :
      RequestStep o s now random request none (.finished .subscribed) [.subscribe]
  | unsubscribes :
      RequestStep o s now random request (some (.finished .subscribed, .closed))
        (.finished .subscribed) [.unsubscribe]
  | enters {body : Json} {after : PricedCall} {effects : List Effect}
      (route : request.route = .verify ∨ request.route = .decode)
      (step : PricedStep o s now random request none after effects) :
      RequestStep o s now random request (some (.readingBody, .body (.ok body))) (.priced after)
        effects
  | goesOn {before after : PricedCall} {answer : Answer M} {effects : List Effect}
      (step : PricedStep o s now random request (some before) after effects) :
      RequestStep o s now random request (some (.priced before, answer)) (.priced after) effects
  | approves {body : Json} {id : Text} {outcome : ApprovalOutcome} {settled : Bool}
      (route : request.route = .approve) :
      RequestStep o s now random request (some (.readingBody, .body (.ok body)))
        (.finished (.settled settled)) [.settle id outcome]
  | publishes {body : Json} {type : StreamType} {data : Option Json} {clients : Nat}
      (route : request.route = .internalPublish ∨ request.route = .publish)
      (posted : body ≠ .null) :
      RequestStep o s now random request (some (.readingBody, .body (.ok body)))
        (.finished (.published clients)) [.publish ⟨type, .posted data⟩]
  | patches {body : Json} {document : PolicyDocument} {resolved : ResolvedPolicy}
      (route : request.route = .putPolicy) (file : o.policyPath.isSome = true)
      (patched : applyPolicyPatch o.policyHash s.policy body = .ok (document, resolved)) :
      RequestStep o s now random request (some (.readingBody, .body (.ok body)))
        (.writingPolicy document resolved) []
  | stores {body : Json} {document : PolicyDocument} {resolved : ResolvedPolicy}
      (route : request.route = .putPolicy) (file : o.policyPath.isSome = false)
      (patched : applyPolicyPatch o.policyHash s.policy body = .ok (document, resolved)) :
      RequestStep o s now random request (some (.readingBody, .body (.ok body)))
        (storePolicy o document resolved false) [.store resolved]
  | writes {document : PolicyDocument} {resolved : ResolvedPolicy} :
      RequestStep o s now random request
        (some (.writingPolicy document resolved, .written (.ok ())))
        (storePolicy o document resolved true) [.write (some document), .store resolved]
  | writeFails {document : PolicyDocument} {resolved : ResolvedPolicy} {e : JsError}
      {left : Option PolicyDocument} :
      RequestStep o s now random request
        (some (.writingPolicy document resolved, .written (.error (e, left)))) (failed e)
        [.write left]
  | checks {document : PolicyDocument} {persisted : Bool} {reply : Except JsError EnsRecords} :
      RequestStep o s now random request (some (.checkingName document persisted, .ens reply))
        (nameChecked o s document persisted reply) []

theorem le_errorStatus (e : JsError) : 400 ≤ errorStatus e := by
  unfold errorStatus
  split_ifs <;> norm_num

theorem failed_step {before : Option (Phase M × Answer M)} (canFail : CanFail before)
    (e : JsError) : RequestStep o s now random request before (failed e) [] :=
  .fails (le_errorStatus e) canFail

theorem arrive_step (request : Request M) :
    RequestStep o s now random request none (arrive o s now request).1
      (arrive o s now request).2 := by
  have unauthorised : ∀ message : Text, RequestStep o s now random request none
      (.finished (.error 401 message)) [] := fun message => .fails (by norm_num) canFail_none
  have unguarded : request.route.isRead = false → request.route.needsSession = false →
      request.route ≠ .health → request.route ≠ .internalPublish →
        RequestStep o s now random request none .readingBody [] := by
    intro read free health publisher
    refine .awaitsBody read health ?_ fun internal => absurd internal publisher
    intro needs
    rw [free] at needs
    cases needs
  unfold arrive
  cases route : request.route with
  | preflight => exact .shows (by rw [route]; rfl) rfl
  | health => exact .tellsHealth route
  | dashboard => exact .reads (by rw [route]; rfl) rfl
  | openapi => exact .reads (by rw [route]; rfl) rfl
  | login => exact unguarded (by rw [route]; rfl) (by rw [route]; rfl) (by simp [route]) (by simp [route])
  | verify => exact unguarded (by rw [route]; rfl) (by rw [route]; rfl) (by simp [route]) (by simp [route])
  | decode => exact unguarded (by rw [route]; rfl) (by rw [route]; rfl) (by simp [route]) (by simp [route])
  | publish => exact unguarded (by rw [route]; rfl) (by rw [route]; rfl) (by simp [route]) (by simp [route])
  | policy name =>
      dsimp only
      cases o.decodeURIComponent name with
      | error e => exact failed_step canFail_none e
      | ok name =>
          dsimp only
          split_ifs
          · exact .reads (by rw [route]; rfl) rfl
          · exact .shows (by rw [route]; rfl) rfl
  | spend account => exact .reads (by rw [route]; rfl) rfl
  | stream =>
      dsimp only
      split_ifs with session
      · exact .subscribes route session
      · exact unauthorised _
  | approve =>
      dsimp only
      split_ifs with session
      · exact .awaitsBody (by rw [route]; rfl) (by simp [route]) (fun _ => session) (by simp [route])
      · exact unauthorised _
  | putPolicy =>
      dsimp only
      split_ifs with session
      · exact .awaitsBody (by rw [route]; rfl) (by simp [route]) (fun _ => session) (by simp [route])
      · exact unauthorised _
  | internalPublish =>
      dsimp only
      split_ifs with publisher
      · exact .awaitsBody (by rw [route]; rfl) (by simp [route]) (by simp [route, Route.needsSession])
          fun _ => publisher
      · exact unauthorised _
  | proofs => exact .shows (by rw [route]; rfl) rfl
  | notFound => exact .fails (by norm_num) canFail_none

theorem orFailed_step {before : Option (Phase M × Answer M)} (canFail : CanFail before)
    {outcome : Except JsError (Phase M × List Effect)}
    (steps : ∀ next, outcome = .ok next → RequestStep o s now random request before next.1 next.2) :
    RequestStep o s now random request before (orFailed outcome).1 (orFailed outcome).2 := by
  cases outcome with
  | error e => exact failed_step canFail e
  | ok next => exact steps next rfl

theorem approveBody_step {body : Json} (route : request.route = .approve) :
    RequestStep o s now random request (some (.readingBody, .body (.ok body)))
      (orFailed (approveBody s body)).1 (orFailed (approveBody s body)).2 := by
  apply orFailed_step (canFail_some rfl)
  intro next approved
  rw [approveBody, bind_eq_ok_iff] at approved
  obtain ⟨id, -, approved⟩ := approved
  split at approved
  · rw [bind_eq_ok_iff] at approved
    obtain ⟨consent, -, approved⟩ := approved
    cases Except.ok.inj approved
    exact .approves route
  · cases Except.ok.inj approved
    exact .fails (by norm_num) (canFail_some rfl)

theorem publishBody_step {body : Json}
    (route : request.route = .internalPublish ∨ request.route = .publish) :
    RequestStep o s now random request (some (.readingBody, .body (.ok body)))
      (orFailed (publishBody s body)).1 (orFailed (publishBody s body)).2 := by
  apply orFailed_step (canFail_some rfl)
  intro next published
  simp only [publishBody, bind_eq_ok_iff] at published
  obtain ⟨type, read, data, -, published⟩ := published
  cases Except.ok.inj published
  refine .publishes route ?_
  rintro rfl
  cases read

theorem putPolicyBody_step {body : Json} (route : request.route = .putPolicy) :
    RequestStep o s now random request (some (.readingBody, .body (.ok body)))
      (orFailed (putPolicyBody o s body)).1 (orFailed (putPolicyBody o s body)).2 := by
  apply orFailed_step (canFail_some rfl)
  intro next patched
  rw [putPolicyBody, bind_eq_ok_iff] at patched
  obtain ⟨⟨document, resolved⟩, patch, patched⟩ := patched
  dsimp only at patched
  split_ifs at patched with file
  · cases Except.ok.inj patched
    exact .patches route file patch
  · cases Except.ok.inj patched
    exact .stores route (Bool.eq_false_iff.mpr file) patch

theorem bodyRead_step {body : Json} {next : Phase M × List Effect}
    (read : bodyRead o s now random request body = some next) :
    RequestStep o s now random request (some (.readingBody, .body (.ok body))) next.1 next.2 := by
  unfold bodyRead at read
  split at read
  · next route =>
      obtain ⟨after, effects, given, step⟩ := @pricedBody_gives _ _ o s now random request
        "/v1/verify".toList X402Config.priceVerify body
      rw [given] at read
      cases Option.some.inj read
      exact .enters (.inl route) step
  · next route =>
      obtain ⟨after, effects, given, step⟩ := @pricedBody_gives _ _ o s now random request
        "/v1/decode".toList X402Config.priceDecode body
      rw [given] at read
      cases Option.some.inj read
      exact .enters (.inr route) step
  · next route =>
      cases Option.some.inj read
      exact approveBody_step route
  · next route =>
      cases Option.some.inj read
      exact publishBody_step (.inl route)
  · next route =>
      cases Option.some.inj read
      exact publishBody_step (.inr route)
  · next route =>
      cases Option.some.inj read
      exact putPolicyBody_step route
  · cases read

theorem login_step {told : Option M} (route : request.route = .login) :
    RequestStep o s now random request (some (.readingBody, .token (.ok told)))
      (login o told) [] := by
  unfold login
  split
  · exact .fails (by norm_num) (canFail_some rfl)
  · next token set =>
      split_ifs with same
      · cases same
        exact .logsIn route set
      · exact .fails (by norm_num) (canFail_some rfl)

theorem advance_step {before : Phase M} {answer : Answer M} {next : Phase M × List Effect}
    (advanced : advance o s now random request before answer = some next) :
    RequestStep o s now random request (some (before, answer)) next.1 next.2 := by
  unfold advance at advanced
  split at advanced
  · exact bodyRead_step advanced
  · cases Option.some.inj advanced
    exact failed_step (canFail_some rfl) _
  · next told =>
      split_ifs at advanced with route
      cases told with
      | ok told =>
          cases Option.some.inj advanced
          exact login_step route
      | error e =>
          cases Option.some.inj advanced
          exact failed_step (canFail_some rfl) e
  · cases Option.some.inj advanced
    exact .showsRead rfl rfl
  · cases Option.some.inj advanced
    exact failed_step (canFail_some rfl) _
  · obtain ⟨after, effects, rfl, step⟩ := pricedAnswer_gives advanced
    exact .goesOn step
  · split_ifs at advanced
    · cases Option.some.inj advanced
      exact .readsOn rfl rfl
    · cases Option.some.inj advanced
      exact .showsRead rfl rfl
  · cases Option.some.inj advanced
    exact failed_step (canFail_some rfl) _
  · cases Option.some.inj advanced
    exact .showsRead rfl rfl
  · cases Option.some.inj advanced
    exact .showsRead rfl rfl
  · cases Option.some.inj advanced
    exact failed_step (canFail_some rfl) _
  · cases Option.some.inj advanced
    exact .writes
  · cases Option.some.inj advanced
    exact .writeFails
  · cases Option.some.inj advanced
    exact .checks
  · cases Option.some.inj advanced
    exact .unsubscribes
  · cases advanced

/-- A request that has failed goes nowhere. -/
theorem RequestStep.of_error {status : Nat} {message : Text} {answer : Answer M} {after : Phase M}
    {effects : List Effect} (step : RequestStep o s now random request
      (some (.finished (.error status message), answer)) after effects) : False := by
  cases step with
  | fails _ canFail => cases canFail _ rfl
  | readsOn waited => cases waited
  | showsRead waited => cases waited

end

end Api

end AgentProof
