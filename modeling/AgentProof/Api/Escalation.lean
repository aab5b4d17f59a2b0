import AgentProof.Api.ServerSteps

/-!
# Escalations

A verification above the approval threshold stays open until somebody answers on
`/v1/approve`, or nobody does in time.  Between the two stand a map of pending
ids, a promise that is resolved once, and the payment that is settled afterwards.
The caller is told `ALLOW` exactly when a request that holds a dashboard session
approved the id the verification was waiting under while it was waiting.
-/

namespace AgentProof

namespace Api

open Runs Sdk Js

variable {M Payload : Type} {o : ServerOptions M Payload} {s s' : Server M} {now : Nat}
  {random : Text} {request : Request M} {consented consented' : Prop} {priced : PricedCall}

/-! ## A verification -/

/-- The verdict a caller is told, or will be once the payment is settled. -/
def GateCall.tells : GateCall Wire → Option VerdictBody
  | settling _ _ (.verdict body) => some body
  | finished _ (.answered (.verdict body) _) => some body
  | _ => none

/-- Nothing has been said about the verification yet. -/
inductive Unanswered (priced : PricedCall) : Prop
  | verifying {header : Text} {requirements : PaymentRequirements}
      (call : priced.call = .verifying header requirements)
  | working {paid : Option (Text × PaymentRequirements)} (call : priced.call = .working paid)
      (unanswered : ∀ body id outcome, priced.work ≠ .approving body id (some outcome))

/-- Where a verification stands, by whether the owner has consented to it. -/
structure Stands (consented : Prop) (priced : PricedCall) : Prop where
  works : ∀ body id outcome, priced.work = .approving body id outcome →
    ∃ paid, priced.call = .working paid
  unanswered : Unanswered priced → ¬ consented
  answered : ∀ body id outcome, priced.work = .approving body id (some outcome) →
    (outcome.approved = true ↔ consented)
  told : ∀ body result evaluatedAt, priced.call.tells = some body →
    priced.evaluated = some (result, evaluatedAt) → result.decision = .requireApproval →
      body.decision = .allow ∧ consented ∨ body.decision = .block ∧ ¬ consented

theorem Reading.not_approving {work : Work} (reading : Reading work) {body : VerdictBody} {id : Text}
    {outcome : Option ApprovalOutcome} : work ≠ .approving body id outcome := by
  rintro rfl
  cases reading

/-- A call that tells no verdict, and does not wait for an approval. -/
theorem Stands.of_silent (silent : priced.call.tells = none)
    (idle : ∀ body id outcome, priced.work ≠ .approving body id outcome)
    (unanswered : Unanswered priced → ¬ consented) : Stands consented priced where
  works body id outcome waits := absurd waits (idle body id outcome)
  unanswered := unanswered
  answered body id outcome waits := absurd waits (idle body id _)
  told body result evaluatedAt told := by cases silent.symm.trans told

theorem not_approving_idle {call : GateCall Wire} {body : Json}
    {evaluated : Option (PolicyResult × Nat)} (verdict : VerdictBody) (id : Text)
    (outcome : Option ApprovalOutcome) :
    (⟨call, body, .idle, evaluated⟩ : PricedCall).work ≠ .approving verdict id outcome := nofun

/-- What the work has come to is told. -/
theorem tells_worked {codec : PaymentCodec Payload} {guard guard' : ReplayGuard}
    {paid : Option (Text × PaymentRequirements)} {body : VerdictBody} {call : GateCall Wire}
    (goesOn : worked codec guard paid (.ok (.verdict body)) = (call, guard')) :
    call.tells = some body := by
  rcases paid with - | ⟨header, requirements⟩
  · cases goesOn
    rfl
  · cases goesOn
    rfl

/-! ### Its steps -/

theorem Stands.gated {call : GateCall Wire} {body : Json} (waits : call.beforeWork = true)
    (before : ¬ consented) : Stands consented ⟨call, body, .idle, none⟩ := by
  cases call with
  | verifying header requirements => exact .of_silent rfl not_approving_idle fun _ => before
  | working paid => cases waits
  | settling header requirements wire => cases waits
  | finished claimed reply =>
      cases reply with
      | answered result payment => cases waits
      | _ => exact .of_silent rfl not_approving_idle fun _ => before

theorem Stands.fails {claimed : Option Text} {e : JsError} {body : Json}
    {evaluated : Option (PolicyResult × Nat)} :
    Stands consented ⟨.finished claimed (.raised e), body, .idle, evaluated⟩ := by
  refine .of_silent rfl not_approving_idle fun unanswered => ?_
  cases unanswered with
  | verifying call => cases call
  | working call => cases call

theorem Stands.reads (stood : Stands consented priced) (reading : Reading priced.work) {work : Work}
    (goesOn : Reading work) : Stands consented { priced with work := work } := by
  refine ⟨fun _ _ _ waits => absurd waits goesOn.not_approving, fun unanswered => ?_,
    fun _ _ _ waits => absurd waits goesOn.not_approving, stood.told⟩
  cases unanswered with
  | verifying call => exact stood.unanswered (.verifying call)
  | working call => exact stood.unanswered (.working call fun _ _ _ => reading.not_approving)

/-- Nobody has consented while the state is read. -/
theorem Stands.not_consented (stood : Stands consented priced)
    {paid : Option (Text × PaymentRequirements)} (works : priced.call = .working paid)
    (ready : Ready priced.work) : ¬ consented :=
  stood.unanswered (.working works fun _ _ _ => ready.reading.not_approving)

theorem Stands.asks (stood : Stands consented priced) {paid : Option (Text × PaymentRequirements)}
    (works : priced.call = .working paid) (ready : Ready priced.work) (result : PolicyResult)
    (verdict : VerdictBody) (id : Text) :
    Stands consented
      { priced with evaluated := some (result, now), work := .approving verdict id none } := by
  refine ⟨fun _ _ _ _ => ⟨paid, works⟩, fun _ => stood.not_consented works ready, ?_, ?_⟩
  · intro body id outcome waits
    cases waits
  · intro body result evaluatedAt told
    dsimp only at told
    rw [works] at told
    cases told

theorem Stands.concludes (stood : Stands consented priced)
    {paid : Option (Text × PaymentRequirements)} (works : priced.call = .working paid)
    (ready : Ready priced.work) {result : PolicyResult}
    (nobody : result.decision ≠ .requireApproval) (call : GateCall Wire) :
    Stands consented
      { priced with call := call, evaluated := some (result, now), work := .idle } := by
  refine ⟨fun _ _ _ waits => absurd waits (not_approving_idle _ _ _),
    fun _ => stood.not_consented works ready,
    fun _ _ _ waits => absurd waits (not_approving_idle _ _ _), ?_⟩
  intro body result' evaluatedAt told evaluated human
  cases evaluated
  exact absurd human nobody

theorem Stands.timesOut (stood : Stands consented priced) {body : VerdictBody} {id : Text}
    (waits : priced.work = .approving body id none) :
    Stands consented
      { priced with work := .approving body id (some DashboardApprover.timeoutOutcome) } := by
  obtain ⟨paid, works⟩ := stood.works _ _ _ waits
  have before : ¬ consented := stood.unanswered (.working works fun _ _ _ other => by
    cases waits.symm.trans other)
  refine ⟨fun _ _ _ _ => ⟨paid, works⟩, fun _ => before, ?_, stood.told⟩
  intro body' id' outcome answered
  cases answered
  exact iff_of_false (by decide) before

/-- What is told then is what the approver has said. -/
theorem Stands.resolves (stood : Stands consented priced) {body : VerdictBody} {id : Text}
    {outcome : ApprovalOutcome} (answered : priced.work = .approving body id (some outcome))
    {call : GateCall Wire} (tells : call.tells = some (resolvedBody body outcome)) :
    Stands consented { priced with call := call, work := .idle } := by
  have decided := stood.answered _ _ _ answered
  refine ⟨fun _ _ _ waits => absurd waits (not_approving_idle _ _ _), ?_,
    fun _ _ _ waits => absurd waits (not_approving_idle _ _ _), ?_⟩
  · intro unanswered
    cases unanswered with
    | verifying verifying =>
        dsimp only at verifying
        rw [verifying] at tells
        cases tells
    | working working =>
        dsimp only at working
        rw [working] at tells
        cases tells
  · intro body' result evaluatedAt told _ _
    obtain rfl := Option.some.inj (tells.symm.trans told)
    rw [resolvedBody]
    by_cases approved : outcome.approved = true
    · exact .inl ⟨if_pos approved, decided.mp approved⟩
    · exact .inr ⟨if_neg approved, fun consent => approved (decided.mpr consent)⟩

theorem Stands.settles (stood : Stands consented priced) {header : Text}
    {requirements : PaymentRequirements} {wire : Wire}
    (waits : priced.call = .settling header requirements wire)
    (reply : Except JsError SettlementResult) :
    Stands consented { priced with call := settled header wire reply } := by
  have resting (body : VerdictBody) (id : Text) (outcome : Option ApprovalOutcome) :
      priced.work ≠ .approving body id outcome := by
    intro approving
    obtain ⟨paid, works⟩ := stood.works _ _ _ approving
    cases waits.symm.trans works
  refine ⟨fun _ _ _ approving => absurd approving (resting _ _ _), fun unanswered => ?_,
    fun _ _ _ approving => absurd approving (resting _ _ _), ?_⟩
  · cases unanswered with
    | verifying call => cases call
    | working call => cases call
  · intro body result evaluatedAt told
    refine stood.told body result evaluatedAt ?_
    rw [waits]
    cases wire with
    | verdict verdict => exact told
    | intent intent => cases told

theorem PricedStep.stands {before : Option PricedCall} {after : PricedCall} {effects : List Effect}
    (fresh : before = none → ¬ consented)
    (was : ∀ priced, before = some priced → Stands consented priced)
    (step : PricedStep o s now random request before after effects) : Stands consented after := by
  have unentered : Unentered before → ¬ consented := by
    intro unentered
    cases unentered with
    | unread => exact fresh rfl
    | verifying call => exact (was _ rfl).unanswered (.verifying call)
  cases step with
  | gated entering waits => exact .gated waits (unentered entering)
  | starts entering _ =>
      exact .of_silent rfl (fun _ _ _ => Reading.gathering.not_approving) fun _ => unentered entering
  | @decodes _ paid body intent guard entering _ =>
      refine .of_silent ?_ not_approving_idle fun _ => unentered entering
      cases paid <;> rfl
  | fails => exact .fails
  | reads reading goesOn => exact (was _ rfl).reads reading goesOn
  | asks works ready human => exact (was _ rfl).asks works ready _ _ _
  | concludes works ready nobody goesOn => exact (was _ rfl).concludes works ready nobody _
  | timesOut waits => exact (was _ rfl).timesOut waits
  | resolves works answered goesOn => exact (was _ rfl).resolves answered (tells_worked goesOn)
  | settles waits => exact (was _ rfl).settles waits _

/-! ## Requests -/

/-- The request waits for an approval under the id. -/
inductive Phase.WaitsUnder (id : Text) : Phase M → Prop
  | approving {priced : PricedCall} {paid : Option (Text × PaymentRequirements)} {body : VerdictBody}
      (works : priced.call = .working paid) (waits : priced.work = .approving body id none) :
      WaitsUnder id (.priced priced)

/-- Nothing the approver may still say matters to the request. -/
inductive Phase.Over : Phase M → Prop
  | finished {response : Response M} : Over (.finished response)
  | raised {priced : PricedCall} {claimed : Option Text} {e : JsError}
      (call : priced.call = .finished claimed (.raised e)) : Over (.priced priced)

/-- Where a request stands, by whether the owner has consented to it. -/
def Phase.Stands (consented : Prop) : Phase M → Prop
  | .priced priced => Api.Stands consented priced
  | .finished _ => True
  | _ => ¬ consented

section

variable [DecidableEq M]

theorem RequestStep.stands {before : Option (Phase M × Answer M)} {after : Phase M}
    {effects : List Effect} (fresh : before = none → ¬ consented)
    (was : ∀ phase answer, before = some (phase, answer) → phase.Stands consented)
    (step : RequestStep o s now random request before after effects) : after.Stands consented := by
  have ofRead {phase : Phase M} (read : phase.isRead = true) (not : ¬ consented) :
      phase.Stands consented := by
    cases phase with
    | priced priced => cases read
    | finished response => trivial
    | _ => exact not
  have readNot {phase : Phase M} (read : phase.isRead = true) (stood : phase.Stands consented) :
      ¬ consented := by
    cases phase with
    | priced priced => cases read
    | finished response => cases read
    | _ => exact stood
  have stored (document : PolicyDocument) (resolved : ResolvedPolicy) (persisted : Bool)
      (not : ¬ consented) : (storePolicy o document resolved persisted).Stands consented := by
    unfold storePolicy
    split_ifs
    · exact not
    · trivial
  cases step with
  | fails => trivial
  | reads _ waits => exact ofRead waits (fresh rfl)
  | readsOn waited waits => exact ofRead waits (readNot waited (was _ _ rfl))
  | shows => trivial
  | showsRead => trivial
  | awaitsBody => exact fresh rfl
  | tellsHealth => trivial
  | logsIn => trivial
  | subscribes => trivial
  | unsubscribes => trivial
  | enters _ step =>
      have not : ¬ consented := was _ _ rfl
      refine step.stands (fun _ => not) fun priced none => ?_
      cases none
  | goesOn step =>
      refine step.stands (fun none => ?_) fun priced same => ?_
      · cases none
      · cases same
        exact was _ _ rfl
  | approves => trivial
  | publishes => trivial
  | patches =>
      have not := was _ _ rfl
      exact not
  | stores =>
      have not := was _ _ rfl
      exact stored _ _ _ not
  | writes =>
      have not := was _ _ rfl
      exact stored _ _ _ not
  | writeFails => trivial
  | checks => trivial

end

/-! ## The approver -/

/-- The effect does nothing to the approver. -/
def Effect.isQuiet : Effect → Bool
  | ask _ => false
  | settle _ _ => false
  | forget _ => false
  | _ => true

theorem applyAll_quiet {i : Nat} {t : Server M} {effects : List Effect}
    (quiet : effects.all Effect.isQuiet = true) :
    (t.applyAll i effects).requests = t.requests ∧ (t.applyAll i effects).approver = t.approver := by
  induction effects generalizing t with
  | nil => exact ⟨rfl, rfl⟩
  | cons effect rest ih =>
      obtain ⟨first, others⟩ := Bool.and_eq_true_iff.mp quiet
      obtain ⟨requests, approver⟩ := @ih (t.apply i effect) others
      rw [Server.applyAll_cons, requests, approver]
      cases effect with
      | ask id => cases first
      | settle id outcome => cases first
      | forget id => cases first
      | _ => exact ⟨rfl, rfl⟩

theorem quiet_publishAudit (call : GateCall Wire) (evaluated : Option (PolicyResult × Nat)) :
    (publishAudit o s random call evaluated).all Effect.isQuiet = true := by
  unfold publishAudit
  split
  · split_ifs <;> rfl
  · rfl

theorem not_settle_of_quiet {effects : List Effect} (quiet : effects.all Effect.isQuiet = true)
    {id : Text} {outcome : ApprovalOutcome} : .settle id outcome ∉ effects := by
  intro mem
  cases List.all_eq_true.mp quiet _ mem

theorem PricedStep.not_settle {before : Option PricedCall} {after : PricedCall}
    {effects : List Effect} (step : PricedStep o s now random request before after effects)
    {id : Text} {outcome : ApprovalOutcome} : .settle id outcome ∉ effects := by
  cases step with
  | asks => simp
  | concludes =>
      refine not_settle_of_quiet ?_
      rw [List.all_append, quiet_publishAudit]
      rfl
  | timesOut => simp
  | resolves =>
      refine not_settle_of_quiet ?_
      rw [List.all_append, quiet_publishAudit]
      rfl
  | settles => exact not_settle_of_quiet (quiet_publishAudit _ _)
  | _ => exact not_settle_of_quiet rfl

theorem Phase.WaitsUnder.unique {phase : Phase M} {id id' : Text} (waits : phase.WaitsUnder id)
    (other : phase.WaitsUnder id') : id = id' := by
  obtain ⟨-, waits⟩ := waits
  obtain ⟨-, other⟩ := other
  cases waits.symm.trans other
  rfl

theorem Phase.WaitsUnder.not_over {phase : Phase M} {id : Text} (waits : phase.WaitsUnder id) :
    ¬ phase.Over := by
  rcases waits with ⟨works, -⟩
  rintro (- | call)
  cases works.symm.trans call

/-- The request waits under no id, and may still be answered. -/
structure Phase.Idle (phase : Phase M) : Prop where
  idle : ∀ id, ¬ phase.WaitsUnder id
  live : ¬ phase.Over

/-- What a step that settles nothing does to the approver.  A request that waited under an id is
over after a step that does not withdraw the id. -/
inductive Turned (random : Text) (before : Option (Phase M)) (after : Phase M) :
    List Effect → Prop
  | quiet {effects : List Effect} (quiet : effects.all Effect.isQuiet = true)
      (ends : ∀ phase ∈ before, ¬ phase.Idle → after.Over) : Turned random before after effects
  | asks {effects : List Effect} (quiet : effects.all Effect.isQuiet = true)
      (idle : ∀ phase ∈ before, phase.Idle) (waits : after.WaitsUnder random) :
      Turned random before after (effects ++ [.ask random])
  | timesOut {phase : Phase M} {id : Text} (here : before = some phase)
      (waits : phase.WaitsUnder id) : Turned random before after [.forget id]

theorem Phase.idle_of_call (working : ∀ paid, priced.call ≠ .working paid)
    (raised : ∀ claimed e, priced.call ≠ .finished claimed (.raised e)) :
    (Phase.priced priced : Phase M).Idle := by
  constructor
  · rintro id ⟨works, -⟩
    exact working _ works
  · rintro (- | call)
    exact raised _ _ call

theorem Phase.idle_of_work {paid : Option (Text × PaymentRequirements)}
    (works : priced.call = .working paid)
    (work : ∀ body id, priced.work ≠ .approving body id none) :
    (Phase.priced priced : Phase M).Idle := by
  constructor
  · rintro id ⟨-, waits⟩
    exact work _ _ waits
  · rintro (- | call)
    cases works.symm.trans call

theorem PricedStep.turned {before : Option PricedCall} {after : PricedCall} {effects : List Effect}
    (was : ∀ priced, before = some priced → Stands consented priced)
    (step : PricedStep o s now random request before after effects) :
    Turned random (before.map (Phase.priced (M := M))) (.priced after) effects := by
  have quietly (idle : ∀ priced, before = some priced → (Phase.priced priced : Phase M).Idle)
      (phase : Phase M) (mem : phase ∈ before.map Phase.priced) (busy : ¬ phase.Idle) :
      (Phase.priced after : Phase M).Over := by
    obtain ⟨priced, rfl, rfl⟩ := Option.map_eq_some_iff.mp mem
    exact absurd (idle priced rfl) busy
  have entering (unentered : Unentered before) (priced : PricedCall) (here : before = some priced) :
      (Phase.priced priced : Phase M).Idle := by
    subst here
    obtain - | call := unentered
    exact Phase.idle_of_call (by simp [call]) (by simp [call])
  cases step with
  | gated unentered => exact .quiet rfl (quietly (entering unentered))
  | starts unentered => exact .quiet rfl (quietly (entering unentered))
  | decodes unentered => exact .quiet rfl (quietly (entering unentered))
  | fails => exact .quiet rfl fun _ _ _ => .raised rfl
  | @reads priced work reading goesOn =>
      refine .quiet rfl fun phase mem busy => ?_
      cases mem
      by_contra not
      refine busy ⟨?_, ?_⟩
      · rintro id ⟨-, waits⟩
        exact reading.not_approving waits
      · rintro (- | call)
        exact not (.raised call)
  | asks works ready human =>
      refine @Turned.asks _ _ _ _ [_, _, _] rfl (fun phase mem => ?_) (.approving works rfl)
      cases mem
      exact Phase.idle_of_work works fun _ _ => ready.reading.not_approving
  | @concludes priced result call guard paid works ready nobody goesOn =>
      refine .quiet ?_ (quietly fun priced here => ?_)
      · rw [List.all_append, quiet_publishAudit]
        rfl
      · cases here
        exact Phase.idle_of_work works fun _ _ => ready.reading.not_approving
  | timesOut waits =>
      obtain ⟨paid, works⟩ := (was _ rfl).works _ _ _ waits
      exact .timesOut rfl (.approving works waits)
  | resolves works answered goesOn =>
      refine .quiet ?_ (quietly fun priced here => ?_)
      · rw [List.all_append, quiet_publishAudit]
        rfl
      · cases here
        exact Phase.idle_of_work works fun _ _ waits => by cases answered.symm.trans waits
  | settles waits =>
      refine .quiet (quiet_publishAudit _ _) (quietly fun priced here => ?_)
      cases here
      exact Phase.idle_of_call (by simp [waits]) (by simp [waits])

section

variable [DecidableEq M]

theorem RequestStep.turned {before : Option (Phase M × Answer M)} {after : Phase M}
    {effects : List Effect} (was : ∀ phase answer, before = some (phase, answer) →
      phase.Stands consented)
    (unsettled : ∀ id outcome, .settle id outcome ∉ effects)
    (step : RequestStep o s now random request before after effects) :
    Turned random (before.map Prod.fst) after effects := by
  have first {effects : List Effect} (quiet : effects.all Effect.isQuiet = true) :
      Turned random none after effects :=
    .quiet quiet fun phase mem => (by cases mem)
  have ended {response : Response M} {effects : List Effect}
      (quiet : effects.all Effect.isQuiet = true) :
      Turned random (before.map Prod.fst) (.finished response) effects :=
    .quiet quiet fun _ _ _ => .finished
  have idle {phase after : Phase M} {effects : List Effect} (idle : phase.Idle)
      (quiet : effects.all Effect.isQuiet = true) : Turned random (some phase) after effects := by
    refine .quiet quiet fun other mem busy => ?_
    cases mem
    exact absurd idle busy
  have reading : (Phase.readingBody : Phase M).Idle :=
    ⟨fun id waits => (by cases waits), fun ended => (by cases ended)⟩
  cases step with
  | fails => exact ended rfl
  | reads => exact first rfl
  | @readsOn phase _ _ waited =>
      refine idle ?_ rfl
      cases phase with
      | priced priced => cases waited
      | finished response => cases waited
      | _ => exact ⟨fun id waits => (by cases waits), fun ended => (by cases ended)⟩
  | shows => exact first rfl
  | showsRead => exact ended rfl
  | awaitsBody => exact first rfl
  | tellsHealth => exact first rfl
  | logsIn => exact ended rfl
  | subscribes => exact first rfl
  | unsubscribes => exact ended rfl
  | enters _ step =>
      have turned := @PricedStep.turned M Payload o s now random request False none _ _
        (fun _ none => (by cases none)) step
      generalize effects = effects at turned
      cases turned with
      | quiet quiet _ => exact idle reading quiet
      | asks quiet _ waits =>
          refine .asks quiet (fun phase mem => ?_) waits
          cases mem
          exact reading
      | timesOut here => cases here
  | @goesOn priced _ _ _ step =>
      refine @PricedStep.turned M Payload o s now random request consented (some priced) _ _ ?_ step
      intro _ same
      cases same
      exact was _ _ rfl
  | approves => exact absurd (List.mem_singleton.mpr rfl) (unsettled _ _)
  | publishes => exact ended rfl
  | patches => exact idle reading rfl
  | stores => exact idle reading rfl
  | writes => exact idle ⟨fun id waits => (by cases waits), fun ended => (by cases ended)⟩ rfl
  | writeFails => exact ended rfl
  | checks => exact ended rfl

/-- Only the body of an answer settles anything. -/
theorem RequestStep.of_settle {before : Option (Phase M × Answer M)} {after : Phase M}
    {effects : List Effect} {id : Text} {outcome : ApprovalOutcome}
    (mem : .settle id outcome ∈ effects)
    (step : RequestStep o s now random request before after effects) :
    request.route = .approve ∧ (∃ body, before = some (.readingBody, .body (.ok body))) ∧
      ∃ settled, after = .finished (.settled settled) := by
  cases step with
  | approves route => exact ⟨route, ⟨_, rfl⟩, _, rfl⟩
  | enters _ step => exact absurd mem step.not_settle
  | goesOn step => exact absurd mem step.not_settle
  | _ => exact absurd mem (not_settle_of_quiet rfl)

theorem RequestStep.readingBody {before : Option (Phase M × Answer M)} {effects : List Effect}
    (step : RequestStep o s now random request before .readingBody effects)
    (needs : request.route.needsSession = true) : o.hasDashboardSession request = true := by
  generalize reads : (Phase.readingBody : Phase M) = after at step
  cases step with
  | awaitsBody _ _ session => exact session needs
  | reads _ waits =>
      subst reads
      cases waits
  | readsOn _ waits =>
      subst reads
      cases waits
  | stores =>
      unfold storePolicy at reads
      split_ifs at reads
  | writes =>
      unfold storePolicy at reads
      split_ifs at reads
  | _ => cases reads

end

/-! ## The owner's answer -/

/-- What an `approved` counts for: only `true` is consent. -/
def consentOf : Option Json → Bool
  | some (.bool approved) => approved
  | _ => false

/-- The body of an answer: the id it is about, and whether it approves. -/
def Judges (body : Json) (id : Text) (approved : Bool) : Prop :=
  body.property "id".toList = .ok (some (.str id)) ∧
    ∃ value, body.property "approved".toList = .ok value ∧ approved = consentOf value

theorem approveBody_of_judges {body : Json} {id : Text} {approved : Bool}
    (judges : Judges body id approved) : approveBody s body =
      .ok (.finished (.settled (s.approver.resolve id).isSome),
        [.settle id ⟨approved, none, "dashboard:owner".toList⟩]) := by
  obtain ⟨named, value, read, rfl⟩ := judges
  rw [approveBody, named]
  dsimp only [bind, Except.bind]
  rw [read]
  rfl

/-- What is settled is what an answer tells. -/
theorem judges_of_settle {body : Json} {id : Text} {outcome : ApprovalOutcome}
    (settles : .settle id outcome ∈ (orFailed (approveBody s body)).2) :
    Judges body id outcome.approved ∧ orFailed (approveBody s body) =
      (.finished (.settled (s.approver.resolve id).isSome), [.settle id outcome]) := by
  cases outcome' : approveBody s body with
  | error e =>
      rw [outcome'] at settles
      cases settles
  | ok next =>
      rw [outcome'] at settles
      rw [approveBody, bind_eq_ok_iff] at outcome'
      obtain ⟨named, read, approved⟩ := outcome'
      split at approved
      · rw [bind_eq_ok_iff] at approved
        obtain ⟨value, told, approved⟩ := approved
        cases approved
        cases List.mem_singleton.mp settles
        exact ⟨⟨read, value, told, rfl⟩, rfl⟩
      · cases approved
        cases settles

theorem Phase.Over.answerApproval {phase : Phase M} (ended : phase.Over)
    {outcome : ApprovalOutcome} : (phase.answerApproval outcome).Over := by
  rcases ended with - | @⟨⟨call, body, work, evaluated⟩, claimed, e, raised⟩
  · exact .finished
  · unfold Phase.answerApproval
    split
    · next same =>
        cases same
        exact .raised raised
    · exact .raised raised

/-- The promise of a request that waits is resolved. -/
theorem Phase.Stands.answerApproval {phase : Phase M} {id : Text} {outcome : ApprovalOutcome}
    (stands : phase.WaitsUnder id ∨ phase.Over) (stood : phase.Stands consented) :
    (phase.answerApproval outcome).Stands (consented ∨ outcome.approved = true) := by
  rcases stands with @⟨⟨call, body, work, evaluated⟩, paid, verdict, works, waits⟩ | ended
  · dsimp only at works waits
    subst works waits
    have not : ¬ consented := by
      refine Api.Stands.unanswered stood (.working rfl fun verdict' id' outcome' same => ?_)
      cases same
    refine ⟨fun _ _ _ _ => ⟨paid, rfl⟩, ?_, ?_, ?_⟩
    · rintro (call | ⟨-, unanswered⟩)
      · cases call
      · exact absurd rfl (unanswered _ _ _)
    · intro body' id' outcome' answered
      cases answered
      exact (or_iff_right not).symm
    · intro body' result evaluatedAt told
      cases told
  · rcases ended with - | @⟨⟨call, body, work, evaluated⟩, claimed, e, raised⟩
    · trivial
    · dsimp only at raised
      subst raised
      have idle (verdict : VerdictBody) (id : Text) (outcome : Option ApprovalOutcome) :
          work ≠ .approving verdict id outcome := by
        intro approving
        obtain ⟨paid, works⟩ := Api.Stands.works stood verdict id outcome approving
        cases works
      have same : (Phase.priced ⟨.finished claimed (.raised e), body, work, evaluated⟩ :
          Phase M).answerApproval outcome =
            .priced ⟨.finished claimed (.raised e), body, work, evaluated⟩ := by
        unfold Phase.answerApproval
        split
        · next approving =>
            cases approving
            exact absurd rfl (idle _ _ _)
        · rfl
      rw [same]
      refine Api.Stands.of_silent rfl idle ?_
      rintro (call | call)
      · cases call
      · cases call

/-! ## Steps of the server -/

section

variable [DecidableEq M] {e : ServerEvent M}

/-- A step, before its effects and with them. -/
structure Server.Turns (o : ServerOptions M Payload) (s : Server M) (e : ServerEvent M)
    (s' : Server M) (i : Nat) (request : Request M) (before : Option (Phase M × Answer M))
    (after : Phase M) (effects : List Effect) (t : Server M) : Prop where
  begins : Server.Begins s e i request before
  step : RequestStep o s e.now e.random request before after effects
  approver : t.approver = s.approver
  own : t.requests[i]? = some (request, after)
  others : ∀ j, j ≠ i → t.requests[j]? = s.requests[j]?
  ends : s' = t.applyAll i effects
  settles : ∀ id outcome, .settle id outcome ∈ effects → request.route = .approve ∧
    ∃ body, before = some (.readingBody, .body (.ok body)) ∧ Judges body id outcome.approved ∧
      effects = [.settle id outcome]
  judged : ∀ body id approved, before = some (.readingBody, .body (.ok body)) →
    request.route = .approve → Judges body id approved →
      effects = [.settle id ⟨approved, none, "dashboard:owner".toList⟩]

theorem Server.turns_of_step (stepped : Server.step o s e = some s') :
    ∃ i request before after effects t,
      Server.Turns o s e s' i request before after effects t := by
  unfold Server.step at stepped
  cases happens : e.happening with
  | arrives request =>
      rw [happens] at stepped
      cases Option.some.inj stepped
      have step := @arrive_step M Payload o s e.now e.random _ request
      refine ⟨s.requests.length, request, none, _, _, s.receive request (arrive o s e.now request).1,
        .arrives happens rfl, step, rfl, List.getElem?_concat_length, ?_, rfl, ?_, ?_⟩
      · intro j other
        rcases lt_or_gt_of_ne other with below | beyond
        · exact List.getElem?_append_left below
        · rw [List.getElem?_eq_none beyond.le]
          refine List.getElem?_eq_none ?_
          rw [Server.receive, List.length_append]
          exact beyond
      · intro id outcome mem
        generalize (arrive o s e.now request).1 = after, (arrive o s e.now request).2 = effects
          at step mem
        cases step with
        | subscribes => cases List.mem_singleton.mp mem
        | _ => cases mem
      · intro body id approved none
        cases none
  | answers i answer =>
      rw [happens] at stepped
      dsimp only at stepped
      split at stepped
      · cases stepped
      · next request before at_i =>
          obtain ⟨next, advanced, rfl⟩ := Option.map_eq_some_iff.mp stepped
          have step := advance_step advanced
          have there : (s.become i request next.1).requests[i]? = some (request, next.1) :=
            List.getElem?_set_self (List.getElem?_eq_some_iff.mp at_i).1
          have approving (body : Json) (reads : before = .readingBody)
              (told : answer = .body (.ok body)) (route : request.route = .approve) :
              next = orFailed (approveBody s body) := by
            subst reads told
            rw [advance, bodyRead, route] at advanced
            exact (Option.some.inj advanced).symm
          refine ⟨i, request, _, next.1, next.2, s.become i request next.1, .answers happens at_i,
            step, rfl, there, fun j other => List.getElem?_set_ne (Ne.symm other), rfl, ?_, ?_⟩
          · intro id outcome mem
            obtain ⟨route, ⟨body, same⟩, -⟩ := step.of_settle mem
            cases same
            rw [approving body rfl rfl route] at mem ⊢
            obtain ⟨judges, settled⟩ := judges_of_settle mem
            exact ⟨route, body, rfl, judges, congrArg Prod.snd settled⟩
          · intro body id approved same route judges
            cases same
            rw [approving body rfl rfl route, approveBody_of_judges judges]
            rfl

/-! ## Consent -/

/-- The owner consents to the verification `i`: an answer that holds a session approves the id that
`i` is pending under. -/
def Consents (o : ServerOptions M Payload) (i : Nat) (s : Server M) (e : ServerEvent M) : Prop :=
  ∃ j request body id, e.happening = .answers j (.body (.ok body)) ∧
    s.requests[j]? = some (request, .readingBody) ∧ request.route = .approve ∧
    o.hasDashboardSession request = true ∧ Judges body id true ∧ s.approver.resolve id = some i

/-- What holds of every request, by which verifications the owner has consented to. -/
structure Escalating (o : ServerOptions M Payload) (consented : Nat → Prop) (s : Server M) :
    Prop where
  sessions : ∀ (j : Nat) (request : Request M), s.requests[j]? = some (request, .readingBody) →
    request.route.needsSession = true → o.hasDashboardSession request = true
  pending : ∀ id j, s.approver.resolve id = some j → ∃ (request : Request M) (phase : Phase M),
    s.requests[j]? = some (request, phase) ∧ (phase.WaitsUnder id ∨ phase.Over)
  stands : ∀ (j : Nat) (request : Request M) (phase : Phase M), s.requests[j]? = some (request, phase) →
    phase.Stands (consented j)
  unborn : ∀ j : Nat, s.requests[j]? = none → ¬ consented j

section Turn

variable {consented : Nat → Prop} {i : Nat} {before : Option (Phase M × Answer M)} {after : Phase M}
  {effects : List Effect} {t : Server M}

theorem Escalating.was (held : Escalating o consented s)
    (turns : Server.Turns o s e s' i request before after effects t) :
    (before = none → ¬ consented i) ∧
      ∀ phase answer, before = some (phase, answer) → phase.Stands (consented i) := by
  obtain ⟨event, new⟩ | ⟨event, at_i⟩ := turns.begins
  · refine ⟨fun _ => held.unborn _ ?_, fun phase answer same => ?_⟩
    · rw [new]
      exact List.getElem?_eq_none le_rfl
    · cases same
  · refine ⟨fun none => ?_, fun phase answer same => ?_⟩
    · cases none
    · cases same
      exact held.stands _ _ _ at_i

/-- No verification is consented to but by an answer that settles it. -/
theorem Server.Turns.not_consents (turns : Server.Turns o s e s' i request before after effects t)
    (unsettled : ∀ id outcome, .settle id outcome ∉ effects) (k : Nat) : ¬ Consents o k s e := by
  rintro ⟨j, answerer, body, id, event, at_j, route, -, judges, -⟩
  obtain ⟨arrives, -⟩ | ⟨answers, at_i⟩ := turns.begins
  · cases arrives.symm.trans event
  · cases answers.symm.trans event
    cases at_i.symm.trans at_j
    have settles := turns.judged _ _ _ rfl route judges
    exact unsettled _ _ (settles ▸ List.mem_singleton.mpr rfl)

/-- The requests are those of the step, whatever became of the approver. -/
theorem Escalating.of_pending {u : Server M} (held : Escalating o consented s)
    (turns : Server.Turns o s e s' i request before after effects t)
    (requests : u.requests = t.requests) (stood : after.Stands (consented i))
    (pending : ∀ id j, u.approver.resolve id = some j →
      ∃ (request : Request M) (phase : Phase M), t.requests[j]? = some (request, phase) ∧
        (phase.WaitsUnder id ∨ phase.Over)) : Escalating o consented u := by
  refine ⟨?_, ?_, ?_, ?_⟩
  · intro j served at_j needs
    rw [requests] at at_j
    by_cases own : j = i
    · subst own
      cases turns.own.symm.trans at_j
      exact turns.step.readingBody needs
    · rw [turns.others j own] at at_j
      exact held.sessions j served at_j needs
  · intro id j waits
    rw [requests]
    exact pending id j waits
  · intro j served phase at_j
    rw [requests] at at_j
    by_cases own : j = i
    · subst own
      cases turns.own.symm.trans at_j
      exact stood
    · rw [turns.others j own] at at_j
      exact held.stands j served phase at_j
  · intro j absent
    rw [requests] at absent
    by_cases own : j = i
    · subst own
      cases turns.own.symm.trans absent
    · rw [turns.others j own] at absent
      exact held.unborn j absent

/-- A step that settles nothing. -/
theorem Escalating.keep (held : Escalating o consented s)
    (turns : Server.Turns o s e s' i request before after effects t)
    (unsettled : ∀ id outcome, .settle id outcome ∉ effects) : Escalating o consented s' := by
  obtain ⟨fresh, was⟩ := held.was turns
  have turned := turns.step.turned was unsettled
  have elsewhere {id : Text} {j : Nat} (waits : s.approver.resolve id = some j) (other : j ≠ i) :
      ∃ (request : Request M) (phase : Phase M), t.requests[j]? = some (request, phase) ∧
        (phase.WaitsUnder id ∨ phase.Over) := by
    rw [turns.others j other]
    exact held.pending id j waits
  have here {id : Text} (waits : s.approver.resolve id = some i) :
      ∃ phase answer, before = some (phase, answer) ∧ (phase.WaitsUnder id ∨ phase.Over) := by
    obtain ⟨request', phase, at_i, stands⟩ := held.pending id i waits
    obtain ⟨-, new⟩ | ⟨-, at_i'⟩ := turns.begins
    · rw [new, List.getElem?_eq_none le_rfl] at at_i
      cases at_i
    · cases at_i.symm.trans at_i'
      exact ⟨_, _, rfl, stands⟩
  cases turned with
  | quiet quiet ends =>
      obtain ⟨requests, approver⟩ := @applyAll_quiet M i t effects quiet
      rw [← turns.ends] at requests approver
      refine held.of_pending turns requests (turns.step.stands fresh was) fun id j waits => ?_
      rw [approver, turns.approver] at waits
      by_cases own : j = i
      · subst own
        obtain ⟨phase, answer, rfl, stands⟩ := here waits
        refine ⟨request, after, turns.own, .inr (ends phase rfl fun idle => ?_)⟩
        rcases stands with waiting | ended
        · exact idle.idle id waiting
        · exact idle.live ended
      · exact elsewhere waits own
  | @asks quietly quiet idle waiting =>
      obtain ⟨requests, approver⟩ := @applyAll_quiet M i t quietly quiet
      have after' : s' = (t.applyAll i quietly).apply i (.ask e.random) := by
        rw [turns.ends, Server.applyAll, List.foldl_append]
        rfl
      refine held.of_pending turns ?_ (turns.step.stands fresh was) fun id j waits => ?_
      · rw [after', Server.apply, requests]
      · rw [after', Server.apply, approver, turns.approver] at waits
        change (s.approver.pending.set e.random i).get id = some j at waits
        rw [OrderedMap.get_set] at waits
        split_ifs at waits with same
        · cases waits
          rw [same]
          exact ⟨request, after, turns.own, .inl waiting⟩
        · by_cases own : j = i
          · subst own
            obtain ⟨phase, answer, rfl, stands⟩ := here waits
            rcases stands with waiting | ended
            · exact absurd waiting ((idle phase rfl).idle id)
            · exact absurd ended (idle phase rfl).live
          · exact elsewhere waits own
  | @timesOut phase id mem waiting =>
      have after' : s' = t.apply i (.forget id) := turns.ends
      refine held.of_pending turns ?_ (turns.step.stands fresh was) fun id' j waits => ?_
      · rw [after', Server.apply]
      · rw [after', Server.apply, turns.approver] at waits
        change (s.approver.pending.erase id).get id' = some j at waits
        rw [OrderedMap.get_erase] at waits
        split_ifs at waits with same
        by_cases own : j = i
        · subst own
          obtain ⟨phase', answer, rfl, stands⟩ := here waits
          cases mem
          rcases stands with waiting' | ended
          · exact absurd (waiting'.unique waiting) same
          · exact absurd ended waiting.not_over
        · exact elsewhere waits own

/-- An answer reaches whoever waits under its id. -/
theorem Escalating.answer (held : Escalating o consented t) {id : Text} {outcome : ApprovalOutcome}
    {k : Nat} (waits : t.approver.resolve id = some k) :
    Escalating o (fun j => consented j ∨ j = k ∧ outcome.approved = true)
      (t.apply i (.settle id outcome)) := by
  have settled : t.apply i (.settle id outcome) = { t with
      approver := t.approver.delete id
      requests := t.requests.modify k fun served => (served.1, served.2.answerApproval outcome) } := by
    rw [Server.apply]
    simp only [waits]
  obtain ⟨waiter, phase, at_k, stands⟩ := held.pending id k waits
  have own : (t.apply i (.settle id outcome)).requests[k]? =
      some (waiter, phase.answerApproval outcome) := by
    rw [settled]
    dsimp only
    rw [List.getElem?_modify, at_k]
    simp
  have others {j : Nat} (other : j ≠ k) :
      (t.apply i (.settle id outcome)).requests[j]? = t.requests[j]? := by
    rw [settled]
    dsimp only
    simp [Ne.symm other]
  refine ⟨?_, ?_, ?_, ?_⟩
  · intro j served at_j needs
    by_cases here : j = k
    · subst here
      rw [own] at at_j
      have reads := congrArg Prod.snd (Option.some.inj at_j)
      rcases stands with ⟨-, waiting⟩ | ended
      · unfold Phase.answerApproval at reads
        split at reads <;> cases reads
      · have ended' := @Phase.Over.answerApproval M phase ended outcome
        dsimp only at reads
        rw [reads] at ended'
        cases ended'
    · rw [others here] at at_j
      exact held.sessions j served at_j needs
  · intro id' j waits'
    rw [settled] at waits'
    change (t.approver.pending.erase id).get id' = some j at waits'
    rw [OrderedMap.get_erase] at waits'
    split_ifs at waits' with same
    by_cases here : j = k
    · subst here
      obtain ⟨waiter', phase', at_j, stands'⟩ := held.pending id' j waits'
      cases at_k.symm.trans at_j
      refine ⟨_, _, own, .inr ?_⟩
      rcases stands with waiting | ended
      · rcases stands' with waiting' | ended
        · exact absurd (waiting'.unique waiting) same
        · exact absurd ended waiting.not_over
      · exact ended.answerApproval
    · obtain ⟨waiter', phase', at_j, stands'⟩ := held.pending id' j waits'
      exact ⟨waiter', phase', by rw [others here, at_j], stands'⟩
  · intro j served phase' at_j
    by_cases here : j = k
    · subst here
      rw [own] at at_j
      cases at_j
      simp only [true_and]
      exact Phase.Stands.answerApproval stands (held.stands j waiter phase at_k)
    · rw [others here] at at_j
      simp only [here, false_and, or_false]
      exact held.stands j served phase' at_j
  · intro j absent
    by_cases here : j = k
    · subst here
      rw [own] at absent
      cases absent
    · rw [others here] at absent
      simp only [here, false_and, or_false]
      exact held.unborn j absent

end Turn

/-- Every step. -/
theorem Escalating.step {consented : Nat → Prop} (held : Escalating o consented s)
    (stepped : Server.step o s e = some s') :
    Escalating o (fun k => consented k ∨ Consents o k s e) s' := by
  obtain ⟨i, request, before, after, effects, t, turns⟩ := Server.turns_of_step stepped
  by_cases settles : ∃ id outcome, .settle id outcome ∈ effects
  · obtain ⟨id, outcome, mem⟩ := settles
    obtain ⟨route, body, rfl, judges, rfl⟩ := turns.settles id outcome mem
    obtain ⟨-, -, settled, rfl⟩ := turns.step.of_settle mem
    have ends : s' = t.apply i (.settle id outcome) := turns.ends
    obtain - | ⟨event, at_i⟩ := turns.begins
    have needs : request.route.needsSession = true := by rw [route]; rfl
    have consents (k : Nat) : Consents o k s e ↔
        s.approver.resolve id = some k ∧ outcome.approved = true := by
      constructor
      · rintro ⟨j, request', body', id', event', at_j, route', -, judges', waits⟩
        cases event.symm.trans event'
        cases at_i.symm.trans at_j
        cases turns.judged _ _ _ rfl route judges'
        exact ⟨waits, rfl⟩
      · rintro ⟨waits, approved⟩
        rw [approved] at judges
        exact ⟨i, request, body, id, event, at_i, route, held.sessions i request at_i needs, judges,
          waits⟩
    -- the request that answers stands under no id itself
    have moved : Escalating o consented t := by
      refine held.of_pending turns rfl trivial fun id' j waits => ?_
      rw [turns.approver] at waits
      obtain ⟨waiter, phase, at_j, stands⟩ := held.pending id' j waits
      have other : j ≠ i := by
        rintro rfl
        cases at_i.symm.trans at_j
        rcases stands with waiting | ended
        · cases waiting
        · cases ended
      exact ⟨waiter, phase, by rw [turns.others j other, at_j], stands⟩
    rw [ends]
    simp only [consents]
    cases waits : s.approver.resolve id with
    | none =>
        have same : t.apply i (.settle id outcome) = t := by
          rw [Server.apply]
          simp only [turns.approver, waits]
        rw [same]
        simpa using moved
    | some k =>
        have answered : Escalating o (fun j => consented j ∨ j = k ∧ outcome.approved = true)
            (t.apply i (.settle id outcome)) := moved.answer (by rw [turns.approver, waits])
        have turned (j : Nat) : (some k = some j) = (j = k) :=
          propext (Option.some_inj.trans eq_comm)
        simp only [turned]
        exact answered
  · have unsettled (id : Text) (outcome : ApprovalOutcome) : .settle id outcome ∉ effects :=
      fun mem => settles ⟨id, outcome, mem⟩
    have none (k : Nat) : ¬ Consents o k s e := turns.not_consents unsettled k
    simp only [none, or_false]
    exact held.keep turns unsettled

/-! ## Runs -/

variable {Meets : Server M → ServerEvent M → Prop} {policy : ResolvedPolicy}
  {file : Option PolicyDocument} {events : List (ServerEvent M)}

theorem Escalating.of_run
    (run : Run (Server.step o) Meets (Server.started policy file) events s) :
    Escalating o (fun i => Passes (Server.step o) Meets (Consents o i)
      (Server.started policy file) events) s := by
  refine @Run.history _ _ _ _ _ _ _ (fun events s => Escalating o (fun i =>
    Passes (Server.step o) Meets (Consents o i) (Server.started policy file) events) s) run ?_ ?_
  · refine ⟨?_, ?_, ?_, fun i _ => not_passes_nil⟩
    · intro j request at_j
      cases at_j
    · intro id j waits
      cases waits
    · intro j request phase at_j
      cases at_j
  · intro before e s₁ s₂ ran held _ stepped
    have stepped := held.step stepped
    simp only [← ran.passes_concat] at stepped
    exact stepped

/-- In every run, a verification that the engine escalated is answered `ALLOW` if somewhere in the
run a request that held a dashboard session approved the id it was pending under, and `BLOCK` if
not. -/
theorem escalation_answered
    (run : Run (Server.step o) Meets (Server.started policy file) events s) {i : Nat}
    {claimed : Option Text} {body : VerdictBody} {payment : Option PaymentResponse}
    {result : PolicyResult} {evaluatedAt : Nat}
    (at_i : s.requests[i]? = some (request, .priced priced))
    (told : priced.call = .finished claimed (.answered (.verdict body) payment))
    (evaluated : priced.evaluated = some (result, evaluatedAt))
    (escalated : result.decision = .requireApproval) :
    body.decision = .allow ∧ Passes (Server.step o) Meets (Consents o i)
        (Server.started policy file) events ∨
      body.decision = .block ∧ ¬ Passes (Server.step o) Meets (Consents o i)
        (Server.started policy file) events := by
  have stood : Stands _ priced := (Escalating.of_run run).stands i request _ at_i
  exact stood.told body result evaluatedAt (by rw [told]; rfl) evaluated escalated

end

/-- A payment waits for an approval, and the owner gives it. -/
def approvedByOwner : List (ServerEvent Text) :=
  verifyCall 0 (paymentOf 95000000) 40000000 ++
    [.arrives { ownerEdit with method := "POST".toList, path := "/v1/approve".toList },
      .answers 1 (.body (.ok (.obj [("id".toList, .str "n".toList),
        ("approved".toList, .bool true)]))),
      .answers 0 .approval].map happens

/-- The request was escalated, and is answered `ALLOW`. -/
def Phase.allowedAfterAll : Phase M → Bool
  | .priced ⟨.finished _ (.answered (.verdict body) _), _, _, some (result, _)⟩ =>
      result.decision = .requireApproval && body.decision = .allow
  | _ => false

theorem escalation_answered_approvedByOwner :
    Passes (Server.step (sampleServer none)) (fun _ _ => True) (Consents (sampleServer none) 0)
      (Server.started samplePolicy none) approvedByOwner := by
  have ran : (replay (Server.step (sampleServer none)) (fun _ _ => True)
      (Server.started samplePolicy none) approvedByOwner).any fun s =>
        s.requests[0]?.any fun served => served.2.allowedAfterAll := by
    decide +kernel
  obtain ⟨s, replayed, state⟩ := (Option.any_eq_true _ _).mp ran
  obtain ⟨⟨request, phase⟩, at_0, allowed⟩ := (Option.any_eq_true _ _).mp state
  unfold Phase.allowedAfterAll at allowed
  split at allowed
  · next claimed body payment sent work result evaluatedAt same =>
      obtain ⟨escalated, allows⟩ := Bool.and_eq_true_iff.mp allowed
      dsimp only at same
      subst same
      have answered := escalation_answered (run_of_replay replayed) at_0 rfl rfl
        (of_decide_eq_true escalated)
      rcases answered with ⟨-, consents⟩ | ⟨blocks, -⟩
      · exact consents
      · cases (of_decide_eq_true allows).symm.trans blocks
  · cases allowed

end Api

end AgentProof
