import AgentProof.Api.ServerSteps

/-!
# The audit trail

A verification is audited once it is answered, from the engine's result and the
policy in force at that time.  The record is what the caller is told as long as
no human had a say in the answer, and no other policy came into force while the
payment was being settled.
-/

namespace AgentProof

namespace Api

open Runs Sdk Js

variable {M Payload : Type} {o : ServerOptions M Payload} {s s' : Server M} {now : Nat}
  {random : Text} {request : Request M} {verdicts : List (ResolvedPolicy × PolicyResult)}
  {records : List PublicAuditRecord}

/-! ## A verification under way -/

/-- The engine has not been asked yet. -/
inductive Undecided : PricedCall → Prop
  | verifying {priced : PricedCall} {header : Text} {requirements : PaymentRequirements}
      (call : priced.call = .verifying header requirements) : Undecided priced
  | reading {priced : PricedCall} {paid : Option (Text × PaymentRequirements)}
      (call : priced.call = .working paid) (reading : Reading priced.work) : Undecided priced

/-- Where a verification stands, with its verdicts and records. -/
inductive Tracked : PricedCall → List (ResolvedPolicy × PolicyResult) → List PublicAuditRecord → Prop
  | undecided {priced : PricedCall} (waits : Undecided priced) : Tracked priced [] []
  | approving {priced : PricedCall} {body : VerdictBody} {id : Text}
      {outcome : Option ApprovalOutcome} {verdicts : List (ResolvedPolicy × PolicyResult)}
      {paid : Option (Text × PaymentRequirements)} (call : priced.call = .working paid)
      (work : priced.work = .approving body id outcome) : Tracked priced verdicts []
  | settling {priced : PricedCall} {header : Text} {requirements : PaymentRequirements}
      {body : VerdictBody} {engine : ResolvedPolicy} {result : PolicyResult} {evaluatedAt : Nat}
      (call : priced.call = .settling header requirements (.verdict body))
      (evaluated : priced.evaluated = some (result, evaluatedAt))
      (told : body.decision = result.decision) : Tracked priced [(engine, result)] []
  | answered {priced : PricedCall} {claimed : Option Text} {body : VerdictBody}
      {payment : Option PaymentResponse} {engine : ResolvedPolicy} {result : PolicyResult}
      {record : PublicAuditRecord}
      (call : priced.call = .finished claimed (.answered (.verdict body) payment))
      (decision : record.decision = body.decision) (policyHash : record.policyHash = engine.hash) :
      Tracked priced [(engine, result)] [record]
  | refused {priced : PricedCall} {claimed : Option Text} {reply : Reply Wire}
      {verdicts : List (ResolvedPolicy × PolicyResult)} {records : List PublicAuditRecord}
      (call : priced.call = .finished claimed reply) (unanswered : reply.isAnswered = false) :
      Tracked priced verdicts records

theorem Tracked.of_unentered {priced : PricedCall} (tracked : Tracked priced verdicts records)
    (unentered : Unentered (some priced)) : verdicts = [] ∧ records = [] := by
  cases unentered with
  | verifying verifying =>
      cases tracked with
      | undecided => exact ⟨rfl, rfl⟩
      | approving call => cases verifying.symm.trans call
      | settling call => cases verifying.symm.trans call
      | answered call => cases verifying.symm.trans call
      | refused call => cases verifying.symm.trans call

theorem Tracked.of_ready {priced : PricedCall} {paid : Option (Text × PaymentRequirements)}
    (tracked : Tracked priced verdicts records) (works : priced.call = .working paid)
    (ready : Ready priced.work) : verdicts = [] ∧ records = [] := by
  cases tracked with
  | undecided => exact ⟨rfl, rfl⟩
  | approving _ work =>
      rw [work] at ready
      cases ready
  | settling call => cases works.symm.trans call
  | answered call => cases works.symm.trans call
  | refused call => cases works.symm.trans call

/-- The work of a call may go on reading, or waiting for its approval. -/
theorem Tracked.withWork {priced : PricedCall} {work : Work}
    (reads : Reading priced.work → Reading work)
    (approves : ∀ body id outcome, priced.work = .approving body id outcome →
      ∃ outcome', work = .approving body id outcome')
    (tracked : Tracked priced verdicts records) :
    Tracked { priced with work := work } verdicts records := by
  cases tracked with
  | undecided waits =>
      cases waits with
      | verifying call => exact .undecided (.verifying call)
      | reading call reading => exact .undecided (.reading call (reads reading))
  | approving call approving =>
      obtain ⟨outcome, work⟩ := approves _ _ _ approving
      exact .approving call work
  | settling call evaluated told => exact .settling call evaluated told
  | answered call decision policyHash => exact .answered call decision policyHash
  | refused call unanswered => exact .refused call unanswered

/-- The call goes on from an approval. -/
def Work.isApproved : Work → Bool
  | approving _ _ (some _) => true
  | _ => false

def GateCall.isSettling : GateCall Wire → Bool
  | settling _ _ _ => true
  | _ => false

/-- The call does not go on from an approval, and is settled under the hash it
was judged under. -/
structure InTime (s : Server M) (verdicts : List (ResolvedPolicy × PolicyResult))
    (priced : PricedCall) : Prop where
  unapproved : priced.work.isApproved = false
  sameHash : priced.call.isSettling = true →
    ∀ verdict ∈ verdicts, s.policy.hash = verdict.1.hash

theorem PricedStep.tracked {before : Option PricedCall} {after : PricedCall}
    {effects : List Effect} (audit : o.audit = true) (verify : request.route = .verify)
    (current : s.engine = s.policy) (fresh : before = none → verdicts = [] ∧ records = [])
    (was : ∀ priced, before = some priced → Tracked priced verdicts records)
    (inTime : ∀ priced, before = some priced → InTime s verdicts priced)
    (step : PricedStep o s now random request before after effects) :
    Tracked after (verdicts ++ effects.filterMap Effect.verdict)
      (records ++ effects.filterMap Effect.audit) := by
  have unjudged : Unentered before → verdicts = [] ∧ records = [] := by
    intro unentered
    cases before with
    | none => exact fresh rfl
    | some priced => exact (was priced rfl).of_unentered unentered
  have silent : ∀ (call : GateCall Wire) (evaluated : Option (PolicyResult × Nat)),
      (publishAudit o s random call evaluated).filterMap Effect.verdict = [] :=
    fun call evaluated => filterMap_publishAudit _ _ _ _ _ _ fun _ => rfl
  cases step with
  | @gated _ call body guard unentered waits =>
      obtain ⟨rfl, rfl⟩ := unjudged unentered
      cases call with
      | verifying header requirements => exact .undecided (.verifying rfl)
      | working paid => cases waits
      | settling header requirements wire => cases waits
      | finished claimed reply => exact .refused rfl (Bool.eq_false_of_not_eq_true' waits)
  | starts unentered _ =>
      obtain ⟨rfl, rfl⟩ := unjudged unentered
      exact .undecided (.reading rfl .gathering)
  | decodes _ decode => exact absurd verify decode
  | fails => exact .refused rfl rfl
  | reads reading goesOn =>
      rw [List.filterMap_nil, List.filterMap_nil, List.append_nil, List.append_nil]
      refine (was _ rfl).withWork (fun _ => goesOn) ?_
      intro body id outcome approving
      rw [approving] at reading
      cases reading
  | asks works ready human =>
      obtain ⟨rfl, rfl⟩ := (was _ rfl).of_ready works ready
      exact .approving works rfl
  | @concludes priced result call guard paid works ready nobody goesOn =>
      obtain ⟨rfl, rfl⟩ := (was _ rfl).of_ready works ready
      rw [List.filterMap_append, List.filterMap_append, silent]
      cases paid with
      | none =>
          cases goesOn
          have recorded : publishAudit o s random (.finished none (.answered (.verdict
              (verdictBody o.deployment s.policy result)) none)) (some (result, now)) =
              [.record (toPublicAuditRecord o.keccak256 random now result s.policy.account
                s.policy.hash)] := if_pos audit
          rw [recorded]
          exact .answered rfl rfl (congrArg ResolvedPolicy.hash current.symm)
      | some payment =>
          cases goesOn
          exact .settling rfl rfl rfl
  | @timesOut priced body id waits =>
      refine Tracked.withWork ?_ ?_ (verdicts.append_nil.symm ▸ records.append_nil.symm ▸ was _ rfl)
      · intro reading
        rw [waits] at reading
        cases reading
      · intro body' id' outcome approving
        cases waits.symm.trans approving
        exact ⟨_, rfl⟩
  | resolves works answered goesOn =>
      have unapproved := (inTime _ rfl).unapproved
      rw [answered] at unapproved
      cases unapproved
  | @settles priced header requirements wire reply waits =>
      have hash := (inTime _ rfl).sameHash (by rw [waits]; rfl)
      rw [silent]
      have before := was _ rfl
      cases before with
      | undecided undecided =>
          cases undecided with
          | verifying call => cases waits.symm.trans call
          | reading call => cases waits.symm.trans call
      | approving call => cases waits.symm.trans call
      | @settling _ _ body engine result evaluatedAt call evaluated told =>
          cases waits.symm.trans call
          have recorded : publishAudit o s random (settled header (.verdict body) reply)
              priced.evaluated = [.record (toPublicAuditRecord o.keccak256 random evaluatedAt result
                s.policy.account s.policy.hash)] := by
            rw [evaluated]
            exact if_pos audit
          rw [recorded]
          exact .answered rfl told.symm (hash _ List.mem_cons_self)
      | answered call => cases waits.symm.trans call
      | refused call => cases waits.symm.trans call

/-! ## Requests to verify -/

/-- A request to verify, with its verdicts and records. -/
inductive Followed : Phase M → List (ResolvedPolicy × PolicyResult) → List PublicAuditRecord → Prop
  | unread : Followed .readingBody [] []
  | refused {status : Nat} {message : Text} {verdicts : List (ResolvedPolicy × PolicyResult)}
      {records : List PublicAuditRecord} (bad : 400 ≤ status) :
      Followed (.finished (.error status message)) verdicts records
  | priced {priced : PricedCall} {verdicts : List (ResolvedPolicy × PolicyResult)}
      {records : List PublicAuditRecord} (tracked : Tracked priced verdicts records) :
      Followed (.priced priced) verdicts records

theorem Followed.resolved {phase phase' : Phase M} (resolved : Server.Resolved phase phase')
    (followed : Followed phase verdicts records) : Followed phase' verdicts records := by
  cases resolved with
  | same => exact followed
  | answered =>
      unfold Phase.answerApproval
      split
      · cases followed with
        | priced tracked =>
            refine .priced (tracked.withWork ?_ ?_)
            · intro reading
              cases reading
            · intro body id outcome approving
              cases approving
              exact ⟨_, rfl⟩
      · exact followed

/-- The answer tells what the trail has, and the trail has it once. -/
def Recorded (response : Response M) (verdicts : List (ResolvedPolicy × PolicyResult))
    (records : List PublicAuditRecord) : Prop :=
  ∃ body payment engine result record, response = .wire (.verdict body) payment ∧
    verdicts = [(engine, result)] ∧ records = [record] ∧ record.decision = body.decision ∧
      record.policyHash = engine.hash

theorem status_ofReply_ne_200 {reply : Reply Wire} (unanswered : reply.isAnswered = false) :
    (Response.ofReply reply : Response M).status ≠ 200 := by
  cases reply with
  | challenge requirements message => exact (by decide : (402 : Nat) ≠ 200)
  | unavailable => exact (by decide : (503 : Nat) ≠ 200)
  | answered result payment => cases unanswered
  | raised e =>
      have bad := le_errorStatus e
      rw [Response.ofReply, Response.status]
      omega

theorem Followed.recorded {phase : Phase M} {response : Response M}
    (followed : Followed phase verdicts records) (answered : phase.response = some response)
    (ok : response.status = 200) : Recorded response verdicts records := by
  cases followed with
  | unread => cases answered
  | refused bad =>
      cases answered
      exact absurd ok (by rw [Response.status]; omega)
  | @priced priced _ _ tracked =>
      obtain ⟨call, body, work, evaluated⟩ := priced
      cases tracked with
      | undecided waits =>
          cases waits with
          | verifying call =>
              cases call
              cases answered
          | reading call =>
              cases call
              cases answered
      | approving call =>
          cases call
          cases answered
      | settling call =>
          cases call
          cases answered
      | answered call decision policyHash =>
          cases call
          cases answered
          exact ⟨_, _, _, _, _, rfl, rfl, rfl, decision, policyHash⟩
      | refused call unanswered =>
          cases call
          cases answered
          exact absurd ok (status_ofReply_ne_200 unanswered)

section

variable [DecidableEq M]

theorem RequestStep.followed {before : Option (Phase M × Answer M)} {after : Phase M}
    {effects : List Effect} (audit : o.audit = true) (verify : request.route = .verify)
    (current : s.engine = s.policy) (fresh : before = none → verdicts = [] ∧ records = [])
    (was : ∀ phase answer, before = some (phase, answer) → Followed phase verdicts records)
    (inTime : ∀ priced answer, before = some (.priced priced, answer) → InTime s verdicts priced)
    (step : RequestStep o s now random request before after effects) :
    Followed after (verdicts ++ effects.filterMap Effect.verdict)
      (records ++ effects.filterMap Effect.audit) := by
  cases step with
  | fails bad _ => exact .refused bad
  | reads route =>
      rw [verify] at route
      cases route
  | @readsOn before _ _ waited =>
      cases was _ _ rfl with
      | unread => cases waited
      | refused => cases waited
      | priced => cases waited
  | shows route =>
      rw [verify] at route
      cases route
  | @showsRead before _ _ waited =>
      cases was _ _ rfl with
      | unread => cases waited
      | refused => cases waited
      | priced => cases waited
  | awaitsBody =>
      obtain ⟨rfl, rfl⟩ := fresh rfl
      exact .unread
  | tellsHealth health => cases verify.symm.trans health
  | logsIn route => cases verify.symm.trans route
  | subscribes route => cases verify.symm.trans route
  | unsubscribes => cases was _ _ rfl
  | enters _ step =>
      cases was _ _ rfl with
      | unread =>
          refine .priced (step.tracked audit verify current (fun _ => ⟨rfl, rfl⟩) ?_ ?_)
          · intro priced none
            cases none
          · intro priced none
            cases none
  | goesOn step =>
      cases was _ _ rfl with
      | priced tracked =>
          refine .priced (step.tracked audit verify current ?_ ?_ ?_)
          · intro none
            cases none
          · intro priced same
            cases same
            exact tracked
          · intro priced same
            cases same
            exact inTime _ _ rfl
  | approves route => cases verify.symm.trans route
  | publishes route =>
      rcases route with route | route
      · cases verify.symm.trans route
      · cases verify.symm.trans route
  | patches route => cases verify.symm.trans route
  | stores route => cases verify.symm.trans route
  | writes => cases was _ _ rfl
  | writeFails => cases was _ _ rfl
  | checks => cases was _ _ rfl

end

/-! ## Runs -/

variable {e : ServerEvent M}

/-- No call goes on from an approval, and a settlement comes in under the hash
the call was judged under. -/
def auditsInTime (s : Server M) (e : ServerEvent M) : Bool :=
  match e.happening with
  | .arrives _ => true
  | .answers i _ =>
      match s.requests[i]? with
      | some (_, .priced priced) =>
          !priced.work.isApproved && (!priced.call.isSettling ||
            (entriesOf s.decided i).all fun verdict => s.policy.hash = verdict.1.hash)
      | _ => true

/-- Every verification that is answered 200 has one verdict and one record, and
the record has the decision of the answer and the hash of the verdict's policy. -/
def AuditAgrees (s : Server M) : Prop :=
  ∀ i request phase response, s.requests[i]? = some (request, phase) → request.route = .verify →
    phase.response = some response → response.status = 200 →
      Recorded response (entriesOf s.decided i) (entriesOf s.audited i)

structure Audited (s : Server M) : Prop where
  current : s.engine = s.policy
  followed : ∀ i request phase, s.requests[i]? = some (request, phase) → request.route = .verify →
    Followed phase (entriesOf s.decided i) (entriesOf s.audited i)
  fresh : ∀ i, s.requests[i]? = none → entriesOf s.decided i = [] ∧ entriesOf s.audited i = []

theorem inTime_of_auditsInTime {i : Nat} {answer : Answer M} {priced : PricedCall}
    (event : e.happening = .answers i answer)
    (at_i : s.requests[i]? = some (request, .priced priced)) (inTime : auditsInTime s e = true) :
    InTime s (entriesOf s.decided i) priced := by
  rw [auditsInTime, event] at inTime
  dsimp only at inTime
  rw [at_i] at inTime
  obtain ⟨unapproved, settles⟩ := Bool.and_eq_true_iff.mp inTime
  constructor
  · exact Bool.eq_false_of_not_eq_true' unapproved
  · intro settling verdict mem
    rw [settling, Bool.not_true, Bool.false_or] at settles
    exact of_decide_eq_true (List.all_eq_true.mp settles verdict mem)

section

variable [DecidableEq M]

theorem Audited.step (audited : Audited s) (audit : o.audit = true)
    (inTime : auditsInTime s e = true) (stepped : Server.step o s e = some s') : Audited s' := by
  obtain ⟨i, request, before, after, effects, moves⟩ := Server.moves_of_step stepped
  constructor
  · rw [moves.engine, moves.policy, audited.current]
  · intro j served phase at_j verify
    rw [moves.decided, moves.audited]
    rcases moves.stands j served phase at_j with ⟨rfl, rfl, resolved⟩ | ⟨other, earlier, at_j, resolved⟩
    · rw [entriesOf_append_self, entriesOf_append_self]
      refine Followed.resolved resolved (moves.step.followed audit verify audited.current ?_ ?_ ?_)
      · intro arriving
        subst arriving
        cases moves.begins with
        | arrives _ new => exact audited.fresh j (by rw [new]; exact List.getElem?_eq_none le_rfl)
      · intro earlier answer told
        subst told
        cases moves.begins with
        | answers _ at_j => exact audited.followed j served earlier at_j verify
      · intro priced answer told
        subst told
        cases moves.begins with
        | answers event at_j => exact inTime_of_auditsInTime event at_j inTime
    · rw [entriesOf_append_other other, entriesOf_append_other other]
      exact (audited.followed j served earlier at_j verify).resolved resolved
  · intro j absent
    obtain ⟨other, before⟩ := moves.absent absent
    rw [moves.decided, moves.audited, entriesOf_append_other other, entriesOf_append_other other]
    exact audited.fresh j before

/-- In every run in which no call goes on from an approval, and no policy with
another hash comes into force while a call is settled, the trail agrees with
what the callers are told. -/
theorem audit_agrees {policy : ResolvedPolicy} {file : Option PolicyDocument}
    {events : List (ServerEvent M)} (audit : o.audit = true)
    (run : Run (Server.step o) (fun s e => auditsInTime s e = true) (Server.started policy file)
      events s) : AuditAgrees s := by
  have audited : Audited s := by
    apply run.invariant
    · intro s₁ e s₂ audited inTime stepped
      exact audited.step audit inTime stepped
    · constructor
      · rfl
      · intro i request phase at_i
        cases at_i
      · intro i _
        exact ⟨rfl, rfl⟩
  intro i request phase response at_i verify answered ok
  exact (audited.followed i request phase at_i verify).recorded answered ok

end

/-- A payment waits for an approval; meanwhile the owner raises the daily limit,
and nobody approves in time. -/
def heldOverAnEdit : List (ServerEvent Text) :=
  verifyCall 0 (paymentOf 95000000) 40000000 ++
    [.arrives ownerEdit, .answers 1 (.body (.ok (amountPatch .dailySpend "200000000"))),
      .answers 0 .timer, .answers 0 .approval].map happens

theorem heldOverAnEdit_audited :
    ¬ ∀ (o : ServerOptions Text Text) (policy : ResolvedPolicy) (file : Option PolicyDocument)
        (events : List (ServerEvent Text)) (s : Server Text), o.audit = true →
        Run (Server.step o) (fun _ _ => True) (Server.started policy file) events s →
          AuditAgrees s := by
  intro agrees
  have ran : (replay (Server.step (sampleServer none)) (fun _ _ => True)
      (Server.started samplePolicy none) heldOverAnEdit).any fun s =>
        (s.requests[0]?.any fun served => served.1.route = .verify &&
          served.2.response.any fun response => response.status = 200) &&
        (entriesOf s.decided 0).all (fun verdict => verdict.1.hash = "0x150000000".toList) &&
        (entriesOf s.audited 0).all fun record => record.policyHash = "0x200000000".toList := by
    decide +kernel
  obtain ⟨s, replayed, state⟩ := (Option.any_eq_true _ _).mp ran
  obtain ⟨told, recorded⟩ := Bool.and_eq_true_iff.mp state
  obtain ⟨told, judged⟩ := Bool.and_eq_true_iff.mp told
  obtain ⟨⟨request, phase⟩, at_0, told⟩ := (Option.any_eq_true _ _).mp told
  obtain ⟨verify, told⟩ := Bool.and_eq_true_iff.mp told
  obtain ⟨response, answered, ok⟩ := (Option.any_eq_true _ _).mp told
  obtain ⟨body, payment, engine, result, record, -, verdicts, records, -, hash⟩ :=
    agrees (sampleServer none) samplePolicy none heldOverAnEdit s rfl (run_of_replay replayed) 0
      request phase response at_0 (of_decide_eq_true verify) answered (of_decide_eq_true ok)
  have before := of_decide_eq_true (List.all_eq_true.mp judged (engine, result)
    (by rw [verdicts]; exact List.mem_cons_self))
  have after := of_decide_eq_true (List.all_eq_true.mp recorded record
    (by rw [records]; exact List.mem_cons_self))
  dsimp only at before
  rw [after, before] at hash
  exact absurd hash (by decide)

/-- One payment is verified before an edit, and one after it. -/
def verifiedAroundAnEdit : List (ServerEvent Text) :=
  verifyCall 0 (paymentOf 50000000) 40000000 ++
    [.arrives ownerEdit, .answers 1 (.body (.ok (amountPatch .dailySpend "200000000")))].map happens ++
    verifyCall 2 (paymentOf 50000000) 140000000

theorem verifiedAroundAnEdit_audited : ∃ s, Run (Server.step (sampleServer none))
    (fun s e => auditsInTime s e = true) (Server.started samplePolicy none) verifiedAroundAnEdit s ∧
    (s.audited.map fun record => (record.1, record.2.decision, record.2.policyHash)) =
      [(0, .allow, "0x150000000".toList), (2, .allow, "0x200000000".toList)] ∧
    AuditAgrees s := by
  have ran : (replay (Server.step (sampleServer none)) (fun s e => auditsInTime s e = true)
      (Server.started samplePolicy none) verifiedAroundAnEdit).any fun s =>
        (s.audited.map fun record => (record.1, record.2.decision, record.2.policyHash)) =
          [(0, .allow, "0x150000000".toList), (2, .allow, "0x200000000".toList)] := by
    decide +kernel
  obtain ⟨s, replayed, state⟩ := (Option.any_eq_true _ _).mp ran
  have run := run_of_replay replayed
  exact ⟨s, run, of_decide_eq_true state, audit_agrees rfl run⟩

end Api

end AgentProof
