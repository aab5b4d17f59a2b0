import AgentProof.Api.ServerSteps

/-!
# Who publishes to the dashboard

Verifications do, and whoever shows the admin token on `/v1/internal/publish`.
So does whoever posts to `/v1/publish`, which asks for nothing; without such
posts the stream shows what this server has evaluated, and nothing else.
-/

namespace AgentProof

namespace Api

open Runs Sdk Js

variable {M Payload : Type} {o : ServerOptions M Payload}

/-- What a verification publishes once the engine has come to a result: the
decision, the approval it asks for, and what became of that. -/
inductive Tells (o : ServerOptions M Payload) (engine : ResolvedPolicy) (result : PolicyResult) :
    StreamEvent → Prop
  | decision : Tells o engine result ⟨.decision, .verdict (verdictBody o.deployment engine result)⟩
  | approval {id : Text} {expiresAt : Nat} (human : result.decision = .requireApproval) :
      Tells o engine result ⟨.approval, .approval id result.reason result.intent expiresAt⟩
  | resolution {outcome : ApprovalOutcome} (human : result.decision = .requireApproval) :
      Tells o engine result
        ⟨.decision, .verdict (resolvedBody (verdictBody o.deployment engine result) outcome)⟩

/-- Where a verification may stand, by the verdicts so far. -/
inductive Backed (o : ServerOptions M Payload) (decided : List (Nat × ResolvedPolicy × PolicyResult))
    (i : Nat) (route : Route) : Work → Prop
  | idle : Backed o decided i route .idle
  | reading {work : Work} (verify : route = .verify) (reading : Reading work) :
      Backed o decided i route work
  | approving {engine : ResolvedPolicy} {result : PolicyResult} {id : Text}
      {outcome : Option ApprovalOutcome} (verify : route = .verify)
      (verdict : (i, engine, result) ∈ decided) (human : result.decision = .requireApproval) :
      Backed o decided i route (.approving (verdictBody o.deployment engine result) id outcome)

/-- A request that may go on waits for no body of `/v1/internal/publish`, and
works only to verify. -/
def Unprivileged (o : ServerOptions M Payload)
    (decided : List (Nat × ResolvedPolicy × PolicyResult)) (i : Nat) (route : Route) :
    Phase M → Prop
  | .readingBody => route ≠ .internalPublish
  | .priced priced => Backed o decided i route priced.work
  | _ => True

variable {decided decided' : List (Nat × ResolvedPolicy × PolicyResult)} {i : Nat} {route : Route}
  {phase phase' : Phase M}

theorem Backed.mono {work : Work} (more : decided ⊆ decided') (backed : Backed o decided i route work) :
    Backed o decided' i route work := by
  cases backed with
  | idle => exact .idle
  | reading verify reading => exact .reading verify reading
  | approving verify verdict human => exact .approving verify (more verdict) human

theorem Unprivileged.mono (more : decided ⊆ decided')
    (unprivileged : Unprivileged o decided i route phase) :
    Unprivileged o decided' i route phase := by
  cases phase with
  | priced priced => exact Backed.mono more unprivileged
  | _ => exact unprivileged

theorem Unprivileged.resolved (resolved : Server.Resolved phase phase')
    (unprivileged : Unprivileged o decided i route phase) :
    Unprivileged o decided i route phase' := by
  cases resolved with
  | same => exact unprivileged
  | answered =>
      unfold Phase.answerApproval
      split
      · cases unprivileged with
        | reading verify reading => cases reading
        | approving verify verdict human => exact .approving verify verdict human
      · exact unprivileged

/-! ## The stream -/

/-! ## What a request can do -/

variable {s s' : Server M} {now : Nat} {random : Text} {request : Request M}

/-- The events are what a verification tells. -/
def TellsAll (o : ServerOptions M Payload) (decided : List (Nat × ResolvedPolicy × PolicyResult))
    (i : Nat) (route : Route) (effects : List Effect) : Prop :=
  ∀ event ∈ effects.filterMap Effect.event, route = .verify ∧
    ∃ engine result, (i, engine, result) ∈ decided ∧ Tells o engine result event

/-- The verdicts with those of the effects. -/
def decidedWith (decided : List (Nat × ResolvedPolicy × PolicyResult)) (i : Nat)
    (effects : List Effect) : List (Nat × ResolvedPolicy × PolicyResult) :=
  decided ++ (effects.filterMap Effect.verdict).map (Prod.mk i)

theorem subset_decidedWith {effects : List Effect} : decided ⊆ decidedWith decided i effects :=
  List.subset_append_left _ _

theorem PricedStep.tells {before : Option PricedCall} {after : PricedCall} {effects : List Effect}
    (current : s.engine = s.policy)
    (backed : ∀ priced, before = some priced → Backed o decided i request.route priced.work)
    (step : PricedStep o s now random request before after effects) :
    Backed o (decidedWith decided i effects) i request.route after.work ∧
      TellsAll o (decidedWith decided i effects) i request.route effects := by
  have silent : ∀ guard : ReplayGuard, TellsAll o (decidedWith decided i [.guard guard]) i
      request.route [.guard guard] := by
    intro guard event mem
    cases mem
  -- a request whose work has begun is a verification
  have verifies : ∀ priced, before = some priced → Reading priced.work → request.route = .verify := by
    intro priced is reading
    have was := backed priced is
    generalize priced.work = work at was reading
    cases was with
    | idle => cases reading
    | reading verify => exact verify
    | approving verify => exact verify
  cases step with
  | gated => exact ⟨.idle, silent _⟩
  | starts _ verify => exact ⟨.reading verify .gathering, silent _⟩
  | decodes => exact ⟨.idle, silent _⟩
  | fails => exact ⟨.idle, silent _⟩
  | reads reading goesOn =>
      refine ⟨.reading (verifies _ rfl reading) goesOn, ?_⟩
      intro event mem
      cases mem
  | @asks priced result paid works ready human =>
      have verify := verifies _ rfl ready.reading
      have here : (i, s.policy, result) ∈ decidedWith decided i
          [.decide s.policy result] := List.mem_append_right _ List.mem_cons_self
      rw [current]
      refine ⟨.approving verify here human, ?_⟩
      intro event mem
      refine ⟨verify, s.policy, result, here, ?_⟩
      rcases List.mem_cons.mp mem with rfl | mem
      · exact .decision
      · cases List.mem_singleton.mp mem
        exact .approval human
  | @concludes priced result call guard paid works ready nobody goesOn =>
      have verify := verifies _ rfl ready.reading
      refine ⟨.idle, ?_⟩
      intro event mem
      rw [List.filterMap_append, filterMap_publishAudit _ _ _ _ _ _ fun _ => rfl,
        List.append_nil] at mem
      cases List.mem_singleton.mp mem
      refine ⟨verify, s.policy, result, ?_, .decision⟩
      rw [current]
      exact List.mem_append_right _ List.mem_cons_self
  | timesOut waits =>
      have was := backed _ rfl
      rw [waits] at was
      cases was with
      | reading verify reading => cases reading
      | approving verify verdict human =>
          refine ⟨.approving verify (subset_decidedWith verdict) human, ?_⟩
          intro event mem
          cases mem
  | resolves works answered goesOn =>
      have was := backed _ rfl
      rw [answered] at was
      refine ⟨.idle, ?_⟩
      intro event mem
      rw [List.filterMap_append, filterMap_publishAudit _ _ _ _ _ _ fun _ => rfl,
        List.append_nil] at mem
      cases List.mem_singleton.mp mem
      cases was with
      | reading verify reading => cases reading
      | approving verify verdict human =>
          exact ⟨verify, _, _, subset_decidedWith verdict, .resolution human⟩
  | settles waits =>
      refine ⟨(backed _ rfl).mono subset_decidedWith, ?_⟩
      intro event mem
      rw [filterMap_publishAudit _ _ _ _ _ _ fun _ => rfl] at mem
      cases mem

section

variable [DecidableEq M]

theorem RequestStep.tells {token : M} {before : Option (Phase M × Answer M)} {after : Phase M}
    {effects : List Effect} (set : o.adminToken = some token) (current : s.engine = s.policy)
    (foreign : before = none → request.admin ≠ some token)
    (unprivileged : ∀ phase answer, before = some (phase, answer) →
      Unprivileged o decided i request.route phase)
    (closed : ∀ body, before = some (.readingBody, .body (.ok body)) →
      request.route = .publish → body = .null)
    (step : RequestStep o s now random request before after effects) :
    Unprivileged o (decidedWith decided i effects) i request.route after ∧
      TellsAll o (decidedWith decided i effects) i request.route effects := by
  have silent : TellsAll o (decidedWith decided i []) i request.route [] := by
    intro event mem
    cases mem
  have stored : ∀ (document : PolicyDocument) (resolved : ResolvedPolicy) (persisted : Bool)
      (verdicts : List (Nat × ResolvedPolicy × PolicyResult)),
      Unprivileged o verdicts i request.route (storePolicy o document resolved persisted) := by
    intro document resolved persisted verdicts
    unfold storePolicy
    split_ifs
    · trivial
    · trivial
  cases step with
  | fails => exact ⟨trivial, silent⟩
  | reads route waits =>
      refine ⟨?_, silent⟩
      cases after with
      | readingBody => cases waits
      | priced priced => cases waits
      | _ => trivial
  | readsOn waited waits =>
      refine ⟨?_, silent⟩
      cases after with
      | readingBody => cases waits
      | priced priced => cases waits
      | _ => trivial
  | shows => exact ⟨trivial, silent⟩
  | showsRead => exact ⟨trivial, silent⟩
  | awaitsBody _ _ _ publisher =>
      refine ⟨?_, silent⟩
      intro route
      have shown := publisher route
      rw [ServerOptions.isInternalPublisher, set] at shown
      exact foreign rfl (of_decide_eq_true shown)
  | tellsHealth => exact ⟨trivial, silent⟩
  | logsIn => exact ⟨trivial, silent⟩
  | subscribes => exact ⟨trivial, silent⟩
  | unsubscribes => exact ⟨trivial, silent⟩
  | enters route step =>
      refine step.tells current ?_
      intro priced unread
      cases unread
  | goesOn step =>
      refine step.tells current ?_
      intro priced is
      cases is
      exact unprivileged _ _ rfl
  | approves => exact ⟨trivial, silent⟩
  | publishes route posted =>
      rcases route with internal | openly
      · exact absurd internal (unprivileged _ _ rfl)
      · exact absurd (closed _ rfl openly) posted
  | patches => exact ⟨trivial, silent⟩
  | stores => exact ⟨stored _ _ _ _, silent⟩
  | writes => exact ⟨stored _ _ _ _, silent⟩
  | writeFails => exact ⟨trivial, silent⟩
  | checks => exact ⟨trivial, silent⟩

/-! ## Runs -/

variable {token : M} {e : ServerEvent M}

/-- No request with the token in `X-AgentProof-Admin` comes in. -/
def isForeign (token : M) (e : ServerEvent M) : Bool :=
  match e.happening with
  | .arrives request => request.admin ≠ some token
  | .answers _ _ => true

/-- The step publishes what was posted to `/v1/publish`: any body but `null`. -/
def publishesOpenly (s : Server M) (e : ServerEvent M) : Bool :=
  match e.happening with
  | .answers i (.body (.ok body)) =>
      match s.requests[i]? with
      | some (request, .readingBody) => request.route = .publish && !body.isNull
      | _ => false
  | _ => false

/-- The event is what a verification of this server tells. -/
def FromVerification (o : ServerOptions M Payload) (s : Server M) (i : Nat) (event : StreamEvent) :
    Prop :=
  (∃ request phase, s.requests[i]? = some (request, phase) ∧ request.route = .verify) ∧
    ∃ engine result, (i, engine, result) ∈ s.decided ∧ Tells o engine result event

/-- Everything published comes from a verification. -/
def VerificationsPublish (o : ServerOptions M Payload) (s : Server M) : Prop :=
  ∀ i event, (i, event) ∈ s.published → FromVerification o s i event

structure Guarded (o : ServerOptions M Payload) (s : Server M) : Prop where
  current : s.engine = s.policy
  unprivileged : ∀ i request phase, s.requests[i]? = some (request, phase) →
    Unprivileged o s.decided i request.route phase
  published : VerificationsPublish o s

theorem Guarded.step (guarded : Guarded o s) (set : o.adminToken = some token)
    (foreign : isForeign token e = true) (closed : publishesOpenly s e = false)
    (stepped : Server.step o s e = some s') : Guarded o s' := by
  obtain ⟨i, request, before, after, effects, moves⟩ := Server.moves_of_step stepped
  have more : s.decided ⊆ s'.decided := by
    rw [moves.decided]
    exact subset_decidedWith
  have tells : Unprivileged o s'.decided i request.route after ∧
      TellsAll o s'.decided i request.route effects := by
    rw [moves.decided]
    refine moves.step.tells set guarded.current ?_ ?_ ?_
    · intro arriving
      subst arriving
      cases moves.begins with
      | arrives event _ =>
          rw [isForeign, event] at foreign
          exact of_decide_eq_true foreign
    · intro phase answer told
      subst told
      cases moves.begins with
      | answers _ at_i => exact guarded.unprivileged i request phase at_i
    · intro body told publish
      subst told
      cases moves.begins with
      | answers event at_i =>
          rw [publishesOpenly, event] at closed
          dsimp only at closed
          rw [at_i] at closed
          simp only [publish, decide_true, Bool.true_and, Bool.not_eq_false'] at closed
          cases body with
          | null => rfl
          | _ => cases closed
  constructor
  · rw [moves.engine, moves.policy, guarded.current]
  · intro j served phase at_j
    rcases moves.stands j served phase at_j with ⟨rfl, rfl, resolved⟩ | ⟨_, earlier, at_j, resolved⟩
    · exact tells.1.resolved resolved
    · exact ((guarded.unprivileged j served earlier at_j).mono more).resolved resolved
  · intro j event mem
    rw [moves.published] at mem
    rcases List.mem_append.mp mem with old | new
    · obtain ⟨⟨served, phase, at_j, verify⟩, engine, result, verdict, told⟩ :=
        guarded.published j event old
      obtain ⟨phase', at_j'⟩ := moves.stays at_j
      exact ⟨⟨served, phase', at_j', verify⟩, engine, result, more verdict, told⟩
    · obtain ⟨event', new, same⟩ := List.mem_map.mp new
      cases same
      obtain ⟨verify, told⟩ := tells.2 event new
      obtain ⟨phase, at_i, -⟩ := moves.own
      exact ⟨⟨request, phase, at_i, verify⟩, told⟩

/-- In every run without the admin token and without a post to `/v1/publish`,
everything published comes from a verification. -/
theorem verifications_publish {policy : ResolvedPolicy} {file : Option PolicyDocument}
    {events : List (ServerEvent M)} (set : o.adminToken = some token)
    (run : Run (Server.step o)
      (fun s e => isForeign token e = true ∧ publishesOpenly s e = false)
      (Server.started policy file) events s) : VerificationsPublish o s := by
  have guarded : Guarded o s := by
    apply run.invariant
    · intro s₁ e s₂ guarded ⟨foreign, closed⟩ stepped
      exact guarded.step set foreign closed stepped
    · constructor
      · rfl
      · intro i request phase at_i
        cases at_i
      · intro i event mem
        cases mem
  exact guarded.published

/-- Anyone publishes a decision. -/
def openPost : List (ServerEvent Text) :=
  [.arrives (anonymous "POST" "/v1/publish"),
    .answers 0 (.body (.ok (.obj [("type".toList, .str "decision".toList),
      ("data".toList, .obj [("decision".toList, .str "ALLOW".toList)])])))].map happens

theorem openPost_published :
    ¬ ∀ (o : ServerOptions Text Text) (token : Text) (policy : ResolvedPolicy)
        (file : Option PolicyDocument) (events : List (ServerEvent Text)) (s : Server Text),
        o.adminToken = some token →
        Run (Server.step o) (fun _ e => isForeign token e = true) (Server.started policy file)
          events s → VerificationsPublish o s := by
  intro only
  have ran : (replay (Server.step (sampleServer none)) (fun _ e => isForeign sampleToken e = true)
      (Server.started samplePolicy none) openPost).any fun s =>
        s.decided.isEmpty && s.published.any fun published => published.1 = 0 := by
    decide +kernel
  obtain ⟨s, replayed, state⟩ := (Option.any_eq_true _ _).mp ran
  obtain ⟨nothing, published⟩ := (Bool.and_eq_true_iff).mp state
  obtain ⟨⟨i, event⟩, mem, -⟩ := List.any_eq_true.mp published
  obtain ⟨-, engine, result, verdict, -⟩ := only (sampleServer none) sampleToken samplePolicy
    none openPost s rfl (run_of_replay replayed) i event mem
  rw [List.isEmpty_iff.mp nothing] at verdict
  cases verdict

/-- A payment is verified, and a post to `/v1/internal/publish` refused. -/
def verifiedThenRefused : List (ServerEvent Text) :=
  verifyCall 0 (paymentOf 50000000) 40000000 ++
    [happens (.arrives (anonymous "POST" "/v1/internal/publish"))]

theorem verifiedThenRefused_published : ∃ s, Run (Server.step (sampleServer none))
    (fun s e => isForeign sampleToken e = true ∧ publishesOpenly s e = false)
    (Server.started samplePolicy none) verifiedThenRefused s ∧
    s.published.length = 1 ∧ VerificationsPublish (sampleServer none) s := by
  have ran : (replay (Server.step (sampleServer none))
      (fun s e => isForeign sampleToken e = true ∧ publishesOpenly s e = false)
      (Server.started samplePolicy none) verifiedThenRefused).any fun s =>
        s.published.length = 1 := by
    decide +kernel
  obtain ⟨s, replayed, state⟩ := (Option.any_eq_true _ _).mp ran
  have run := run_of_replay replayed
  exact ⟨s, run, of_decide_eq_true state, verifications_publish rfl run⟩

end

end Api

end AgentProof
