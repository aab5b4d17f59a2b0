import AgentProof.Api.ServerSteps
import AgentProof.Lib.Knowledge

/-!
# Who gets a dashboard session

The session cookie is a public function of the fingerprint of the admin token,
and `/health` tells the fingerprint to everyone.  A client that never asks for
`/health` hears nothing that depends on the token, and gets no session.

Here the token and its digest are what the client does not know: a text is a
message, which says what it is in each world.  The digest of any other text is
public.
-/

namespace AgentProof

namespace Api

open Knowledge Runs Sdk Js

/-! ## Worlds -/

/-- What a client does not know. -/
structure World where
  token : Text
  configured : token ≠ []
  digest : Text

def Message : Type := World → Text

noncomputable instance : DecidableEq Message := Classical.decEq Message

/-- The operations on texts in every world; `sha256` is the digest of whatever is
not the token. -/
def secretTexts (sha256 : Text → Text) : Texts Message where
  ofText text := fun _ => text
  append m n := fun w => m w ++ n w
  take n m := fun w => (m w).take n
  sha256 m := fun w => if m w = w.token then w.digest else sha256 (m w)
  base64url m := fun w => Base64.encodeUrl ((m w).map Char.toNat)

/-- Two worlds with the same token, but another digest of it. -/
def zeroWorld : World := ⟨sampleToken, by decide, "0".toList⟩

def oneWorld : World := ⟨sampleToken, by decide, "1".toList⟩

/-- The session depends on the digest. -/
theorem sessionValue_differs (sha256 : Text → Text) :
    sessionValue (secretTexts sha256) World.token zeroWorld ≠
      sessionValue (secretTexts sha256) World.token oneWorld := by
  have value : ∀ w : World, sessionValue (secretTexts sha256) World.token w =
      Base64.encodeUrl (("v1:".toList ++ w.digest.take 12).map Char.toNat) := by
    intro w
    have digest : (secretTexts sha256).sha256 World.token w = w.digest := if_pos rfl
    show Base64.encodeUrl (("v1:".toList ++
      ((secretTexts sha256).sha256 World.token w).take 12).map Char.toNat) = _
    rw [digest]
  rw [value, value]
  decide

/-! ## Clients -/

section

variable {M Payload : Type} {o : ServerOptions M Payload} {s s' : Server M} {e : ServerEvent M}

/-- What a response tells of the texts that are not public. -/
def Response.reveals : Response M → List M
  | health view => view.adminTokenFingerprint.toList
  | loggedIn cookie => [cookie]
  | _ => []

/-- What the responses so far have told. -/
def Server.heard (s : Server M) : Set M :=
  { m | ∃ (i : Nat) (request : Request M) (phase : Phase M) (response : Response M),
    s.requests[i]? = some (request, phase) ∧ phase.response = some response ∧
      m ∈ response.reveals }

/-- No request asks for `/health`. -/
def asksNoHealth (e : ServerEvent M) : Bool :=
  match e.happening with
  | .arrives request => request.route ≠ .health
  | .answers _ _ => true

/-- No request has a session, and those that need one are turned away. -/
def NoSessions [DecidableEq M] (o : ServerOptions M Payload) (s : Server M) : Prop :=
  ∀ (i : Nat) (request : Request M) (phase : Phase M), s.requests[i]? = some (request, phase) →
    o.hasDashboardSession request = false ∧
      (request.route.needsSession = true →
        ∃ status message, phase = .finished (.error status message) ∧ 400 ≤ status)

/-! ### Silent requests -/

/-- What a request tells, if it is answered. -/
def Phase.reveals (phase : Phase M) : List M :=
  match phase.response with
  | some response => response.reveals
  | none => []

theorem reveals_priced (priced : PricedCall) : (Phase.priced priced : Phase M).reveals = [] := by
  obtain ⟨call, body, work, evaluated⟩ := priced
  cases call with
  | finished claimed reply =>
      cases reply with
      | _ => rfl
  | _ => rfl

theorem reveals_of_isRead {phase : Phase M} (read : phase.isRead = true) : phase.reveals = [] := by
  cases phase with
  | finished response => cases read
  | priced priced => cases read
  | _ => rfl

theorem reveals_of_response_isRead {response : Response M} (read : response.isRead = true) :
    response.reveals = [] := by
  cases response with
  | health => cases read
  | loggedIn => cases read
  | _ => rfl

theorem reveals_storePolicy {document : PolicyDocument} {resolved : ResolvedPolicy}
    {persisted : Bool} :
    (storePolicy o document resolved persisted : Phase M).reveals = [] := by
  unfold storePolicy
  split_ifs
  · rfl
  · rfl

theorem reveals_resolved {phase phase' : Phase M} (resolved : Server.Resolved phase phase') :
    phase'.reveals = phase.reveals := by
  cases resolved with
  | same => rfl
  | answered =>
      unfold Phase.answerApproval
      split
      · rw [reveals_priced, reveals_priced]
      · rfl

variable {now : Nat} {random : Text} {request : Request M} {before : Option (Phase M × Answer M)}
  {after : Phase M} {effects : List Effect}

/-- Only `/health` and a login with the token tell anything. -/
theorem RequestStep.silent [DecidableEq M] (quiet : before = none → request.route ≠ .health)
    (strange : ∀ phase m, before = some (phase, .token (.ok (some m))) → o.adminToken ≠ some m)
    (step : RequestStep o s now random request before after effects) : after.reveals = [] := by
  cases step with
  | reads _ waits => exact reveals_of_isRead waits
  | readsOn _ waits => exact reveals_of_isRead waits
  | shows _ read => exact reveals_of_response_isRead read
  | showsRead _ read => exact reveals_of_response_isRead read
  | tellsHealth health => exact absurd health (quiet rfl)
  | logsIn _ set => exact absurd set (strange _ _ rfl)
  | enters => exact reveals_priced _
  | goesOn => exact reveals_priced _
  | stores => exact reveals_storePolicy
  | writes => exact reveals_storePolicy
  | _ => rfl

theorem not_needsSession_of_isRead {route : Route} (read : route.isRead = true) :
    ¬ route.needsSession = true := by
  intro needs
  cases route with
  | approve => cases read
  | putPolicy => cases read
  | stream => cases read
  | _ => cases needs

/-- A request without a session that needs one is turned away on arrival. -/
theorem RequestStep.turnedAway [DecidableEq M] (stranger : o.hasDashboardSession request = false)
    (needs : request.route.needsSession = true)
    (was : ∀ phase answer, before = some (phase, answer) →
      ∃ status message, phase = .finished (.error status message))
    (step : RequestStep o s now random request before after effects) :
    ∃ status message, after = .finished (.error status message) ∧ 400 ≤ status := by
  cases before with
  | none =>
      cases step with
      | fails bad => exact ⟨_, _, rfl, bad⟩
      | reads route => exact absurd needs (not_needsSession_of_isRead route)
      | shows route => exact absurd needs (not_needsSession_of_isRead route)
      | awaitsBody _ _ session =>
          rw [session needs] at stranger
          cases stranger
      | tellsHealth health =>
          rw [health] at needs
          cases needs
      | subscribes _ session =>
          rw [session] at stranger
          cases stranger
  | some told =>
      obtain ⟨phase, answer⟩ := told
      obtain ⟨status, message, rfl⟩ := was phase answer rfl
      exact step.of_error.elim

end

/-- A step of a client that never sends the token, and makes up what it shows of
itself from what it has heard. -/
structure Plays (s : Server Message) (e : ServerEvent Message) : Prop where
  session : ∀ request m, e.happening = .arrives request → request.session = some m →
    Knows s.heard m
  admin : ∀ request m, e.happening = .arrives request → request.admin = some m →
    Knows s.heard m ∧ m ≠ World.token
  login : ∀ i m, e.happening = .answers i (.token (.ok (some m))) →
    Knows s.heard m ∧ m ≠ World.token

/-! ## Runs -/

variable {Payload : Type} {o : ServerOptions Message Payload} {s s' : Server Message}
  {e : ServerEvent Message} {sha256 : Text → Text}

/-- Nothing was told, and nobody has a session. -/
structure Closed (o : ServerOptions Message Payload) (s : Server Message) : Prop where
  silent : ∀ (i : Nat) (request : Request Message) (phase : Phase Message),
    s.requests[i]? = some (request, phase) → phase.reveals = []
  sessions : NoSessions o s

theorem Closed.heard (closed : Closed o s) {m : Message} : m ∉ s.heard := by
  rintro ⟨i, request, phase, response, at_i, answered, mem⟩
  have silent := closed.silent i request phase at_i
  rw [Phase.reveals, answered] at silent
  rw [show response.reveals = [] from silent] at mem
  cases mem

/-- What is known before anything was told is not the session. -/
theorem Closed.stranger (closed : Closed o s) (texts : o.texts = secretTexts sha256)
    (set : o.adminToken = some World.token) {request : Request Message}
    (known : ∀ m, request.session = some m → Knows s.heard m) :
    o.hasDashboardSession request = false := by
  rw [ServerOptions.hasDashboardSession, set, texts]
  apply decide_eq_false
  intro shown
  exact sessionValue_differs sha256 ((known _ shown).agree fun m mem => absurd mem closed.heard)

theorem Closed.step (closed : Closed o s) (texts : o.texts = secretTexts sha256)
    (set : o.adminToken = some World.token) (plays : Plays s e) (quiet : asksNoHealth e = true)
    (stepped : Server.step o s e = some s') : Closed o s' := by
  obtain ⟨i, request, before, after, effects, moves⟩ := Server.moves_of_step stepped
  have silent : after.reveals = [] := by
    refine moves.step.silent ?_ ?_
    · intro arriving
      subst arriving
      cases moves.begins with
      | arrives event _ =>
          rw [asksNoHealth, event] at quiet
          exact of_decide_eq_true quiet
    · intro phase m told same
      subst told
      cases moves.begins with
      | answers event _ =>
          rw [set] at same
          exact (plays.login i m event).2 (Option.some.inj same).symm
  have stranger : o.hasDashboardSession request = false := by
    cases moves.begins with
    | arrives event _ =>
        exact closed.stranger texts set fun m shown => plays.session request m event shown
    | answers _ at_i => exact (closed.sessions i request _ at_i).1
  constructor
  · intro j served phase at_j
    rcases moves.stands j served phase at_j with ⟨-, -, resolved⟩ | ⟨-, earlier, at_j, resolved⟩
    · rw [reveals_resolved resolved, silent]
    · rw [reveals_resolved resolved, closed.silent j served earlier at_j]
  · intro j served phase at_j
    rcases moves.stands j served phase at_j with ⟨-, rfl, resolved⟩ | ⟨-, earlier, at_j, resolved⟩
    · refine ⟨stranger, ?_⟩
      intro needs
      have turned := moves.step.turnedAway stranger needs (by
        intro phase answer told
        subst told
        cases moves.begins with
        | answers _ at_i =>
            obtain ⟨status, message, same, -⟩ := (closed.sessions i served phase at_i).2 needs
            exact ⟨status, message, same⟩)
      obtain ⟨status, message, rfl, bad⟩ := turned
      cases resolved with
      | same => exact ⟨status, message, rfl, bad⟩
      | answered => exact ⟨status, message, rfl, bad⟩
    · obtain ⟨stranger, turnedAway⟩ := closed.sessions j served earlier at_j
      refine ⟨stranger, ?_⟩
      intro needs
      obtain ⟨status, message, rfl, bad⟩ := turnedAway needs
      cases resolved with
      | same => exact ⟨status, message, rfl, bad⟩
      | answered => exact ⟨status, message, rfl, bad⟩

/-- In every run of a client that does not ask for `/health`, no request has a
session. -/
theorem no_sessions {policy : ResolvedPolicy} {file : Option PolicyDocument}
    {events : List (ServerEvent Message)} (texts : o.texts = secretTexts sha256)
    (set : o.adminToken = some World.token)
    (run : Run (Server.step o) (fun s e => Plays s e ∧ asksNoHealth e = true)
      (Server.started policy file) events s) : NoSessions o s := by
  have closed : Closed o s := by
    apply run.invariant
    · intro s₁ e s₂ closed ⟨plays, quiet⟩ stepped
      exact closed.step texts set plays quiet stepped
    · constructor
      · intro i request phase at_i
        cases at_i
      · intro i request phase at_i
        cases at_i
  exact closed.sessions

/-! ## Two clients -/

def secretServer : ServerOptions Message Text := serverWith (secretTexts id) World.token none

def healthRequest : Request Message := anonymous "GET" "/health"

/-- A subscription with a session to show. -/
def streamWith (session : Message) : Request Message :=
  { (anonymous "GET" "/v1/stream" : Request Message) with session := some session }

theorem plays_of_arrives {s : Server Message} {request : Request Message}
    (session : ∀ m, request.session = some m → Knows s.heard m) (admin : request.admin = none) :
    Plays s (happens (.arrives request)) := by
  constructor
  · intro request' m event shown
    cases event
    exact session m shown
  · intro request' m event shown
    cases event
    rw [admin] at shown
    cases shown
  · intro i m event
    cases event

/-- The session value is made up from the fingerprint. -/
theorem knows_sessionValue {heard : Set Message}
    (told : tokenFingerprint (secretTexts id) World.token ∈ heard) :
    Knows heard (sessionValue (secretTexts id) World.token) := by
  refine Knows.apply (fun texts => Base64.encodeUrl (("v1:".toList ++ texts.headD []).map Char.toNat))
    [tokenFingerprint (secretTexts id) World.token] ?_
  intro m mem
  cases List.mem_singleton.mp mem
  exact .heard told

/-- The server once the request has come in. -/
noncomputable def received (s : Server Message) (request : Request Message) : Server Message :=
  (s.receive request (arrive secretServer s 0 request).1).applyAll s.requests.length
    (arrive secretServer s 0 request).2

theorem step_arrives (s : Server Message) (request : Request Message) :
    Server.step secretServer s (happens (.arrives request)) = some (received s request) := rfl

/-- `/health` tells the fingerprint. -/
theorem heard_health (s : Server Message) :
    tokenFingerprint (secretTexts id) World.token ∈ (received s healthRequest).heard := by
  have route : healthRequest.route = .health := by decide
  have arrives : arrive secretServer s 0 healthRequest =
      (.finished (.health (healthView secretServer s healthRequest)), []) := by
    unfold arrive
    rw [route]
  rw [received, arrives]
  exact ⟨s.requests.length, healthRequest, _, _, List.getElem?_concat_length, rfl,
    List.mem_singleton_self _⟩

theorem received_has (s : Server Message) (request : Request Message) :
    ∃ (i : Nat) (phase : Phase Message),
      (received s request).requests[i]? = some (request, phase) := by
  have there : (s.receive request (arrive secretServer s 0 request).1).requests[s.requests.length]? =
      some (request, (arrive secretServer s 0 request).1) := List.getElem?_concat_length
  obtain ⟨phase, at_i, -⟩ := Server.keepsRequests_applyAll.phase _ _ _ there
  exact ⟨_, phase, at_i⟩

/-- A client asks for `/health`, and subscribes with the cookie it makes up. -/
theorem madeUp_accepted :
    ¬ ∀ (o : ServerOptions Message Text) (sha256 : Text → Text) (policy : ResolvedPolicy)
        (file : Option PolicyDocument) (events : List (ServerEvent Message)) (s : Server Message),
        o.texts = secretTexts sha256 → o.adminToken = some World.token →
        Run (Server.step o) Plays (Server.started policy file) events s → NoSessions o s := by
  intro closed
  let session := sessionValue (secretTexts id) World.token
  let told := received (Server.started samplePolicy none) healthRequest
  have asks : Plays (Server.started samplePolicy none) (happens (.arrives healthRequest)) := by
    refine plays_of_arrives ?_ rfl
    intro m shown
    cases shown
  have subscribes : Plays told (happens (.arrives (streamWith session))) := by
    refine plays_of_arrives ?_ rfl
    intro m shown
    cases shown
    exact knows_sessionValue (heard_health _)
  have run : Run (Server.step secretServer) Plays (Server.started samplePolicy none)
      [happens (.arrives healthRequest), happens (.arrives (streamWith session))]
      (received told (streamWith session)) :=
    .cons asks (step_arrives _ _) (.cons subscribes (step_arrives _ _) .nil)
  obtain ⟨i, phase, at_i⟩ := received_has told (streamWith session)
  have accepted : secretServer.hasDashboardSession (streamWith session) = true := decide_eq_true rfl
  have refused := (closed secretServer id samplePolicy none _ _ rfl rfl run i _ phase at_i).1
  rw [accepted] at refused
  cases refused

/-- Another client guesses a cookie. -/
theorem guessed_refused : ∃ s, Run (Server.step secretServer)
    (fun s e => Plays s e ∧ asksNoHealth e = true) (Server.started samplePolicy none)
    [happens (.arrives (streamWith fun _ => "djE6Z3Vlc3M".toList))] s ∧
      NoSessions secretServer s := by
  have guesses : Plays (Server.started samplePolicy none)
      (happens (.arrives (streamWith fun _ => "djE6Z3Vlc3M".toList))) := by
    refine plays_of_arrives ?_ rfl
    intro m shown
    cases shown
    exact .text _
  have run : Run (Server.step secretServer) (fun s e => Plays s e ∧ asksNoHealth e = true)
      (Server.started samplePolicy none)
      [happens (.arrives (streamWith fun _ => "djE6Z3Vlc3M".toList))]
      (received (Server.started samplePolicy none) (streamWith fun _ => "djE6Z3Vlc3M".toList)) :=
    .cons ⟨guesses, by decide⟩ (step_arrives _ _) .nil
  exact ⟨_, run, no_sessions rfl rfl run⟩

end Api

end AgentProof
