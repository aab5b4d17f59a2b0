import AgentProof.Api.PolicyPatch
import AgentProof.Api.ServerSteps

/-!
# Edits of the policy

An edit computes its document from the policy in force, waits for the policy
file, and then comes into force.  An edit that is computed while another waits
undoes it; edits that do not meet keep what each of them has set, in the policy
and in the file.
-/

namespace AgentProof

namespace Api

open Runs Sdk Js

variable {M Payload : Type} {o : ServerOptions M Payload} {s s' : Server M} {e : ServerEvent M}
  {events : List (ServerEvent M)} {i j : Nat}

/-! ## What requests have been told -/

/-- The body the request `i` is told. -/
def ServerEvent.tells (i : Nat) (e : ServerEvent M) : Option Json :=
  match e.happening with
  | .answers j (.body (.ok body)) => if j = i then some body else none
  | _ => none

def toldBody (events : List (ServerEvent M)) (i : Nat) : Option Json :=
  events.findSome? (ServerEvent.tells i)

theorem toldBody_concat : toldBody (events ++ [e]) i = (toldBody events i).or (e.tells i) := by
  rw [toldBody, List.findSome?_append, List.findSome?_singleton]
  rfl

theorem toldBody_concat_of_some {body : Json} (told : toldBody events i = some body) :
    toldBody (events ++ [e]) i = some body := by
  rw [toldBody_concat, told]
  rfl

theorem tells_of_arrives {request : Request M} (event : e.happening = .arrives request) :
    e.tells i = none := by
  rw [ServerEvent.tells, event]

theorem tells_of_body {body : Json} (event : e.happening = .answers i (.body (.ok body))) :
    e.tells i = some body := by
  rw [ServerEvent.tells, event]
  exact if_pos rfl

/-- A step tells nobody anything but the request that moves. -/
theorem tells_of_other {request : Request M} {before : Option (Phase M × Answer M)}
    (begins : Server.Begins s e i request before) (other : j ≠ i) : e.tells j = none := by
  cases begins with
  | arrives event _ => exact tells_of_arrives event
  | answers event _ =>
      rw [ServerEvent.tells, event]
      split
      · next told =>
          cases told
          exact if_neg other.symm
      · rfl

/-! ## Where an edit stands -/

/-- The edit waits for the policy file. -/
def Phase.isWriting : Phase M → Bool
  | writingPolicy _ _ => true
  | _ => false

/-- Where a request stands, as an edit, with the body it has been told and under
the policy in force. -/
inductive Editing (o : ServerOptions M Payload) (told : Option Json) (policy : ResolvedPolicy)
    (route : Route) : Phase M → Prop
  | other {phase : Phase M} (other : route ≠ .putPolicy) (unstored : phase.isStored = false)
      (unwritten : phase.isWriting = false) : Editing o told policy route phase
  | unread (edits : route = .putPolicy) (untold : told = none) :
      Editing o told policy route .readingBody
  | refused {status : Nat} {message : Text} (edits : route = .putPolicy) (bad : 400 ≤ status) :
      Editing o told policy route (.finished (.error status message))
  | writing {patch : Json} {document : PolicyDocument} {resolved : ResolvedPolicy}
      (edits : route = .putPolicy) (file : o.policyPath.isSome = true) (patches : told = some patch)
      (applied : Applied patch policy.document.policies document.policies)
      (resolves : resolvePolicy o.policyHash document = .ok resolved) :
      Editing o told policy route (.writingPolicy document resolved)
  | checking {patch : Json} {document : PolicyDocument} {persisted : Bool}
      (edits : route = .putPolicy) (patches : told = some patch) :
      Editing o told policy route (.checkingName document persisted)
  | updated {patch : Json} {view : PolicyUpdate} (edits : route = .putPolicy)
      (patches : told = some patch) :
      Editing o told policy route (.finished (.policyUpdated view))

variable {told : Option Json} {policy policy' : ResolvedPolicy} {route : Route}
  {phase phase' : Phase M}

theorem isStored_answerApproval {outcome : ApprovalOutcome} :
    (phase.answerApproval outcome).isStored = phase.isStored := by
  unfold Phase.answerApproval
  split
  · rfl
  · rfl

theorem isWriting_answerApproval {outcome : ApprovalOutcome} :
    (phase.answerApproval outcome).isWriting = phase.isWriting := by
  unfold Phase.answerApproval
  split
  · rfl
  · rfl

theorem Editing.resolved (resolved : Server.Resolved phase phase')
    (editing : Editing o told policy route phase) : Editing o told policy route phase' := by
  cases resolved with
  | same => exact editing
  | answered =>
      cases editing with
      | other other unstored unwritten =>
          refine .other other ?_ ?_
          · rw [isStored_answerApproval, unstored]
          · rw [isWriting_answerApproval, unwritten]
      | unread edits untold => exact .unread edits untold
      | refused edits bad => exact .refused edits bad
      | writing edits file patches applied resolves =>
          exact .writing edits file patches applied resolves
      | checking edits patches => exact .checking edits patches
      | updated edits patches => exact .updated edits patches

/-- Only an edit that waits minds which policy is in force. -/
theorem Editing.underPolicy (unwritten : phase.isWriting = false)
    (editing : Editing o told policy route phase) : Editing o told policy' route phase := by
  cases editing with
  | other other unstored unwritten => exact .other other unstored unwritten
  | unread edits untold => exact .unread edits untold
  | refused edits bad => exact .refused edits bad
  | writing => cases unwritten
  | checking edits patches => exact .checking edits patches
  | updated edits patches => exact .updated edits patches

theorem Editing.not_writing (file : o.policyPath.isSome = false)
    (editing : Editing o told policy route phase) : ¬ phase.isWriting = true := by
  intro writing
  cases editing with
  | other _ _ unwritten =>
      rw [unwritten] at writing
      cases writing
  | writing _ path =>
      rw [file] at path
      cases path
  | _ => cases writing

theorem Editing.told_of_stored (stored : phase.isStored = true)
    (editing : Editing o told policy route phase) : ∃ patch, told = some patch := by
  cases editing with
  | other _ unstored =>
      rw [unstored] at stored
      cases stored
  | checking _ patches => exact ⟨_, patches⟩
  | updated _ patches => exact ⟨_, patches⟩
  | _ => cases stored

/-- The body that an edit has waited for is what it is told. -/
theorem Editing.told_of_body {body : Json} (edits : route = .putPolicy)
    (event : e.happening = .answers i (.body (.ok body)))
    (editing : Editing o (toldBody events i) policy' route .readingBody) :
    toldBody (events ++ [e]) i = some body := by
  cases editing with
  | other other => exact absurd edits other
  | unread _ untold => rw [toldBody_concat, untold, tells_of_body event, Option.none_or]

/-! ## Requests in a phase -/

/-- The request `i` is in such a phase. -/
def Server.Has (s : Server M) (i : Nat) (what : Phase M → Bool) : Prop :=
  ∃ request phase, s.requests[i]? = some (request, phase) ∧ what phase = true

variable {request : Request M} {before : Option (Phase M × Answer M)} {after : Phase M}
  {effects : List Effect} {what : Phase M → Bool}

theorem has_begins (begins : Server.Begins s e i request before) :
    s.Has i what ↔ before.any (fun told => what told.1) = true := by
  cases begins with
  | arrives _ new =>
      constructor
      · rintro ⟨served, phase, at_i, -⟩
        rw [new, List.getElem?_eq_none le_rfl] at at_i
        cases at_i
      · intro none
        cases none
  | @answers phase answer _ at_i =>
      constructor
      · rintro ⟨served, phase', at_i', held⟩
        cases at_i.symm.trans at_i'
        exact held
      · intro held
        exact ⟨request, phase, at_i, held⟩

/-! ## Edits in turn -/

/-- An edit has failed although its patch was accepted. -/
def Failed (events : List (ServerEvent M)) (s : Server M) : Prop :=
  ∃ i request status message patch, s.requests[i]? = some (request, .finished (.error status message)) ∧
    request.route = .putPolicy ∧ toldBody events i = some patch

/-- The policy, and the file unless an edit has failed, have what every edit has
set that no other edit has set as well. -/
structure Consistent (o : ServerOptions M Payload) (events : List (ServerEvent M)) (s : Server M) :
    Prop where
  absent : ∀ i, s.requests[i]? = none → toldBody events i = none
  editing : ∀ i request phase, s.requests[i]? = some (request, phase) →
    Editing o (toldBody events i) s.policy request.route phase
  alone : ∀ i j, s.Has i Phase.isWriting → s.Has j Phase.isWriting → i = j
  kept : ∀ i patch, s.Has i Phase.isStored → toldBody events i = some patch →
    (∀ j patch', j ≠ i → s.Has j Phase.isStored → toldBody events j = some patch' →
      DisjointPatches patch patch') → Contains s.policy.document.policies patch
  resolves : ∀ i, s.Has i Phase.isStored →
    resolvePolicy o.policyHash s.policy.document = .ok s.policy
  file : ∀ i, s.Has i Phase.isStored → o.policyPath.isSome = true →
    s.file = some s.policy.document ∨ Failed events s

variable {patch : Json}

/-- An edit in force has been told its body, and is told no other. -/
theorem Consistent.told_of_has (consistent : Consistent o events s)
    (stored : s.Has j Phase.isStored) :
    ∃ patch, toldBody events j = some patch ∧ toldBody (events ++ [e]) j = some patch := by
  obtain ⟨request, phase, at_j, stored⟩ := stored
  obtain ⟨patch, told⟩ := (consistent.editing j request phase at_j).told_of_stored stored
  exact ⟨patch, told, toldBody_concat_of_some told⟩

/-! ## Steps -/

theorem PricedStep.stores_nothing {now : Nat} {random : Text} {before : Option PricedCall}
    {after : PricedCall} (step : PricedStep o s now random request before after effects) :
    effects.filterMap Effect.stored = [] ∧ effects.filterMap Effect.written = [] := by
  have silent : ∀ (call : GateCall Wire) (evaluated : Option (PolicyResult × Nat)),
      (publishAudit o s random call evaluated).filterMap Effect.stored = [] ∧
        (publishAudit o s random call evaluated).filterMap Effect.written = [] :=
    fun call evaluated => ⟨filterMap_publishAudit _ _ _ _ _ _ fun _ => rfl,
      filterMap_publishAudit _ _ _ _ _ _ fun _ => rfl⟩
  cases step with
  | concludes =>
      rw [List.filterMap_append, List.filterMap_append, (silent _ _).1, (silent _ _).2]
      exact ⟨rfl, rfl⟩
  | resolves =>
      rw [List.filterMap_append, List.filterMap_append, (silent _ _).1, (silent _ _).2]
      exact ⟨rfl, rfl⟩
  | settles => exact silent _ _
  | _ => exact ⟨rfl, rfl⟩

/-- No patch is accepted while another edit waits for the file. -/
def editsInTurn (o : ServerOptions M Payload) (s : Server M) (e : ServerEvent M) : Bool :=
  match e.happening with
  | .answers i (.body (.ok patch)) =>
      match s.requests[i]? with
      | some (request, .readingBody) =>
          request.route ≠ .putPolicy ||
            (applyPolicyPatch o.policyHash s.policy patch).toOption.isNone ||
              s.requests.all fun served => !served.2.isWriting
      | _ => true
  | _ => true

theorem alone_of_editsInTurn {document : PolicyDocument} {resolved : ResolvedPolicy}
    (turn : editsInTurn o s e = true) (event : e.happening = .answers i (.body (.ok patch)))
    (at_i : s.requests[i]? = some (request, .readingBody)) (edits : request.route = .putPolicy)
    (patched : applyPolicyPatch o.policyHash s.policy patch = .ok (document, resolved)) (j : Nat) :
    ¬ s.Has j Phase.isWriting := by
  rw [editsInTurn, event] at turn
  dsimp only at turn
  rw [at_i] at turn
  dsimp only at turn
  rw [patched] at turn
  simp only [edits, ne_eq, not_true_eq_false, decide_false, Bool.false_or] at turn
  rintro ⟨served, phase, at_j, writing⟩
  have idle := List.all_eq_true.mp turn _ (List.mem_of_getElem? at_j)
  rw [writing] at idle
  cases idle

theorem ne_putPolicy_of_isRead {route : Route} (read : route.isRead = true) :
    route ≠ .putPolicy := by
  intro edits
  rw [edits] at read
  cases read

theorem outside_of_isRead {phase : Phase M} (read : phase.isRead = true) :
    phase.isWriting = false ∧ phase.isStored = false := by
  cases phase with
  | readingFile => exact ⟨rfl, rfl⟩
  | readingSpend => exact ⟨rfl, rfl⟩
  | readingChain => exact ⟨rfl, rfl⟩
  | resolvingPolicy => exact ⟨rfl, rfl⟩
  | _ => cases read

theorem unstored_of_isRead {response : Response M} (read : response.isRead = true) :
    (Phase.finished response).isStored = false := by
  cases response with
  | policyUpdated => cases read
  | _ => rfl

theorem Editing.ne_putPolicy_of_isRead (editing : Editing o told policy route phase)
    (read : phase.isRead = true) : route ≠ .putPolicy := by
  cases editing with
  | other other => exact other
  | _ => cases read

/-- An edit that has come into force. -/
theorem storePolicy_stands {document : PolicyDocument} {resolved : ResolvedPolicy}
    {persisted : Bool} (edits : route = .putPolicy) (patches : told = some patch) :
    Editing o told policy route (storePolicy o document resolved persisted : Phase M) ∧
      (storePolicy o document resolved persisted : Phase M).isStored = true ∧
      (storePolicy o document resolved persisted : Phase M).isWriting = false := by
  unfold storePolicy
  split_ifs
  · exact ⟨.checking edits patches, rfl, rfl⟩
  · exact ⟨.updated edits patches, rfl, rfl⟩

section

variable [DecidableEq M]

/-- In such a phase are the request that has moved there, and those that were. -/
theorem has_iff (same : ∀ (phase : Phase M) outcome, what (phase.answerApproval outcome) = what phase)
    (moves : Server.Moves o s e s' i request before after effects) :
    s'.Has j what ↔ if j = i then what after = true else s.Has j what := by
  have stays : ∀ {phase phase' : Phase M}, Server.Resolved phase phase' →
      what phase' = what phase := by
    intro phase phase' resolved
    cases resolved with
    | same => rfl
    | answered => exact same _ _
  constructor
  · rintro ⟨served, phase, at_j, held⟩
    rcases moves.stands j served phase at_j with ⟨here, -, resolved⟩ | ⟨other, earlier, at_j, resolved⟩
    · rw [if_pos here, ← stays resolved]
      exact held
    · rw [if_neg other]
      exact ⟨served, earlier, at_j, by rw [← stays resolved]; exact held⟩
  · intro held
    split_ifs at held with here
    · obtain ⟨phase, at_i, resolved⟩ := moves.own
      rw [here]
      exact ⟨request, phase, at_i, by rw [stays resolved]; exact held⟩
    · obtain ⟨served, phase, at_j, held⟩ := held
      obtain ⟨phase', at_j', resolved⟩ := moves.others j served phase here at_j
      exact ⟨served, phase', at_j', by rw [stays resolved]; exact held⟩

/-- Everyone but the request that moves stands where it stood, as long as the
policy stays or nobody else waits to store one. -/
theorem Consistent.editing_of_moves (consistent : Consistent o events s)
    (moves : Server.Moves o s e s' i request before after effects)
    (editing : Editing o (toldBody (events ++ [e]) i) s'.policy request.route after)
    (policy : s'.policy = s.policy ∨ ∀ j, s.Has j Phase.isWriting → j = i) (j : Nat)
    (served : Request M) (phase : Phase M) (at_j : s'.requests[j]? = some (served, phase)) :
    Editing o (toldBody (events ++ [e]) j) s'.policy served.route phase := by
  rcases moves.stands j served phase at_j with ⟨rfl, rfl, resolved⟩ | ⟨other, earlier, at_j, resolved⟩
  · exact editing.resolved resolved
  · rw [toldBody_concat, tells_of_other moves.begins other, Option.or_none]
    refine Editing.resolved resolved ?_
    have was := consistent.editing j served earlier at_j
    rcases policy with same | alone
    · rw [same]
      exact was
    · refine was.underPolicy (Bool.eq_false_iff.mpr ?_)
      intro writing
      exact other (alone j ⟨served, earlier, at_j, writing⟩)

theorem Consistent.absent_of_moves (consistent : Consistent o events s)
    (moves : Server.Moves o s e s' i request before after effects) (j : Nat)
    (absent : s'.requests[j]? = none) : toldBody (events ++ [e]) j = none := by
  obtain ⟨other, before⟩ := moves.absent absent
  rw [toldBody_concat, consistent.absent j before, tells_of_other moves.begins other]
  rfl

/-- A step that brings no policy into force. -/
theorem Consistent.quiet (consistent : Consistent o events s)
    (moves : Server.Moves o s e s' i request before after effects)
    (policy : s'.policy = s.policy) (file : s'.file = s.file ∨ Failed (events ++ [e]) s')
    (failed : Failed events s → Failed (events ++ [e]) s')
    (editing : Editing o (toldBody (events ++ [e]) i) s.policy request.route after)
    (turn : after.isWriting = true → ∀ j, ¬ s.Has j Phase.isWriting)
    (same : after.isStored = true ↔ s.Has i Phase.isStored) : Consistent o (events ++ [e]) s' := by
  have stored : ∀ j, s'.Has j Phase.isStored ↔ s.Has j Phase.isStored := by
    intro j
    rw [has_iff (fun _ _ => isStored_answerApproval) moves]
    split_ifs with here
    · rw [here]
      exact same
    · rfl
  constructor
  · exact consistent.absent_of_moves moves
  · exact consistent.editing_of_moves moves (policy ▸ editing) (.inl policy)
  · intro j k first second
    rw [has_iff (fun _ _ => isWriting_answerApproval) moves] at first second
    split_ifs at first second with here there there
    · rw [here, there]
    · exact absurd second (turn first k)
    · exact absurd first (turn second j)
    · exact consistent.alone j k first second
  · intro j patch held told others
    rw [policy]
    rw [stored] at held
    obtain ⟨patch', told', told''⟩ := consistent.told_of_has held
    cases told.symm.trans told''
    refine consistent.kept j patch held told' ?_
    intro k patch' other held' toldOther
    exact others k patch' other ((stored k).mpr held') (toldBody_concat_of_some toldOther)
  · intro j held
    rw [policy]
    exact consistent.resolves j ((stored j).mp held)
  · intro j held path
    rcases file with kept | lost
    · rw [kept, policy]
      rcases consistent.file j ((stored j).mp held) path with same | lost
      · exact .inl same
      · exact .inr (failed lost)
    · exact .inr lost

/-- A step that brings the policy of an edit into force, while no other waits. -/
theorem Consistent.stored {document : PolicyDocument} {resolved : ResolvedPolicy}
    (consistent : Consistent o events s)
    (moves : Server.Moves o s e s' i request before after effects)
    (policy : s'.policy = resolved)
    (file : o.policyPath.isSome = true → s'.file = some document)
    (applied : Applied patch s.policy.document.policies document.policies)
    (resolves : resolvePolicy o.policyHash document = .ok resolved)
    (told : toldBody (events ++ [e]) i = some patch)
    (editing : Editing o (some patch) resolved request.route after)
    (stands : after.isStored = true) (idle : after.isWriting = false)
    (alone : ∀ j, s.Has j Phase.isWriting → j = i) : Consistent o (events ++ [e]) s' := by
  have is := document_of_resolvePolicy resolves
  have waiting : ∀ j, ¬ s'.Has j Phase.isWriting := by
    intro j writing
    rw [has_iff (fun _ _ => isWriting_answerApproval) moves] at writing
    split_ifs at writing with here
    · rw [idle] at writing
      cases writing
    · exact here (alone j writing)
  have stored : ∀ j, s.Has j Phase.isStored → s'.Has j Phase.isStored := by
    intro j held
    rw [has_iff (fun _ _ => isStored_answerApproval) moves]
    split_ifs
    · exact stands
    · exact held
  constructor
  · exact consistent.absent_of_moves moves
  · refine consistent.editing_of_moves moves ?_ (.inr alone)
    rw [told, policy]
    exact editing
  · intro j _ first
    exact absurd first (waiting j)
  · intro j patch' held told' others
    rw [policy, is]
    rw [has_iff (fun _ _ => isStored_answerApproval) moves] at held
    split_ifs at held with here
    · cases (here ▸ told').symm.trans told
      exact applied.contains
    · have now : s'.Has i Phase.isStored :=
        (has_iff (fun _ _ => isStored_answerApproval) moves).mpr (by rw [if_pos rfl]; exact stands)
      refine applied.keeps (others i patch (Ne.symm here) now told).symm ?_
      obtain ⟨patch'', told'', concat⟩ := consistent.told_of_has held
      cases told'.symm.trans concat
      refine consistent.kept j patch' held told'' ?_
      intro k patch'' other held' toldOther
      exact others k patch'' other (stored k held') (toldBody_concat_of_some toldOther)
  · intro _ _
    rw [policy, is]
    exact resolves
  · intro _ _ path
    rw [policy, is]
    exact .inl (file path)

theorem Failed.of_moves (moves : Server.Moves o s e s' i request before after effects)
    (failed : Failed events s) : Failed (events ++ [e]) s' := by
  obtain ⟨k, served, status, message, patch, at_k, edits, told⟩ := failed
  have other : k ≠ i := by
    intro here
    subst here
    have step := moves.step
    cases moves.begins with
    | arrives _ new =>
        rw [new, List.getElem?_eq_none le_rfl] at at_k
        cases at_k
    | answers _ at_i =>
        cases at_i.symm.trans at_k
        exact step.of_error
  obtain ⟨phase, at_k', resolved⟩ := moves.others k served _ other at_k
  cases resolved with
  | same => exact ⟨k, served, status, message, patch, at_k', edits, toldBody_concat_of_some told⟩
  | answered =>
      exact ⟨k, served, status, message, patch, at_k', edits, toldBody_concat_of_some told⟩

/-- A step after which the policy and the file are what they were. -/
theorem Consistent.untouched (consistent : Consistent o events s)
    (moves : Server.Moves o s e s' i request before after effects)
    (unstored : effects.filterMap Effect.stored = [])
    (unwritten : effects.filterMap Effect.written = [])
    (editing : Editing o (toldBody (events ++ [e]) i) s.policy request.route after)
    (turn : after.isWriting = true → ∀ j, ¬ s.Has j Phase.isWriting)
    (same : after.isStored = before.any (fun told => told.1.isStored)) :
    Consistent o (events ++ [e]) s' := by
  refine consistent.quiet moves ?_ (.inl ?_) (Failed.of_moves moves) editing turn ?_
  · rw [moves.policy, unstored]
    rfl
  · rw [moves.file, unwritten]
    rfl
  · rw [has_begins moves.begins, same]

/-- A step of a request that is no edit. -/
theorem Consistent.elsewhere (consistent : Consistent o events s)
    (moves : Server.Moves o s e s' i request before after effects)
    (other : request.route ≠ .putPolicy) (unstored : effects.filterMap Effect.stored = [])
    (unwritten : effects.filterMap Effect.written = []) (idle : after.isWriting = false)
    (outside : after.isStored = false)
    (outsideBefore : before.any (fun told => told.1.isStored) = false) :
    Consistent o (events ++ [e]) s' := by
  refine consistent.untouched moves unstored unwritten (.other other outside idle) ?_
    (outside.trans outsideBefore.symm)
  intro writing
  rw [idle] at writing
  cases writing

omit [DecidableEq M] in
/-- What a request was when it was told its answer. -/
theorem Consistent.editing_of_begins (consistent : Consistent o events s) {phase : Phase M}
    {answer : Answer M} (begins : Server.Begins s e i request (some (phase, answer))) :
    Editing o (toldBody events i) s.policy request.route phase := by
  cases begins with
  | answers _ at_i => exact consistent.editing i request phase at_i

/-! ### The steps of an edit -/

section Edit

variable {body : Json} {document : PolicyDocument} {resolved : ResolvedPolicy}

theorem Consistent.awaitsBody (consistent : Consistent o events s)
    (moves : Server.Moves o s e s' i request none .readingBody []) :
    Consistent o (events ++ [e]) s' := by
  refine consistent.untouched moves rfl rfl ?_ (fun writing => by cases writing) rfl
  cases moves.begins with
  | arrives event new =>
      have absent := consistent.absent i (by rw [new]; exact List.getElem?_eq_none le_rfl)
      by_cases edits : request.route = .putPolicy
      · refine .unread edits ?_
        rw [toldBody_concat, absent, tells_of_arrives event]
        rfl
      · exact .other edits rfl rfl

/-- The patch is accepted, and is to be written to the file. -/
theorem Consistent.patches (consistent : Consistent o events s)
    (turn : editsInTurn o s e = true)
    (moves : Server.Moves o s e s' i request (some (.readingBody, .body (.ok body)))
      (.writingPolicy document resolved) [])
    (edits : request.route = .putPolicy) (file : o.policyPath.isSome = true)
    (patched : applyPolicyPatch o.policyHash s.policy body = .ok (document, resolved)) :
    Consistent o (events ++ [e]) s' := by
  obtain ⟨applied, resolves⟩ := applied_of_applyPolicyPatch patched
  have was := consistent.editing_of_begins moves.begins
  cases moves.begins with
  | answers event at_i =>
      have patches := was.told_of_body edits event
      refine consistent.untouched moves rfl rfl (.writing edits file patches applied resolves) ?_ rfl
      intro _ j
      exact alone_of_editsInTurn turn event at_i edits patched j

/-- The patch is accepted, and there is no file. -/
theorem Consistent.stores (consistent : Consistent o events s)
    (moves : Server.Moves o s e s' i request (some (.readingBody, .body (.ok body)))
      (storePolicy o document resolved false) [.store resolved])
    (edits : request.route = .putPolicy) (file : o.policyPath.isSome = false)
    (patched : applyPolicyPatch o.policyHash s.policy body = .ok (document, resolved)) :
    Consistent o (events ++ [e]) s' := by
  obtain ⟨applied, resolves⟩ := applied_of_applyPolicyPatch patched
  have was := consistent.editing_of_begins moves.begins
  cases moves.begins with
  | answers event at_i =>
      have patches := was.told_of_body edits event
      have waiting : ∀ j, ¬ s.Has j Phase.isWriting := by
        rintro j ⟨served, phase, at_j, writing⟩
        exact (consistent.editing j served phase at_j).not_writing file writing
      obtain ⟨editing, stands, idle⟩ := storePolicy_stands edits rfl
      refine consistent.stored moves moves.policy ?_ applied resolves patches editing stands idle
        fun j writing => absurd writing (waiting j)
      intro path
      rw [file] at path
      cases path

/-- The file is written. -/
theorem Consistent.writes (consistent : Consistent o events s)
    (moves : Server.Moves o s e s' i request
      (some (.writingPolicy document resolved, .written (.ok ())))
      (storePolicy o document resolved true) [.write (some document), .store resolved]) :
    Consistent o (events ++ [e]) s' := by
  cases consistent.editing_of_begins moves.begins with
  | other _ _ unwritten => cases unwritten
  | writing edits file patches applied resolves =>
      have writing : s.Has i Phase.isWriting := (has_begins moves.begins).mpr rfl
      obtain ⟨editing, stands, idle⟩ := storePolicy_stands edits rfl
      exact consistent.stored moves moves.policy (fun _ => moves.file) applied resolves
        (toldBody_concat_of_some patches) editing stands idle
        fun j other => consistent.alone j i other writing

/-- The file cannot be written, and something else is left of it. -/
theorem Consistent.writeFails {error : JsError} {left : Option PolicyDocument}
    (consistent : Consistent o events s)
    (moves : Server.Moves o s e s' i request
      (some (.writingPolicy document resolved, .written (.error (error, left)))) (failed error)
      [.write left]) : Consistent o (events ++ [e]) s' := by
  cases consistent.editing_of_begins moves.begins with
  | other _ _ unwritten => cases unwritten
  | writing edits file patches applied resolves =>
      have lost : Failed (events ++ [e]) s' := by
        have told := toldBody_concat_of_some (e := e) patches
        obtain ⟨phase, at_i, kept⟩ := moves.own
        cases kept with
        | same => exact ⟨i, request, _, _, _, at_i, edits, told⟩
        | answered => exact ⟨i, request, _, _, _, at_i, edits, told⟩
      refine consistent.quiet moves moves.policy (.inr lost) (fun _ => lost)
        (.refused edits (le_errorStatus error)) (fun writing => by cases writing) ?_
      rw [has_begins moves.begins]
      rfl

/-- The name is looked up. -/
theorem Consistent.checks {persisted : Bool} {reply : Except JsError EnsRecords}
    (consistent : Consistent o events s)
    (moves : Server.Moves o s e s' i request
      (some (.checkingName document persisted, .ens reply))
      (nameChecked o s document persisted reply) []) : Consistent o (events ++ [e]) s' := by
  cases consistent.editing_of_begins moves.begins with
  | other _ unstored => cases unstored
  | checking edits patches =>
      exact consistent.untouched moves rfl rfl (.updated edits (toldBody_concat_of_some patches))
        (fun writing => by cases writing) rfl

end Edit

/-- Only the steps of an edit bring a policy into force; the others change nothing. -/
theorem Consistent.step (consistent : Consistent o events s) (turn : editsInTurn o s e = true)
    (stepped : Server.step o s e = some s') : Consistent o (events ++ [e]) s' := by
  obtain ⟨i, request, before, after, effects, moves⟩ := Server.moves_of_step stepped
  have was : ∀ phase answer, before = some (phase, answer) →
      Editing o (toldBody events i) s.policy request.route phase :=
    fun phase answer same => consistent.editing_of_begins (same ▸ moves.begins)
  have elsewhere := consistent.elsewhere moves
  have step := moves.step
  cases step with
  | fails bad canFail =>
      refine consistent.untouched moves rfl rfl ?_ (fun writing => by cases writing)
        (unstored_of_canFail canFail).symm
      by_cases edits : request.route = .putPolicy
      · exact .refused edits bad
      · exact .other edits rfl rfl
  | reads route waits =>
      have outside := outside_of_isRead waits
      exact elsewhere (ne_putPolicy_of_isRead route) rfl rfl outside.1 outside.2 rfl
  | readsOn waited waits =>
      have outside := outside_of_isRead waits
      have outsideBefore := outside_of_isRead waited
      exact elsewhere ((was _ _ rfl).ne_putPolicy_of_isRead waited) rfl rfl outside.1 outside.2
        outsideBefore.2
  | shows route read =>
      exact elsewhere (ne_putPolicy_of_isRead route) rfl rfl rfl (unstored_of_isRead read) rfl
  | showsRead waited read =>
      exact elsewhere ((was _ _ rfl).ne_putPolicy_of_isRead waited) rfl rfl rfl
        (unstored_of_isRead read) (outside_of_isRead waited).2
  | awaitsBody => exact consistent.awaitsBody moves
  | tellsHealth health => exact elsewhere (by rw [health]; decide) rfl rfl rfl rfl rfl
  | logsIn route => exact elsewhere (by rw [route]; decide) rfl rfl rfl rfl rfl
  | subscribes route => exact elsewhere (by rw [route]; decide) rfl rfl rfl rfl rfl
  | unsubscribes =>
      cases was _ _ rfl with
      | other other => exact elsewhere other rfl rfl rfl rfl rfl
  | enters route step =>
      obtain ⟨unstored, unwritten⟩ := step.stores_nothing
      refine elsewhere ?_ unstored unwritten rfl rfl rfl
      rcases route with route | route <;> rw [route] <;> decide
  | goesOn step =>
      obtain ⟨unstored, unwritten⟩ := step.stores_nothing
      cases was _ _ rfl with
      | other other => exact elsewhere other unstored unwritten rfl rfl rfl
  | approves route => exact elsewhere (by rw [route]; decide) rfl rfl rfl rfl rfl
  | publishes route =>
      refine elsewhere ?_ rfl rfl rfl rfl rfl
      rcases route with route | route <;> rw [route] <;> decide
  | patches edits file patched => exact consistent.patches turn moves edits file patched
  | stores edits file patched => exact consistent.stores moves edits file patched
  | writes => exact consistent.writes moves
  | writeFails => exact consistent.writeFails moves
  | checks => exact consistent.checks moves

end

/-! ## Two edits -/

/-- The request has edited the policy, and is answered 200. -/
def Edits (events : List (ServerEvent M)) (s : Server M) (i : Nat) (patch : Json) : Prop :=
  ∃ request phase response, s.requests[i]? = some (request, phase) ∧ request.route = .putPolicy ∧
    phase.response = some response ∧ response.status = 200 ∧ toldBody events i = some patch

/-- One patch is accepted after the other. -/
def accepts (o : ServerOptions M Payload) (policy : ResolvedPolicy) (first second : Json) : Bool :=
  match applyPolicyPatch o.policyHash policy first with
  | .ok (_, resolved) => (applyPolicyPatch o.policyHash resolved second).toOption.isSome
  | .error _ => false

/-- Where two edits of different fields are the only ones, the policy and the
file have the values of both. -/
def KeepsBoth (o : ServerOptions M Payload) (policy : ResolvedPolicy)
    (events : List (ServerEvent M)) (s : Server M) : Prop :=
  ∀ i j patch patch', i ≠ j → Edits events s i patch → Edits events s j patch' →
    (∀ k request phase patch'', s.requests[k]? = some (request, phase) →
      request.route = .putPolicy → toldBody events k = some patch'' → k = i ∨ k = j) →
    DisjointPatches patch patch' → accepts o policy patch patch' = true →
    accepts o policy patch' patch = true →
      Contains s.policy.document.policies patch ∧ Contains s.policy.document.policies patch' ∧
        resolvePolicy o.policyHash s.policy.document = .ok s.policy ∧
        (o.policyPath.isSome = true → ∃ document, s.file = some document ∧
          Contains document.policies patch ∧ Contains document.policies patch')

theorem Editing.stored_of_ok {response : Response M} (editing : Editing o told policy route phase)
    (edits : route = .putPolicy) (answered : phase.response = some response)
    (ok : response.status = 200) : phase.isStored = true := by
  cases editing with
  | other other => exact absurd edits other
  | refused _ bad =>
      cases answered
      exact absurd ok (by rw [Response.status]; omega)
  | updated => rfl
  | _ => cases answered

theorem Editing.edits_of_stored (editing : Editing o told policy route phase)
    (stored : phase.isStored = true) : route = .putPolicy := by
  cases editing with
  | other _ unstored =>
      rw [unstored] at stored
      cases stored
  | checking edits => exact edits
  | updated edits => exact edits
  | _ => cases stored

theorem Consistent.keepsBoth (consistent : Consistent o events s) : KeepsBoth o policy events s := by
  intro i j patch patch' different first second only disjoint _ _
  have stored : ∀ {k patch}, Edits events s k patch → s.Has k Phase.isStored := by
    rintro k patch ⟨request, phase, response, at_k, edits, answered, ok, -⟩
    exact ⟨request, phase, at_k,
      (consistent.editing k request phase at_k).stored_of_ok edits answered ok⟩
  have told : ∀ {k patch}, Edits events s k patch → toldBody events k = some patch := by
    rintro k patch ⟨request, phase, response, -, -, -, -, told⟩
    exact told
  have either : ∀ k patch'', s.Has k Phase.isStored → toldBody events k = some patch'' →
      k = i ∨ k = j := by
    rintro k patch'' ⟨request, phase, at_k, held⟩ told
    exact only k request phase patch'' at_k
      ((consistent.editing k request phase at_k).edits_of_stored held) told
  have keepsFirst : Contains s.policy.document.policies patch := by
    refine consistent.kept i patch (stored first) (told first) ?_
    intro k patch'' other held toldOther
    rcases either k patch'' held toldOther with rfl | rfl
    · exact absurd rfl other
    · cases (told second).symm.trans toldOther
      exact disjoint
  have keepsSecond : Contains s.policy.document.policies patch' := by
    refine consistent.kept j patch' (stored second) (told second) ?_
    intro k patch'' other held toldOther
    rcases either k patch'' held toldOther with rfl | rfl
    · cases (told first).symm.trans toldOther
      exact disjoint.symm
    · exact absurd rfl other
  refine ⟨keepsFirst, keepsSecond, consistent.resolves i (stored first), ?_⟩
  intro path
  rcases consistent.file i (stored first) path with same | lost
  · exact ⟨_, same, keepsFirst, keepsSecond⟩
  · -- neither of the two has failed
    obtain ⟨k, request, status, message, patch'', at_k, edits, toldOther⟩ := lost
    have held : s.Has k Phase.isStored := by
      rcases only k request _ patch'' at_k edits toldOther with rfl | rfl
      · exact stored first
      · exact stored second
    obtain ⟨request', phase', at_k', held⟩ := held
    cases at_k.symm.trans at_k'
    cases held

section

variable [DecidableEq M]

/-- In every run in which no patch is accepted while another edit waits for the
file, two edits of different fields are both kept. -/
theorem keeps_both {policy : ResolvedPolicy} {file : Option PolicyDocument}
    (run : Run (Server.step o) (fun s e => editsInTurn o s e = true) (Server.started policy file)
      events s) : KeepsBoth o policy events s := by
  have consistent : Consistent o events s := by
    apply run.history
    · constructor
      · intro i _
        rfl
      · intro i request phase at_i
        cases at_i
      · rintro i j ⟨request, phase, at_i, -⟩
        cases at_i
      · rintro i patch ⟨request, phase, at_i, -⟩
        cases at_i
      · rintro i ⟨request, phase, at_i, -⟩
        cases at_i
      · rintro i ⟨request, phase, at_i, -⟩
        cases at_i
    · intro before e s₁ s₂ _ consistent turn stepped
      exact consistent.step turn stepped
  exact consistent.keepsBoth

end

/-- The owner raises the daily limit and asks for a balance: both edits read the
policy before either is written. -/
def editsAtOnce : List (ServerEvent Text) :=
  [.arrives ownerEdit, .arrives ownerEdit,
    .answers 0 (.body (.ok (amountPatch .dailySpend "200000000"))),
    .answers 1 (.body (.ok (amountPatch .minBalance "5000000"))),
    .answers 0 (.written (.ok ())), .answers 1 (.written (.ok ()))].map happens

def sampleFile : Option Text := some "agentproof.policy.json".toList

/-- The request is an edit that is answered 200. -/
def isEdited (s : Server Text) (i : Nat) : Bool :=
  s.requests[i]?.any fun served =>
    served.1.route = .putPolicy && served.2.response.any fun response => response.status = 200

theorem edits_of_isEdited {s : Server Text} {events : List (ServerEvent Text)} {i : Nat}
    {patch : Json} (edited : isEdited s i = true) (told : toldBody events i = some patch) :
    Edits events s i patch := by
  obtain ⟨⟨request, phase⟩, at_i, edited⟩ := (Option.any_eq_true _ _).mp edited
  obtain ⟨edits, answered⟩ := Bool.and_eq_true_iff.mp edited
  obtain ⟨response, answered, ok⟩ := (Option.any_eq_true _ _).mp answered
  exact ⟨request, phase, response, at_i, of_decide_eq_true edits, answered, of_decide_eq_true ok,
    told⟩

theorem editsAtOnce_loseOne :
    ¬ ∀ (o : ServerOptions Text Text) (policy : ResolvedPolicy) (file : Option PolicyDocument)
        (events : List (ServerEvent Text)) (s : Server Text),
        Run (Server.step o) (fun _ _ => True) (Server.started policy file) events s →
          KeepsBoth o policy events s := by
  intro keeps
  have ran : (replay (Server.step (sampleServer sampleFile)) (fun _ _ => True)
      (Server.started samplePolicy none) editsAtOnce).any fun s =>
        isEdited s 0 && isEdited s 1 && s.requests.length = 2 &&
          amountOf s.policy.document.policies .dailySpend = some "150000000".toList := by
    decide +kernel
  obtain ⟨s, replayed, state⟩ := (Option.any_eq_true _ _).mp ran
  simp only [Bool.and_eq_true, decide_eq_true_eq] at state
  obtain ⟨⟨⟨first, second⟩, two⟩, lost⟩ := state
  have disjoint : DisjointPatches (amountPatch .dailySpend "200000000")
      (amountPatch .minBalance "5000000") := by
    constructor
    · intro key
      cases key with
      | dailySpend => exact .inr rfl
      | _ => exact .inl rfl
    · intro key
      cases key <;> exact .inl rfl
  obtain ⟨contains, -⟩ := keeps (sampleServer sampleFile) samplePolicy none editsAtOnce s
    (run_of_replay replayed) 0 1 _ _ (by decide) (edits_of_isEdited first rfl)
    (edits_of_isEdited second rfl) (by
      intro k request phase patch at_k _ _
      have within := (List.getElem?_eq_some_iff.mp at_k).1
      omega) disjoint (by decide +kernel) (by decide +kernel)
  have set := contains.amount .dailySpend _ rfl
  rw [lost] at set
  exact absurd set (by decide)

/-- The same, one after the other. -/
def editsInOrder : List (ServerEvent Text) :=
  [.arrives ownerEdit, .arrives ownerEdit,
    .answers 0 (.body (.ok (amountPatch .dailySpend "200000000"))),
    .answers 0 (.written (.ok ())),
    .answers 1 (.body (.ok (amountPatch .minBalance "5000000"))),
    .answers 1 (.written (.ok ()))].map happens

theorem editsInOrder_keepBoth : ∃ s, Run (Server.step (sampleServer sampleFile))
    (fun s e => editsInTurn (sampleServer sampleFile) s e = true)
    (Server.started samplePolicy none) editsInOrder s ∧
    isEdited s 0 = true ∧ isEdited s 1 = true ∧
    s.file.map (fun document => (amountOf document.policies .dailySpend,
      amountOf document.policies .minBalance)) =
        some (some "200000000".toList, some "5000000".toList) ∧
    KeepsBoth (sampleServer sampleFile) samplePolicy editsInOrder s := by
  have ran : (replay (Server.step (sampleServer sampleFile))
      (fun s e => editsInTurn (sampleServer sampleFile) s e = true)
      (Server.started samplePolicy none) editsInOrder).any fun s =>
        isEdited s 0 ∧ isEdited s 1 ∧
        s.file.map (fun document => (amountOf document.policies .dailySpend,
          amountOf document.policies .minBalance)) =
            some (some "200000000".toList, some "5000000".toList) := by
    decide +kernel
  obtain ⟨s, replayed, state⟩ := (Option.any_eq_true _ _).mp ran
  obtain ⟨first, second, file⟩ := of_decide_eq_true state
  have run := run_of_replay replayed
  exact ⟨s, run, first, second, file, keeps_both run⟩

end Api

end AgentProof
