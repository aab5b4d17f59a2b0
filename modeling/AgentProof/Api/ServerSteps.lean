import AgentProof.Api.RequestSteps
import AgentProof.Lib.Runs

/-!
# What a step of the server changes

The effects of a request, by the part of the server each of them reaches, and a
step as a request's step with its effects.
-/

namespace AgentProof

namespace Api

open Sdk

variable {M Payload : Type}

/-! ## Effects -/

def Effect.event : Effect → Option StreamEvent
  | publish event => some event
  | _ => none

def Effect.verdict : Effect → Option (ResolvedPolicy × PolicyResult)
  | decide engine result => some (engine, result)
  | _ => none

def Effect.audit : Effect → Option PublicAuditRecord
  | record made => some made
  | _ => none

def Effect.stored : Effect → Option ResolvedPolicy
  | store policy => some policy
  | _ => none

def Effect.written : Effect → Option (Option PolicyDocument)
  | write document => some document
  | _ => none

/-- The audit is nothing but its record. -/
theorem filterMap_publishAudit {α : Type} (o : ServerOptions M Payload) (s : Server M)
    (random : Text) (call : GateCall Wire) (evaluated : Option (PolicyResult × Nat))
    (f : Effect → Option α) (silent : ∀ record, f (.record record) = none) :
    (publishAudit o s random call evaluated).filterMap f = [] := by
  unfold publishAudit
  split
  · split_ifs
    · rw [List.filterMap_cons, silent]
      rfl
    · rfl
  · rfl

/-- What becomes of a value that is only ever overwritten. -/
def overwritten {α : Type} (value : α) (values : List α) : α := values.getLastD value

/-! ## Logs -/

/-- What a log has of one request. -/
def entriesOf {α : Type} (log : List (Nat × α)) (i : Nat) : List α :=
  log.filterMap fun entry => if entry.1 = i then some entry.2 else none

section

variable {α : Type} {log : List (Nat × α)} {added : List α} {i j : Nat}

theorem entriesOf_append_self :
    entriesOf (log ++ added.map (Prod.mk i)) i = entriesOf log i ++ added := by
  rw [entriesOf, List.filterMap_append, List.filterMap_map]
  congr 1
  calc added.filterMap ((fun entry => if entry.1 = i then some entry.2 else none) ∘ Prod.mk i)
      = added.filterMap some := List.filterMap_congr fun _ _ => if_pos rfl
    _ = added := List.filterMap_some

theorem entriesOf_append_other (other : j ≠ i) :
    entriesOf (log ++ added.map (Prod.mk i)) j = entriesOf log j := by
  rw [entriesOf, List.filterMap_append, List.filterMap_map]
  have none : added.filterMap
      ((fun entry => if entry.1 = j then some entry.2 else Option.none) ∘ Prod.mk i) = [] := by
    apply List.filterMap_eq_nil_iff.mpr
    intro a _
    exact if_neg other.symm
  rw [none, List.append_nil]
  rfl

end

namespace Server

variable {i j : Nat} {t : Server M} {effect : Effect} {effects : List Effect}

theorem published_apply : (apply i t effect).published =
    t.published ++ ([effect].filterMap Effect.event).map (Prod.mk i) := by
  cases effect with
  | settle id outcome =>
      rw [apply]
      split <;> simp [Effect.event]
  | _ => simp [apply, Effect.event]

theorem decided_apply : (apply i t effect).decided =
    t.decided ++ ([effect].filterMap Effect.verdict).map (Prod.mk i) := by
  cases effect with
  | settle id outcome =>
      rw [apply]
      split <;> simp [Effect.verdict]
  | _ => simp [apply, Effect.verdict]

theorem audited_apply : (apply i t effect).audited =
    t.audited ++ ([effect].filterMap Effect.audit).map (Prod.mk i) := by
  cases effect with
  | settle id outcome =>
      rw [apply]
      split <;> simp [Effect.audit]
  | _ => simp [apply, Effect.audit]

theorem policy_apply : (apply i t effect).policy =
    overwritten t.policy ([effect].filterMap Effect.stored) := by
  cases effect with
  | settle id outcome =>
      rw [apply]
      split <;> rfl
  | _ => rfl

theorem engine_apply : (apply i t effect).engine =
    overwritten t.engine ([effect].filterMap Effect.stored) := by
  cases effect with
  | settle id outcome =>
      rw [apply]
      split <;> rfl
  | _ => rfl

theorem file_apply : (apply i t effect).file =
    overwritten t.file ([effect].filterMap Effect.written) := by
  cases effect with
  | settle id outcome =>
      rw [apply]
      split <;> rfl
  | _ => rfl

theorem applyAll_cons : applyAll i t (effect :: effects) = applyAll i (apply i t effect) effects :=
  rfl

theorem filterMap_cons_eq {α β : Type} (f : α → Option β) (a : α) (as : List α) :
    (a :: as).filterMap f = [a].filterMap f ++ as.filterMap f := by
  rw [← List.singleton_append, List.filterMap_append]

/-- A log grows by what the effects add to it. -/
theorem applyAll_log {α : Type} (log : Server M → List (Nat × α)) (added : Effect → Option α)
    (one : ∀ (t : Server M) effect, log (apply i t effect) =
      log t ++ ([effect].filterMap added).map (Prod.mk i)) (t : Server M) (effects : List Effect) :
    log (applyAll i t effects) = log t ++ (effects.filterMap added).map (Prod.mk i) := by
  induction effects generalizing t with
  | nil => simp [applyAll]
  | cons effect rest ih =>
      rw [applyAll_cons, ih, one, filterMap_cons_eq added effect rest, List.map_append,
        List.append_assoc]

theorem overwritten_append {α : Type} (value : α) (first second : List α) :
    overwritten value (first ++ second) = overwritten (overwritten value first) second := by
  rcases second.eq_nil_or_concat with rfl | ⟨rest, last, rfl⟩
  · rw [List.append_nil]
    rfl
  · rw [List.concat_eq_append, ← List.append_assoc]
    simp [overwritten]

/-- A value is what the effects last made it. -/
theorem applyAll_value {α : Type} (value : Server M → α) (set : Effect → Option α)
    (one : ∀ (t : Server M) effect, value (apply i t effect) =
      overwritten (value t) ([effect].filterMap set)) (t : Server M) (effects : List Effect) :
    value (applyAll i t effects) = overwritten (value t) (effects.filterMap set) := by
  induction effects generalizing t with
  | nil => rfl
  | cons effect rest ih =>
      rw [applyAll_cons, ih, one, filterMap_cons_eq set effect rest, overwritten_append]

theorem published_applyAll : (applyAll i t effects).published =
    t.published ++ (effects.filterMap Effect.event).map (Prod.mk i) :=
  applyAll_log published Effect.event (fun _ _ => published_apply) t effects

theorem decided_applyAll : (applyAll i t effects).decided =
    t.decided ++ (effects.filterMap Effect.verdict).map (Prod.mk i) :=
  applyAll_log decided Effect.verdict (fun _ _ => decided_apply) t effects

theorem audited_applyAll : (applyAll i t effects).audited =
    t.audited ++ (effects.filterMap Effect.audit).map (Prod.mk i) :=
  applyAll_log audited Effect.audit (fun _ _ => audited_apply) t effects

theorem policy_applyAll : (applyAll i t effects).policy =
    overwritten t.policy (effects.filterMap Effect.stored) :=
  applyAll_value policy Effect.stored (fun _ _ => policy_apply) t effects

theorem engine_applyAll : (applyAll i t effects).engine =
    overwritten t.engine (effects.filterMap Effect.stored) :=
  applyAll_value engine Effect.stored (fun _ _ => engine_apply) t effects

theorem file_applyAll : (applyAll i t effects).file =
    overwritten t.file (effects.filterMap Effect.written) :=
  applyAll_value file Effect.written (fun _ _ => file_apply) t effects

/-! ### Requests -/

/-- Effects do nothing to a request but answer its approval. -/
inductive Resolved (phase : Phase M) : Phase M → Prop
  | same : Resolved phase phase
  | answered {outcome : ApprovalOutcome} : Resolved phase (phase.answerApproval outcome)

theorem answerApproval_answerApproval {phase : Phase M} {first second : ApprovalOutcome} :
    (phase.answerApproval first).answerApproval second = phase.answerApproval first := by
  cases phase with
  | priced call =>
      obtain ⟨gateCall, body, work, evaluated⟩ := call
      cases work with
      | approving verdict id outcome =>
          cases outcome with
          | none => rfl
          | some answered => rfl
      | _ => rfl
  | _ => rfl

theorem Resolved.trans {first second third : Phase M} (one : Resolved first second)
    (two : Resolved second third) : Resolved first third := by
  cases two with
  | same => exact one
  | answered =>
      cases one with
      | same => exact .answered
      | answered =>
          rw [answerApproval_answerApproval]
          exact .answered

/-- Every request stays where it is, up to its approval. -/
structure KeepsRequests (t u : Server M) : Prop where
  length : u.requests.length = t.requests.length
  phase : ∀ (j : Nat) (request : Request M) (phase : Phase M),
    t.requests[j]? = some (request, phase) →
      ∃ phase', u.requests[j]? = some (request, phase') ∧ Resolved phase phase'

theorem KeepsRequests.refl : KeepsRequests t t :=
  ⟨rfl, fun _ _ phase at_j => ⟨phase, at_j, .same⟩⟩

theorem KeepsRequests.trans {t u v : Server M} (one : KeepsRequests t u)
    (two : KeepsRequests u v) : KeepsRequests t v := by
  refine ⟨two.length.trans one.length, ?_⟩
  intro j request phase at_j
  obtain ⟨phase', at_j', first⟩ := one.phase j request phase at_j
  obtain ⟨phase'', at_j'', second⟩ := two.phase j request phase' at_j'
  exact ⟨phase'', at_j'', first.trans second⟩

/-- Backwards: whatever stands somewhere stood there, up to its approval. -/
theorem KeepsRequests.from {t u : Server M} (kept : KeepsRequests t u) {request : Request M}
    {phase' : Phase M} (at_j : u.requests[j]? = some (request, phase')) :
    ∃ phase, t.requests[j]? = some (request, phase) ∧ Resolved phase phase' := by
  have within : j < t.requests.length := by
    rw [← kept.length]
    exact (List.getElem?_eq_some_iff.mp at_j).1
  obtain ⟨⟨request', phase⟩, at_t⟩ : ∃ served, t.requests[j]? = some served :=
    ⟨_, List.getElem?_eq_getElem within⟩
  obtain ⟨phase'', at_u, resolved⟩ := kept.phase j request' phase at_t
  rw [at_j] at at_u
  cases at_u
  exact ⟨phase, at_t, resolved⟩

theorem keepsRequests_apply : KeepsRequests t (apply i t effect) := by
  cases effect with
  | settle id outcome =>
      rw [apply]
      split
      · next k _ =>
          refine ⟨List.length_modify _ _ _, ?_⟩
          intro j request phase at_j
          dsimp only
          rw [List.getElem?_modify, at_j, Option.map_eq_map, Option.map_some]
          by_cases here : k = j
          · rw [if_pos here]
            exact ⟨_, rfl, .answered⟩
          · rw [if_neg here]
            exact ⟨_, rfl, .same⟩
      · exact .refl
  | _ => exact ⟨rfl, fun _ _ phase at_j => ⟨phase, at_j, .same⟩⟩

theorem keepsRequests_applyAll : KeepsRequests t (applyAll i t effects) := by
  induction effects generalizing t with
  | nil => exact .refl
  | cons effect rest ih => exact keepsRequests_apply.trans ih

/-- The requests before the effects: the one that moves is where the step has put it. -/
theorem stands_of_keeps {i : Nat} {request : Request M} {after : Phase M} {s t u : Server M}
    (kept : KeepsRequests t u) (own : t.requests[i]? = some (request, after))
    (others : ∀ j, j ≠ i → t.requests[j]? = s.requests[j]?) :
    (∃ phase, u.requests[i]? = some (request, phase) ∧ Resolved after phase) ∧
      (∀ (j : Nat) (other : Request M) (phase : Phase M), j ≠ i →
        s.requests[j]? = some (other, phase) →
          ∃ phase', u.requests[j]? = some (other, phase') ∧ Resolved phase phase') ∧
      ∀ (j : Nat) (served : Request M) (phase : Phase M),
        u.requests[j]? = some (served, phase) →
          (j = i ∧ served = request ∧ Resolved after phase) ∨
            (j ≠ i ∧ ∃ earlier, s.requests[j]? = some (served, earlier) ∧
              Resolved earlier phase) := by
  refine ⟨kept.phase i request after own, ?_, ?_⟩
  · intro j other phase elsewhere at_j
    rw [← others j elsewhere] at at_j
    exact kept.phase j other phase at_j
  · intro j served phase at_j
    obtain ⟨earlier, at_t, resolved⟩ := kept.from at_j
    by_cases here : j = i
    · subst here
      rw [own] at at_t
      cases at_t
      exact .inl ⟨rfl, rfl, resolved⟩
    · rw [others j here] at at_t
      exact .inr ⟨here, earlier, at_t, resolved⟩

end Server

/-! ## Steps of the server -/

section

variable [DecidableEq M] {o : ServerOptions M Payload} {s s' : Server M} {e : ServerEvent M}

namespace Server

/-- Where a step begins: a request comes in, or is told what it waits for. -/
inductive Begins (s : Server M) (e : ServerEvent M) (i : Nat) (request : Request M) :
    Option (Phase M × Answer M) → Prop
  | arrives (event : e.happening = .arrives request) (new : i = s.requests.length) :
      Begins s e i request none
  | answers {before : Phase M} {answer : Answer M} (event : e.happening = .answers i answer)
      (at_i : s.requests[i]? = some (request, before)) :
      Begins s e i request (some (before, answer))

/-- A step of the server: the request `i` goes on, with its effects. -/
structure Moves (o : ServerOptions M Payload) (s : Server M) (e : ServerEvent M) (s' : Server M)
    (i : Nat) (request : Request M) (before : Option (Phase M × Answer M)) (after : Phase M)
    (effects : List Effect) : Prop where
  begins : Begins s e i request before
  step : RequestStep o s e.now e.random request before after effects
  own : ∃ phase, s'.requests[i]? = some (request, phase) ∧ Resolved after phase
  others : ∀ (j : Nat) (other : Request M) (phase : Phase M), j ≠ i →
    s.requests[j]? = some (other, phase) →
      ∃ phase', s'.requests[j]? = some (other, phase') ∧ Resolved phase phase'
  stands : ∀ (j : Nat) (served : Request M) (phase : Phase M),
    s'.requests[j]? = some (served, phase) →
      (j = i ∧ served = request ∧ Resolved after phase) ∨
        (j ≠ i ∧ ∃ earlier, s.requests[j]? = some (served, earlier) ∧ Resolved earlier phase)
  published : s'.published = s.published ++ (effects.filterMap Effect.event).map (Prod.mk i)
  decided : s'.decided = s.decided ++ (effects.filterMap Effect.verdict).map (Prod.mk i)
  audited : s'.audited = s.audited ++ (effects.filterMap Effect.audit).map (Prod.mk i)
  policy : s'.policy = overwritten s.policy (effects.filterMap Effect.stored)
  engine : s'.engine = overwritten s.engine (effects.filterMap Effect.stored)
  file : s'.file = overwritten s.file (effects.filterMap Effect.written)

theorem moves_of_step (stepped : Server.step o s e = some s') :
    ∃ i request before after effects, Moves o s e s' i request before after effects := by
  unfold Server.step at stepped
  split at stepped
  · next request event =>
      cases Option.some.inj stepped
      have elsewhere : ∀ j, j ≠ s.requests.length →
          (s.receive request (arrive o s e.now request).1).requests[j]? = s.requests[j]? := by
        intro j other
        rcases lt_or_gt_of_ne other with below | beyond
        · exact List.getElem?_append_left below
        · rw [List.getElem?_eq_none beyond.le]
          exact List.getElem?_eq_none (by rw [receive, List.length_append]; exact beyond)
      obtain ⟨own, others, stands⟩ := stands_of_keeps
        (@keepsRequests_applyAll _ s.requests.length _ (arrive o s e.now request).2)
        List.getElem?_concat_length elsewhere
      exact ⟨_, request, none, _, _, .arrives event rfl, arrive_step request, own, others, stands,
        published_applyAll, decided_applyAll, audited_applyAll, policy_applyAll, engine_applyAll,
        file_applyAll⟩
  · next i answer event =>
      split at stepped
      · cases stepped
      · next request before at_i =>
          obtain ⟨next, advanced, rfl⟩ := Option.map_eq_some_iff.mp stepped
          have there : (s.become i request next.1).requests[i]? = some (request, next.1) :=
            List.getElem?_set_self (List.getElem?_eq_some_iff.mp at_i).1
          have elsewhere : ∀ j, j ≠ i →
              (s.become i request next.1).requests[j]? = s.requests[j]? :=
            fun j other => List.getElem?_set_ne (Ne.symm other)
          obtain ⟨own, others, stands⟩ := stands_of_keeps
            (@keepsRequests_applyAll _ i _ next.2) there elsewhere
          exact ⟨i, request, _, _, _, .answers event at_i, advance_step advanced, own, others,
            stands, published_applyAll, decided_applyAll, audited_applyAll, policy_applyAll,
            engine_applyAll, file_applyAll⟩

/-- A request is there for good. -/
theorem Moves.stays {i j : Nat} {request served : Request M} {before : Option (Phase M × Answer M)}
    {after phase : Phase M} {effects : List Effect}
    (moves : Moves o s e s' i request before after effects)
    (at_j : s.requests[j]? = some (served, phase)) :
    ∃ phase', s'.requests[j]? = some (served, phase') := by
  by_cases here : j = i
  · subst here
    obtain ⟨phase', at_j', -⟩ := moves.own
    cases moves.begins with
    | arrives _ new =>
        rw [new, List.getElem?_eq_none (le_refl _)] at at_j
        cases at_j
    | answers _ at_i =>
        cases at_i.symm.trans at_j
        exact ⟨phase', at_j'⟩
  · obtain ⟨phase', at_j', -⟩ := moves.others j served phase here at_j
    exact ⟨phase', at_j'⟩

/-- A number that no request has is not the one that moves, and was none's before. -/
theorem Moves.absent {i j : Nat} {request : Request M} {before : Option (Phase M × Answer M)}
    {after : Phase M} {effects : List Effect} (moves : Moves o s e s' i request before after effects)
    (absent : s'.requests[j]? = none) : j ≠ i ∧ s.requests[j]? = none := by
  constructor
  · intro here
    obtain ⟨phase, at_i, -⟩ := moves.own
    rw [here, at_i] at absent
    cases absent
  · cases at_j : s.requests[j]? with
    | none => rfl
    | some served =>
        obtain ⟨phase', at_j'⟩ := moves.stays at_j
        rw [absent] at at_j'
        cases at_j'

end Server

end

end Api

end AgentProof
