import AgentProof.Sdk.ExecuteRuns
import AgentProof.Sdk.Registry

/-!
# Who authorised what reaches the executor

One call of `execute` followed through a run, whatever other calls are under way.
It hands the executor at most one request, and the request is the action that
was decoded.  The session key's `send` follows a verdict to allow on the state
that was gathered for the call; `sendAsOwner` follows a verdict that asked for
approval, and an approver who granted the request with that very intent.  What
the call returns carries a transaction hash exactly if its request was made and
the executor answered.
-/

namespace AgentProof

namespace Sdk

open Js

/-! ## Decoders that pass the action on -/

/-- The decoders of an instance pass the action on, if those of its configuration do. -/
theorem keepsAction_of_createAgentProof {policyHash : PolicyDocument → Text}
    {config : AgentProofConfig} {deps : Deps}
    (created : createAgentProof policyHash config = .ok deps)
    (custom : ∀ registry, config.decoders = some registry → registry.Gives KeepsAction) :
    deps.engine.decoders.Gives KeepsAction := by
  simp only [createAgentProof, bind_eq_ok_iff, Except.ok.injEq] at created
  obtain ⟨policy, -, -, -, -, -, rfl⟩ := created
  cases chosen : config.decoders with
  | none => exact createDefaultRegistry_keepsAction
  | some registry => exact custom registry chosen

/-! ## What is said of one call -/

/-- The actions handed to `execute`; the `i`-th is that of call `i`. -/
def actionsOf (events : List ExecuteEvent) : List Action :=
  events.filterMap fun event =>
    match event with
    | .execute action => some action
    | _ => none

/-- The request an executor was handed. -/
def Submission.request : Submission → UserOperationRequest
  | .send request => request
  | .sendAsOwner request _ => request

namespace Process

/-- The requests of call `i`. -/
def madeBy (s : Process) (i : Nat) : List Submitted := s.submitted.filter fun x => x.call = i

section Claims

variable (account : ProtectedAccount) (now : Nat) (events : List ExecuteEvent) (i : Nat)

/-- Call `i` was made with an action that decodes to the intent. -/
def Asked (intent : NormalizedIntent) : Prop :=
  ∃ action, (actionsOf events)[i]? = some action ∧
    account.deps.engine.decoders.decode action account.deps.engine.decoderContext = .ok intent

/-- The state holds the answers to the two reads of call `i`. -/
structure GatheredFor (state : PolicyState) : Prop where
  gathered : Gathered account state
  dailySpend : .spendReplies i (.ok state.dailySpend) ∈ events
  balance : .balanceReplies i (.ok state.balance) ∈ events

/-- While call `i` waited for a human on this intent and this state, a request
that carries the intent was approved. -/
def Granted (intent : NormalizedIntent) (state : PolicyState) : Prop :=
  ∃ before after s result request outcome,
    events = before ++ .approverReplies i (.ok outcome) :: after ∧
    Runs.Run (step account) (fun _ _ => True) (initial now) before s ∧
    s.calls[i]? = some (.approving intent state result request) ∧
    request.intent = intent ∧ outcome.approved = true

/-- Who authorised the submission: the verdict, or a human whom the verdict asked for. -/
def Authorises (enforcer : HookEnforcer) (intent : NormalizedIntent) (state : PolicyState)
    (submission : Submission) : Prop :=
  account.decision intent state = .allow ∧ submission = enforcer.execute intent ∨
    account.decision intent state = .requireApproval ∧ Granted account now events i intent state ∧
      submission = .sendAsOwner (enforcer.request intent) "0x".toList

/-- What is known of a request that call `i` has made. -/
structure Authorised (x : Submitted) : Prop where
  asked : Asked account events i x.intent
  gathered : GatheredFor account events i x.state
  authorises : ∃ enforcer, account.enforcer = some enforcer ∧
    Authorises account now events i enforcer x.intent x.state x.submission

/-- The executor has answered call `i` once, with the hash. -/
def Answered (txHash : Text) : Prop :=
  ∀ reply, .executorReplies i reply ∈ events ↔ reply = .ok txHash

/-- Call `i` has not come to the executor. -/
structure Untried (made : List Submitted) : Prop where
  none : made = []
  silent : ∀ reply, .executorReplies i reply ∉ events

/-- Where a call stands, with the requests it has made. -/
def Track (made : List Submitted) : ExecuteCall → Prop
  | .gathering intent _ dailySpend balance => Asked account events i intent ∧
      (∀ spent, dailySpend = some spent → .spendReplies i (.ok spent) ∈ events) ∧
      (∀ left, balance = some left → .balanceReplies i (.ok left) ∈ events) ∧
      Untried events i made
  | .approving intent state result request => Asked account events i intent ∧
      GatheredFor account events i state ∧ account.decision intent state = .requireApproval ∧
      request.intent = intent ∧ result.txHash = none ∧ Untried events i made
  | .submitting _ _ => made.length = 1 ∧ ∀ reply, .executorReplies i reply ∉ events
  | .recording _ _ txHash => made.length = 1 ∧ Answered events i txHash
  | .returned result => result.txHash = none ∧ Untried events i made ∨
      ∃ txHash, result.txHash = some txHash ∧ made.length = 1 ∧ Answered events i txHash
  | .rejected _ => made.length ≤ 1

/-- Every call is where the events have brought it. -/
structure Followed (s : Process) : Prop where
  length : (actionsOf events).length = s.calls.length
  calls : ∀ i call, s.calls[i]? = some call → Track account events i (s.madeBy i) call
  submitted : ∀ x ∈ s.submitted, Authorised account now events x.call x
  answered : ∀ i reply, .executorReplies i reply ∈ events → i < s.calls.length

end Claims

/-! ## More events -/

section More

variable {now : Nat} {events : List ExecuteEvent} {event : ExecuteEvent} {i : Nat}
  {intent : NormalizedIntent} {state : PolicyState} {made : List Submitted}

theorem actionsOf_concat (events : List ExecuteEvent) (event : ExecuteEvent) :
    actionsOf (events ++ [event]) = actionsOf events ++ actionsOf [event] := by
  rw [actionsOf, List.filterMap_append]
  rfl

theorem Asked.concat (asked : Asked account events i intent) :
    Asked account (events ++ [event]) i intent := by
  obtain ⟨action, at_i, decoded⟩ := asked
  refine ⟨action, ?_, decoded⟩
  rw [actionsOf_concat, List.getElem?_append_left (List.getElem?_eq_some_iff.mp at_i).1]
  exact at_i

theorem GatheredFor.concat (gathered : GatheredFor account events i state) :
    GatheredFor account (events ++ [event]) i state :=
  ⟨gathered.gathered, List.mem_append_left _ gathered.dailySpend,
    List.mem_append_left _ gathered.balance⟩

theorem Granted.concat (granted : Granted account now events i intent state) :
    Granted account now (events ++ [event]) i intent state := by
  obtain ⟨before, after, s, result, request, outcome, rfl, rest⟩ := granted
  exact ⟨before, after ++ [event], s, result, request, outcome, by simp, rest⟩

theorem Authorised.concat {x : Submitted} (authorised : Authorised account now events i x) :
    Authorised account now (events ++ [event]) i x := by
  obtain ⟨enforcer, enforced, authority⟩ := authorised.authorises
  refine ⟨authorised.asked.concat, authorised.gathered.concat, enforcer, enforced, ?_⟩
  rcases authority with allowed | ⟨asks, granted, sent⟩
  · exact .inl allowed
  · exact .inr ⟨asks, granted.concat, sent⟩

theorem Untried.concat (untried : Untried events i made)
    (other : ∀ reply, event ≠ .executorReplies i reply) : Untried (events ++ [event]) i made := by
  refine ⟨untried.none, fun reply mem => ?_⟩
  rcases List.mem_append.mp mem with before | last
  · exact untried.silent reply before
  · exact other reply (List.mem_singleton.mp last).symm

theorem Answered.concat {txHash : Text} (answered : Answered events i txHash)
    (other : ∀ reply, event ≠ .executorReplies i reply) :
    Answered (events ++ [event]) i txHash := by
  intro reply
  rw [← answered reply, List.mem_append, List.mem_singleton, or_iff_left]
  exact fun last => other reply last.symm

/-- An event of another call changes nothing for this one. -/
theorem Track.concat {call : ExecuteCall} (track : Track account events i made call)
    (other : ∀ reply, event ≠ .executorReplies i reply) :
    Track account (events ++ [event]) i made call := by
  cases call with
  | gathering intent dayUtc dailySpend balance =>
      obtain ⟨asked, spent, left, untried⟩ := track
      exact ⟨asked.concat, fun v known => List.mem_append_left _ (spent v known),
        fun v known => List.mem_append_left _ (left v known), untried.concat other⟩
  | approving intent state result request =>
      obtain ⟨asked, gathered, asks, same, unhashed, untried⟩ := track
      exact ⟨asked.concat, gathered.concat, asks, same, unhashed, untried.concat other⟩
  | submitting intent result =>
      obtain ⟨one, silent⟩ := track
      exact ⟨one, (Untried.concat ⟨rfl, silent⟩ other).silent⟩
  | recording intent result txHash => exact ⟨track.1, track.2.concat other⟩
  | returned result =>
      rcases track with ⟨unhashed, untried⟩ | ⟨txHash, hashed, one, answered⟩
      · exact .inl ⟨unhashed, untried.concat other⟩
      · exact .inr ⟨txHash, hashed, one, answered.concat other⟩
  | rejected e => exact track

end More

/-! ## One turn -/

section Turn

variable {now day : Nat} {events : List ExecuteEvent} {event : ExecuteEvent} {s : Process} {i : Nat}
  {intent : NormalizedIntent} {state : PolicyState} {result : ExecuteResult} {old new : ExecuteCall}
  {made submitted : List Submitted} {published : List ExecuteResult}

/-- The call has made no request more, or one that was authorised, and stands where
the events have brought it. -/
structure Comes (account : ProtectedAccount) (now : Nat) (events : List ExecuteEvent) (i : Nat)
    (made submitted : List Submitted) (new : ExecuteCall) : Prop where
  authorised : submitted = [] ∨ ∃ x, submitted = [x] ∧ x.call = i ∧
    Authorised account now events i x
  track : Track account events i (made ++ submitted) new

theorem Comes.of_silent (track : Track account events i made new) :
    Comes account now events i made [] new :=
  ⟨.inl rfl, by rwa [List.append_nil]⟩

theorem Untried.rejected {e : JsError} (untried : Untried events i made) :
    Track account (events ++ [event]) i made (.rejected e) := by
  rw [Track, untried.none]
  exact Nat.zero_le 1

/-- What follows an allowing verdict: the request goes out by the path that the
approval request selects. -/
theorem Sent.comes (sent : Sent account day i intent state result new published submitted)
    (silent : ∀ reply, event ≠ .executorReplies i reply)
    (asked : Asked account events i intent) (gathered : GatheredFor account events i state)
    (untried : Untried events i made) (unhashed : result.txHash = none)
    (allows : result.approvalRequest = none → account.decision intent state = .allow)
    (granted : ∀ request, result.approvalRequest = some request →
      account.decision intent state = .requireApproval ∧
        Granted account now (events ++ [event]) i intent state) :
    Comes account now (events ++ [event]) i made submitted new := by
  have still := untried.concat silent
  have sends {enforcer : HookEnforcer} {submission : Submission}
      (enforced : account.enforcer = some enforcer)
      (authority : Authorises account now (events ++ [event]) i enforcer intent state submission) :
      Comes account now (events ++ [event]) i made [⟨i, day, state, intent, submission⟩]
        (.submitting intent result) := by
    refine ⟨.inr ⟨_, rfl, rfl, asked.concat, gathered.concat, enforcer, enforced, authority⟩, ?_⟩
    rw [untried.none]
    exact ⟨rfl, still.silent⟩
  cases sent with
  | unexecuted => exact .of_silent (.inl ⟨unhashed, still⟩)
  | sends enforced direct => exact sends enforced (.inl ⟨allows direct, rfl⟩)
  | @sendsAsOwner _ request enforced approved _ =>
      obtain ⟨asks, grants⟩ := granted request approved
      exact sends enforced (.inr ⟨asks, grants, rfl⟩)
  | refused => exact .of_silent untried.rejected

theorem Fails.comes {e : JsError} (fails : Fails i e event old)
    (track : Track account events i made old) :
    Comes account now (events ++ [event]) i made [] (.rejected e) := by
  refine .of_silent ?_
  cases fails with
  | spend => exact track.2.2.2.rejected
  | balance => exact track.2.2.2.rejected
  | approver => exact track.2.2.2.2.2.rejected
  | executor => exact track.1.le
  | record => exact track.1.le

/-- A turn of a call that is where the events have brought it; an approval was granted
by the human it asked. -/
theorem Turn.comes (turn : Turn account s i event old new published submitted)
    (track : Track account events i made old)
    (granted : ∀ intent state result request outcome,
      old = .approving intent state result request → event = .approverReplies i (.ok outcome) →
      request.intent = intent → outcome.approved = true →
        Granted account now (events ++ [event]) i intent state) :
    Comes account now (events ++ [event]) i made submitted new := by
  cases turn with
  | spend dailySpend =>
      obtain ⟨asked, -, left, untried⟩ := track
      refine .of_silent ⟨asked.concat, ?_, ?_, untried.concat (by simp)⟩
      · intro spent known
        cases known
        exact List.mem_append_right _ (List.mem_singleton_self _)
      · exact fun amount known => List.mem_append_left _ (left amount known)
  | balance balance =>
      obtain ⟨asked, spent, -, untried⟩ := track
      refine .of_silent ⟨asked.concat, ?_, ?_, untried.concat (by simp)⟩
      · exact fun amount known => List.mem_append_left _ (spent amount known)
      · intro left known
        cases known
        exact List.mem_append_right _ (List.mem_singleton_self _)
  | @allowed intent dayUtc dailySpend balance state new published submitted gathered allows sent =>
      obtain ⟨asked, spent, left, untried⟩ := track
      subst gathered
      exact sent.comes (by simp) asked ⟨⟨rfl, rfl⟩, spent dailySpend rfl, left balance rfl⟩ untried
        rfl (fun _ => allows) fun request requested => by cases requested
  | blocked gathered refused unhashed =>
      obtain ⟨-, -, -, untried⟩ := track
      exact .of_silent (.inl ⟨unhashed, untried.concat (by simp)⟩)
  | @asks intent dayUtc dailySpend balance state request gathered asked approver shown =>
      obtain ⟨called, spent, left, untried⟩ := track
      have read : GatheredFor account events i state := by
        subst gathered
        exact ⟨⟨rfl, rfl⟩, spent dailySpend rfl, left balance rfl⟩
      exact .of_silent ⟨called.concat, read.concat, asked, shown, rfl, untried.concat (by simp)⟩
  | approved approves sent =>
      obtain ⟨asked, gathered, asks, same, unhashed, untried⟩ := track
      refine sent.comes (by simp) asked gathered untried unhashed (by simp) fun _ _ => ⟨asks, ?_⟩
      exact granted _ _ _ _ _ rfl rfl same approves
  | declined declines unhashed =>
      obtain ⟨-, -, -, -, none, untried⟩ := track
      exact .of_silent (.inl ⟨unhashed.trans none, untried.concat (by simp)⟩)
  | executed txHash =>
      obtain ⟨one, silent⟩ := track
      refine .of_silent ⟨one, fun reply => ?_⟩
      rw [List.mem_append, List.mem_singleton, or_iff_right (silent reply),
        ExecuteEvent.executorReplies.injEq]
      exact ⟨fun same => same.2, fun same => ⟨rfl, same⟩⟩
  | @recorded intent result txHash =>
      obtain ⟨one, answered⟩ := track
      exact .of_silent (.inr ⟨txHash, rfl, one, answered.concat (by simp)⟩)
  | failed fails => exact fails.comes track

end Turn

/-! ## One step -/

section Step

variable {now : Nat} {events : List ExecuteEvent} {event : ExecuteEvent} {s s' : Process} {i : Nat}
  {intent : NormalizedIntent} {state : PolicyState} {result : ExecuteResult} {call old : ExecuteCall}

/-- Only a call's own steps speak of it. -/
structure Concerns (event : ExecuteEvent) (i : Nat) : Prop where
  quiet : ∀ action, event ≠ .execute action
  replies : ∀ j reply, event = .executorReplies j reply → j = i

theorem Concerns.actionsOf (concerns : Concerns event i) : actionsOf [event] = [] := by
  cases event with
  | execute action => exact absurd rfl (concerns.quiet action)
  | _ => rfl

/-- An event of a call. -/
theorem Concerns.of_call? (call : event.call? = some i) : Concerns event i := by
  refine ⟨?_, ?_⟩
  · rintro action rfl
    cases call
  · rintro j reply rfl
    exact Option.some.inj call

variable (followed : Followed account now events s)
include followed

/-- A step of one call: it is set to where it now stands, and may have made one request. -/
theorem Followed.moves (concerns : Concerns event i) (at_i : s.calls[i]? = some old)
    (calls : s'.calls = s.calls.set i call)
    (submitted : s'.submitted = s.submitted ∨ ∃ x, s'.submitted = s.submitted ++ [x] ∧
      x.call = i ∧ Authorised account now (events ++ [event]) i x)
    (track : Track account (events ++ [event]) i (s'.madeBy i) call) :
    Followed account now (events ++ [event]) s' := by
  have inside : i < s.calls.length := (List.getElem?_eq_some_iff.mp at_i).1
  have sameLength : s'.calls.length = s.calls.length := by rw [calls, List.length_set]
  have elsewhere : ∀ j, j ≠ i → s'.madeBy j = s.madeBy j := by
    intro j other
    rcases submitted with same | ⟨x, more, mine, -⟩
    · rw [madeBy, madeBy, same]
    · have foreign : ¬ x.call = j := fun same => other (same.symm.trans mine)
      rw [madeBy, madeBy, more, List.filter_append]
      simp [foreign]
  constructor
  · rw [actionsOf_concat, concerns.actionsOf, List.append_nil, sameLength, followed.length]
  · intro j callj at_j
    rw [calls] at at_j
    rcases eq_or_ne j i with rfl | other
    · rw [List.getElem?_set_self inside] at at_j
      exact Option.some.inj at_j ▸ track
    · rw [List.getElem?_set_ne other.symm] at at_j
      rw [elsewhere j other]
      refine (followed.calls j callj at_j).concat fun reply same => ?_
      exact other (concerns.replies j reply same)
  · intro x mem
    rcases submitted with same | ⟨y, more, mine, authorised⟩
    · exact (followed.submitted x (same ▸ mem)).concat
    · rw [more, List.mem_append, List.mem_singleton] at mem
      rcases mem with before | rfl
      · exact (followed.submitted x before).concat
      · exact mine ▸ authorised
  · intro j reply mem
    rw [sameLength]
    rcases List.mem_append.mp mem with before | last
    · exact followed.answered j reply before
    · rw [concerns.replies j reply (List.mem_singleton.mp last).symm]
      exact inside

end Step

section Steps

variable {now : Nat} {events : List ExecuteEvent} {s s' : Process}

/-- Events that no call waits for. -/
theorem Followed.same {event : ExecuteEvent} (followed : Followed account now events s)
    (quiet : ∀ action, event ≠ .execute action)
    (silent : ∀ i reply, event ≠ .executorReplies i reply) (calls : s'.calls = s.calls)
    (submitted : s'.submitted = s.submitted) : Followed account now (events ++ [event]) s' := by
  constructor
  · rw [actionsOf_concat, (⟨quiet, fun j reply same => absurd same (silent j reply)⟩ :
      Concerns event 0).actionsOf, List.append_nil, calls, followed.length]
  · intro i call at_i
    rw [calls] at at_i
    rw [madeBy, submitted]
    exact (followed.calls i call at_i).concat (silent i)
  · intro x mem
    exact (followed.submitted x (submitted ▸ mem)).concat
  · intro i reply mem
    rw [calls]
    rcases List.mem_append.mp mem with before | last
    · exact followed.answered i reply before
    · exact absurd (List.mem_singleton.mp last).symm (silent i reply)

/-- A new call is decoded, or is rejected right away. -/
theorem Followed.begins {action : Action} (followed : Followed account now events s)
    (begins : Begins account s s' action) :
    Followed account now (events ++ [.execute action]) s' := by
  have unasked : s.madeBy s.calls.length = [] := by
    refine List.filter_eq_nil_iff.mpr fun x mem => ?_
    obtain ⟨asker, at_x, -⟩ := (followed.submitted x mem).asked
    have inside := (List.getElem?_eq_some_iff.mp at_x).1
    rw [followed.length] at inside
    simpa using inside.ne
  have untried : Untried events s.calls.length (s.madeBy s.calls.length) :=
    ⟨unasked, fun reply mem => lt_irrefl _ (followed.answered _ reply mem)⟩
  have made (j : Nat) : s'.madeBy j = s.madeBy j := by rw [madeBy, madeBy, begins.submitted]
  constructor
  · rw [actionsOf_concat, begins.calls, List.length_append, List.length_append, followed.length]
    rfl
  · intro i call at_i
    rw [begins.calls, List.getElem?_append] at at_i
    rw [made]
    split_ifs at at_i with inside
    · exact (followed.calls i call at_i).concat (by simp)
    · obtain ⟨zero, called⟩ := List.getElem?_eq_some_iff.mp at_i
      have last : i = s.calls.length := by
        rw [List.length_singleton] at zero
        omega
      subst last
      simp only [Nat.sub_self, List.getElem_cons_zero] at called
      subst called
      cases decoded : account.deps.engine.decoders.decode action
          account.deps.engine.decoderContext with
      | ok intent =>
          rw [begun, decoded]
          refine ⟨⟨action, ?_, decoded⟩, by simp, by simp, untried.concat (by simp)⟩
          have last : actionsOf [.execute action] = [action] := rfl
          rw [actionsOf_concat, ← followed.length, last, List.getElem?_concat_length]
      | error e =>
          rw [begun, decoded]
          exact untried.rejected
  · intro x mem
    exact (followed.submitted x (begins.submitted ▸ mem)).concat
  · intro i reply mem
    rw [begins.calls, List.length_append]
    rcases List.mem_append.mp mem with before | last
    · exact Nat.lt_add_right _ (followed.answered i reply before)
    · cases List.mem_singleton.mp last

theorem Followed.takes {event : ExecuteEvent} {i : Nat} {old new : ExecuteCall}
    {published : List ExecuteResult} {submitted : List Submitted}
    (followed : Followed account now events s)
    (run : Runs.Run (step account) (fun _ _ => True) (initial now) events s)
    (takes : Takes account s s' event i old new published submitted) :
    Followed account now (events ++ [event]) s' := by
  have concerns : Concerns event i := .of_call? takes.turn.call?
  have comes : Comes account now (events ++ [event]) i (s.madeBy i) submitted new := by
    refine takes.turn.comes (followed.calls i old takes.before) ?_
    rintro intent state result request outcome rfl rfl same approved
    exact ⟨events, [], s, result, request, outcome, rfl, run, takes.before, same, approved⟩
  have made : s'.madeBy i = s.madeBy i ++ submitted := by
    rw [madeBy, takes.submitted, List.filter_append, madeBy]
    rcases comes.authorised with rfl | ⟨x, rfl, mine, -⟩
    · rfl
    · simp [mine]
  refine followed.moves concerns takes.before takes.calls ?_ (made ▸ comes.track)
  rw [takes.submitted]
  rcases comes.authorised with rfl | ⟨x, rfl, mine, authorised⟩
  · exact .inl (List.append_nil _)
  · exact .inr ⟨x, rfl, mine, authorised⟩

theorem Followed.step {event : ExecuteEvent} (followed : Followed account now events s)
    (run : Runs.Run (step account) (fun _ _ => True) (initial now) events s)
    (stepped : step account s event = some s') :
    Followed account now (events ++ [event]) s' := by
  rcases step_cases stepped with
    ⟨action, rfl, begins⟩ | ⟨i, old, new, published, submitted, takes⟩ | idles
  · exact followed.begins begins
  · exact followed.takes run takes
  · refine followed.same ?_ ?_ idles.calls idles.submitted
    · rintro action rfl
      obtain rfl := Option.some.inj stepped
      have grown := congrArg List.length idles.calls
      simp at grown
    · rintro i reply rfl
      cases idles.foreign

end Steps

/-! ## Runs -/

theorem followed_initial (now : Nat) : Followed account now [] (initial now) :=
  ⟨rfl, fun i call at_i => by simp [initial] at at_i, fun x mem => by simp [initial] at mem,
    fun i reply mem => by cases mem⟩

theorem followed_of_run {now : Nat} {events : List ExecuteEvent} {s : Process}
    (run : Runs.Run (step account) (fun _ _ => True) (initial now) events s) :
    Followed account now events s :=
  run.history (followed_initial now) fun _ _ _ _ before followed _ stepped =>
    followed.step before stepped

/-- What a call of `execute` may have done when the events have been. -/
structure Authority (account : ProtectedAccount) (now : Nat) (events : List ExecuteEvent)
    (s : Process) (i : Nat) : Prop where
  atMostOne : (s.madeBy i).length ≤ 1
  asDecoded : ∀ x ∈ s.madeBy i, ∃ action enforcer, (actionsOf events)[i]? = some action ∧
    account.deps.engine.decoders.decode action account.deps.engine.decoderContext = .ok x.intent ∧
    account.enforcer = some enforcer ∧
    x.submission.request = ⟨enforcer.account, action.toAddress, action.data, action.value⟩
  gathered : ∀ x ∈ s.madeBy i, GatheredFor account events i x.state
  send : ∀ x ∈ s.madeBy i, ∀ request, x.submission = .send request →
    account.decision x.intent x.state = .allow
  sendAsOwner : ∀ x ∈ s.madeBy i, ∀ request signature,
    x.submission = .sendAsOwner request signature →
    account.decision x.intent x.state = .requireApproval ∧
      Granted account now events i x.intent x.state
  txHash : ∀ result, s.calls[i]? = some (.returned result) → ∀ txHash,
    result.txHash = some txHash ↔
      s.madeBy i ≠ [] ∧ .executorReplies i (.ok txHash) ∈ events

section Claim

variable {now : Nat} {events : List ExecuteEvent} {s : Process}

theorem Followed.atMostOne (followed : Followed account now events s) (i : Nat) :
    (s.madeBy i).length ≤ 1 := by
  cases at_i : s.calls[i]? with
  | none =>
      have unasked : s.madeBy i = [] := by
        refine List.filter_eq_nil_iff.mpr fun x mem => ?_
        obtain ⟨asker, at_x, -⟩ := (followed.submitted x mem).asked
        have inside := (List.getElem?_eq_some_iff.mp at_x).1
        have outside := List.getElem?_eq_none_iff.mp at_i
        rw [followed.length] at inside
        simp only [decide_eq_true_eq]
        omega
      rw [unasked]
      exact Nat.zero_le 1
  | some call =>
      have track := followed.calls i call at_i
      cases call with
      | gathering intent dayUtc dailySpend balance =>
          obtain ⟨-, -, -, untried⟩ := track
          rw [untried.none]
          exact Nat.zero_le 1
      | approving intent state result request =>
          obtain ⟨-, -, -, -, -, untried⟩ := track
          rw [untried.none]
          exact Nat.zero_le 1
      | submitting intent result => exact track.1.le
      | recording intent result txHash => exact track.1.le
      | returned result =>
          rcases track with ⟨-, untried⟩ | ⟨-, -, one, -⟩
          · rw [untried.none]
            exact Nat.zero_le 1
          · exact one.le
      | rejected e => exact track

theorem Followed.txHash_iff (followed : Followed account now events s) {i : Nat}
    {result : ExecuteResult} (at_i : s.calls[i]? = some (.returned result)) (txHash : Text) :
    result.txHash = some txHash ↔
      s.madeBy i ≠ [] ∧ .executorReplies i (.ok txHash) ∈ events := by
  rcases followed.calls i _ at_i with ⟨unhashed, untried⟩ | ⟨found, hashed, one, answered⟩
  · rw [unhashed]
    constructor
    · intro same
      cases same
    · exact fun both => absurd both.2 (untried.silent _)
  · rw [hashed, answered]
    constructor
    · intro same
      cases same
      exact ⟨fun none => by simp [none] at one, rfl⟩
    · intro both
      rw [Except.ok.inj both.2]

theorem Followed.of_made (followed : Followed account now events s) {i : Nat} {x : Submitted}
    (made : x ∈ s.madeBy i) : Authorised account now events i x := by
  obtain ⟨mem, mine⟩ := List.mem_filter.mp made
  rw [← of_decide_eq_true mine]
  exact followed.submitted x mem

/-- Every call of every run stays within its authority. -/
theorem execute_authority {policyHash : PolicyDocument → Text} {config : AgentProofConfig}
    {deps : Deps} (created : createAgentProof policyHash config = .ok deps)
    (custom : ∀ registry, config.decoders = some registry → registry.Gives KeepsAction)
    {executor : Option Executor}
    (run : Runs.Run (step (deps.protect executor)) (fun _ _ => True) (initial now) events s)
    (i : Nat) : Authority (deps.protect executor) now events s i := by
  have followed := followed_of_run run
  have keeps : (deps.protect executor).deps.engine.decoders.Gives KeepsAction :=
    keepsAction_of_createAgentProof created custom
  refine ⟨followed.atMostOne i, ?_, fun x made => (followed.of_made made).gathered, ?_, ?_,
    fun result at_i => followed.txHash_iff at_i⟩
  · intro x made
    obtain ⟨⟨action, at_i, decoded⟩, -, enforcer, enforced, authority⟩ := followed.of_made made
    refine ⟨action, enforcer, at_i, decoded, enforced, ?_⟩
    rw [← keeps action _ _ decoded]
    rcases authority with ⟨-, sent⟩ | ⟨-, -, sent⟩
    · rw [sent]
      rfl
    · rw [sent]
      rfl
  · intro x made request sent
    obtain ⟨-, -, enforcer, -, ⟨allows, -⟩ | ⟨-, -, owner⟩⟩ := followed.of_made made
    · exact allows
    · rw [sent] at owner
      cases owner
  · intro x made request signature sent
    obtain ⟨-, -, enforcer, -, ⟨-, direct⟩ | ⟨asks, granted, -⟩⟩ := followed.of_made made
    · rw [sent] at direct
      cases direct
    · exact ⟨asks, granted⟩

end Claim

/-! ### A payment below and one at the threshold -/

/-- There is an approver, and the executor can submit for the owner. -/
def sampleOwnerSetup : AgentProofConfig :=
  { sampleSetup with
    approver := true
    enforcement := some ⟨⟨true⟩, none, none, none⟩ }

def paymentThenApproval : List ExecuteEvent :=
  [.execute (paymentOf 60000000), .spendReplies 0 (.ok 0), .balanceReplies 0 (.ok 1000000000),
    .decides 0, .executorReplies 0 (.ok "0xaa".toList), .recordReplies 0 (.ok ()),
    .execute (paymentOf 100000000), .spendReplies 1 (.ok 0), .balanceReplies 1 (.ok 1000000000),
    .decides 1, .approverReplies 1 (.ok ⟨true, none, "owner".toList⟩),
    .executorReplies 1 (.ok "0xbb".toList), .recordReplies 1 (.ok ())]

/-- What the executor is handed for a payment. -/
def paymentRequest (amount : Nat) : UserOperationRequest :=
  ⟨addressText 0xacc0, (paymentOf amount).toAddress, (paymentOf amount).data,
    (paymentOf amount).value⟩

/-- The session key sends the first, the owner the second. -/
theorem paymentThenApproval_authority :
    ∃ deps s, createAgentProof sampleHash sampleOwnerSetup = .ok deps ∧
      Runs.Run (step (deps.protect none)) (fun _ _ => True) (initial 0) paymentThenApproval s ∧
      s.submitted.map Submitted.submission =
        [.send (paymentRequest 60000000), .sendAsOwner (paymentRequest 100000000) "0x".toList] ∧
      Authority (deps.protect none) 0 paymentThenApproval s 0 ∧
      Authority (deps.protect none) 0 paymentThenApproval s 1 := by
  have ran : (createAgentProof sampleHash sampleOwnerSetup).toOption.any fun deps =>
      (Runs.replay (step (deps.protect none)) (fun _ _ => True) (initial 0)
        paymentThenApproval).any fun s => s.submitted.map Submitted.submission =
          [.send (paymentRequest 60000000),
            .sendAsOwner (paymentRequest 100000000) "0x".toList] := by decide +kernel
  obtain ⟨deps, found, replayed⟩ := (Option.any_eq_true _ _).mp ran
  obtain ⟨s, replayed, made⟩ := (Option.any_eq_true _ _).mp replayed
  have created := eq_ok_of_toOption found
  have run := Runs.run_of_replay replayed
  exact ⟨deps, s, created, run, of_decide_eq_true made, execute_authority created nofun run 0,
    execute_authority created nofun run 1⟩

end Process

end Sdk

end AgentProof
