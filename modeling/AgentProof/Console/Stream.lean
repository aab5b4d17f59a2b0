import AgentProof.Lib.Binary64
import AgentProof.Lib.OrderedMap
import AgentProof.Lib.Runs
import AgentProof.Lib.ServerSentEvents
import AgentProof.Lib.Sifted
import AgentProof.Sdk.CanonicalJson

/-!
# The console's view of the stream

`lib/useStream.ts`: what the operator's page makes of the events it reads, with its
connection, its timers and what the operator has answered.  The page shows the newest
decisions and the requests that are pending.  It does not come back from a failed
connection: each failure is taken for a missing session.

The data of a message is any JSON value, since anybody can publish.  An exception in an
updater takes the page down, and then it has no next state: a request that is `null`, or
one whose id or expiry cannot be converted.  What the components draw of the lists is left
out.
-/

namespace AgentProof

namespace Console

open Runs ServerSentEvents Binary64

inductive ConnectionState
  | connecting
  | open
  | unauthorized
  | closed
  deriving DecidableEq, Repr

/-- `readyState` of an `EventSource`. -/
inductive ReadyState
  | connecting
  | open
  | closed
  deriving DecidableEq, Repr

inductive How
  | approved
  | declined
  | expired
  deriving DecidableEq, Repr

def APPROVAL_TTL_MS : Int := 5 * 60 * 1000
def MAX_ITEMS : Nat := 50

/-! ## JSON values -/

/-- What `JSON.parse` returns. -/
abbrev Value := Sdk.JsonValue Units Double

namespace Value

/-- `v.key`, where `v` is not `null`. -/
def field (v : Value) (key : Units) : Option Value :=
  match v with
  | .obj fields => fields.lookup key
  | _ => none

/-- `a === b`, for values that were not parsed together: an object is nothing but itself. -/
def identical : Option Value → Option Value → Bool
  | none, none => true
  | some .null, some .null => true
  | some (.bool a), some (.bool b) => a = b
  | some (.num a), some (.num b) => a = b
  | some (.str a), some (.str b) => a = b
  | _, _ => false

/-- Neither an array nor an object. -/
def isPrimitive : Option Value → Bool
  | some (.arr _) | some (.obj _) => false
  | _ => true

/-- `JSON.parse` gives no `NaN`. -/
theorem identical_eq_true_iff {a b : Option Value} :
    identical a b = true ↔ a = b ∧ isPrimitive a = true := by
  rcases a with _ | (_ | _ | _ | _ | _ | _) <;> rcases b with _ | (_ | _ | _ | _ | _ | _) <;>
    simp [identical, isPrimitive]

end Value

open Value

/-- What the page has of JavaScript: `JSON.parse`, `Number` of a string, and `String` of
what is no string; the last may throw, for an object with a `toString` of its own. -/
structure Page where
  parse : Units → Option Value
  number : Units → Double
  string : Value → Option Units

/-- A text gets the time it came in. -/
inductive Thought
  | text (at_ : Int) (text : Units)
  | posted (thought : Value)

/-- A request, with the expiry it was given. -/
structure ApprovalRequest where
  request : Value
  expiresAt : Value

def ApprovalRequest.id (a : ApprovalRequest) : Option Value := a.request.field (units "id")

/-- `attempt`, `source` and `retry` are not shown. -/
structure StreamState where
  enabled : Bool
  connection : ConnectionState
  decisions : List Value
  thoughts : List Thought
  approvals : List ApprovalRequest
  resolved : OrderedMap Units How
  attempt : Nat
  source : Option ReadyState
  /-- The delay of the timer that is armed. -/
  retry : Option Nat

inductive StreamInput
  | toggled (enabled : Bool)
  | opened
  | received (message : Message) (now : Int)
  | failed
  | retries
  /-- The timer that ages out requests. -/
  | ages (now : Int)
  | markResolved (id : Units) (how : How)

namespace StreamState

/-- The page before its first effect. -/
def mounted : StreamState := ⟨false, .closed, [], [], [], .empty, 0, none, none⟩

def connect (s : StreamState) : StreamState :=
  { s with connection := .connecting, source := some .connecting }

def connectionNeverOpened (s : StreamState) : Bool :=
  s.source = some .closed && s.attempt = 0

/-- The source is closed before it is looked at. -/
def onerror (s : StreamState) : StreamState :=
  let s := { s with source := some .closed }
  if s.attempt = 0 ∧ s.connectionNeverOpened then { s with connection := .unauthorized }
  else
    let attempt := s.attempt + 1
    { s with
      attempt := attempt
      connection := .closed
      retry := some (min (1000 * 2 ^ attempt) 15000) }

def markResolved (s : StreamState) (id : Units) (how : How) : StreamState :=
  { s with
    resolved := s.resolved.set id how
    approvals := s.approvals.filter fun request => !identical request.id (some (.str id)) }

end StreamState

namespace Page

variable (page : Page)

/-- The number of a value that is compared with one. -/
def toNumber : Value → Option Double
  | .null => some (.finite 0)
  | .bool b => some (.finite (if b then 1 else 0))
  | .num n => some n
  | .str s => some (page.number s)
  | v => (page.string v).map page.number

/-- The name of the property that a value picks. -/
def key : Option Value → Option Units
  | none => some (units "undefined")
  | some (.str s) => some s
  | some v => page.string v

def thought (payload : Value) (now : Int) : Thought :=
  match payload with
  | .str text => .text now text
  | payload => .posted payload

/-- `null` has no expiry to look for. -/
def approval (request : Value) (now : Int) : Option ApprovalRequest :=
  match request with
  | .null => none
  | request =>
      some ⟨request,
        match request.field (units "expiresAt") with
        | none | some .null => .num (.finite (now + APPROVAL_TTL_MS : Int))
        | some expiresAt => expiresAt⟩

/-- The listeners; data that cannot be parsed is passed over. -/
def handle (s : StreamState) (message : Message) (now : Int) : Option StreamState :=
  match page.parse message.data with
  | none => some s
  | some payload =>
      if message.type = units "decision" then
        some { s with decisions := (payload :: s.decisions).take MAX_ITEMS }
      else if message.type = units "thought" then
        some { s with thoughts := (thought payload now :: s.thoughts).take MAX_ITEMS }
      else if message.type = units "approval" then
        (approval payload now).map fun request =>
          { s with
            approvals := request ::
              s.approvals.filter fun existing => !identical existing.id request.id }
      else some s

/-- `request.expiresAt > now`. -/
def isLive (now : Int) (request : ApprovalRequest) : Bool :=
  ((page.toNumber request.expiresAt).getD .nan).gt (.finite now)

/-- `request.expiresAt <= now`. -/
def isExpired (now : Int) (request : ApprovalRequest) : Bool :=
  ((page.toNumber request.expiresAt).getD .nan).le (.finite now)

def expire (resolved : OrderedMap Units How) (expired : List ApprovalRequest) :
    Option (OrderedMap Units How) :=
  expired.foldlM (fun resolved request => (page.key request.id).map fun key =>
    resolved.set key .expired) resolved

/-- What is live stays; what has expired is resolved as that.  An expiry that is no number
is neither. -/
def ageOut (s : StreamState) (now : Int) : Option StreamState :=
  if s.approvals.all fun request => (page.toNumber request.expiresAt).isSome then
    let live := s.approvals.filter (page.isLive now)
    if live.length ≠ s.approvals.length then
      (page.expire s.resolved (s.approvals.filter (page.isExpired now))).map fun resolved =>
        { s with approvals := live, resolved := resolved }
    else some { s with approvals := live }
  else none

def step (s : StreamState) : StreamInput → Option StreamState
  | .toggled enabled =>
      if enabled = s.enabled then none
      else if enabled then some { s with enabled := true }.connect
      else some { s with enabled := false, connection := .closed, source := none, retry := none }
  | .opened =>
      if s.source = some .connecting then
        some { s with source := some .open, attempt := 0, connection := .open }
      else none
  | .received message now =>
      if s.source = some .open then page.handle s message now else none
  | .failed =>
      if s.source = some .connecting ∨ s.source = some .open then some s.onerror else none
  | .retries => if s.retry.isSome then some { s with retry := none }.connect else none
  | .ages now => if s.approvals.isEmpty then none else page.ageOut s now
  | .markResolved id how => some (s.markResolved id how)

/-! ## What an input brings and takes away -/

/-- The parsed data of a message of the type. -/
def told (type : Units) : StreamInput → Option Value
  | .received message _ => if message.type = type then page.parse message.data else none
  | _ => none

def thoughtOf : StreamInput → Option Thought
  | .received message now =>
      if message.type = units "thought" then
        (page.parse message.data).map fun payload => thought payload now
      else none
  | _ => none

/-- The request a message asks. -/
def asked : StreamInput → Option ApprovalRequest
  | .received message now =>
      if message.type = units "approval" then
        (page.parse message.data).bind fun payload => approval payload now
      else none
  | _ => none

/-- What a request is withdrawn by: another of its id, an answer, or the end of its time. -/
def keeps : StreamInput → ApprovalRequest → Bool
  | .ages now, a => page.isLive now a
  | .markResolved id _, a => !identical a.id (some (.str id))
  | .received message now, a =>
      (page.asked (.received message now)).all fun other => !identical a.id other.id
  | _, _ => true

end Page

section Runs

variable {page : Page} {s s' t : StreamState} {input : StreamInput} {inputs : List StreamInput}

/-! ## Connections -/

/-- No attempt is counted, and no timer armed. -/
def NeverRetries (s : StreamState) : Prop := s.attempt = 0 ∧ s.retry = none

theorem onerror_eq (first : s.attempt = 0) :
    s.onerror = { s with source := some .closed, connection := .unauthorized } := by
  unfold StreamState.onerror StreamState.connectionNeverOpened
  simp [first]

/-- What has to do with the connection is alike. -/
structure SameConnection (s s' : StreamState) : Prop where
  connection : s'.connection = s.connection
  attempt : s'.attempt = s.attempt
  source : s'.source = s.source
  retry : s'.retry = s.retry

/-- A listener only writes to the lists. -/
theorem lists_of_handle {message : Message} {now : Int}
    (handled : page.handle s message now = some s') : ∃ decisions thoughts approvals,
      s' = { s with decisions := decisions, thoughts := thoughts, approvals := approvals } := by
  unfold Page.handle at handled
  cases parsed : page.parse message.data with
  | none =>
      rw [parsed] at handled
      cases handled
      exact ⟨_, _, _, rfl⟩
  | some payload =>
      rw [parsed] at handled
      dsimp only at handled
      split_ifs at handled
      · cases handled
        exact ⟨_, _, _, rfl⟩
      · cases handled
        exact ⟨_, _, _, rfl⟩
      · obtain ⟨request, -, rfl⟩ := Option.map_eq_some_iff.mp handled
        exact ⟨_, _, _, rfl⟩
      · cases handled
        exact ⟨_, _, _, rfl⟩

theorem sameConnection_of_handle {message : Message} {now : Int}
    (handled : page.handle s message now = some s') : SameConnection s s' := by
  obtain ⟨_, _, _, rfl⟩ := lists_of_handle handled
  exact ⟨rfl, rfl, rfl, rfl⟩

/-- The parts of the age-out that came to its end. -/
structure AgedOut (page : Page) (now : Int) (s s' : StreamState) : Prop where
  connected : SameConnection s s'
  decisions : s'.decisions = s.decisions
  thoughts : s'.thoughts = s.thoughts
  approvals : s'.approvals = s.approvals.filter (page.isLive now)
  resolved : s'.resolved = s.resolved ∧ (∀ a ∈ s.approvals, page.isLive now a = true) ∨
    page.expire s.resolved (s.approvals.filter (page.isExpired now)) = some s'.resolved
  comparable : ∀ a ∈ s.approvals, (page.toNumber a.expiresAt).isSome = true

theorem agedOut_of_step {now : Int} (stepped : page.step s (.ages now) = some s') :
    AgedOut page now s s' := by
  rw [Page.step, Page.ageOut] at stepped
  dsimp only at stepped
  split_ifs at stepped with _ comparable shorter
  · obtain ⟨resolved, expires, rfl⟩ := Option.map_eq_some_iff.mp stepped
    exact ⟨⟨rfl, rfl, rfl, rfl⟩, rfl, rfl, rfl, .inr expires, List.all_eq_true.mp comparable⟩
  · cases stepped
    rw [not_not, List.length_filter_eq_length_iff] at shorter
    exact ⟨⟨rfl, rfl, rfl, rfl⟩, rfl, rfl, rfl, .inl ⟨rfl, shorter⟩,
      List.all_eq_true.mp comparable⟩

theorem NeverRetries.step (never : NeverRetries s) (stepped : page.step s input = some s') :
    NeverRetries s' := by
  obtain ⟨attempt, retry⟩ := never
  cases input with
  | toggled enabled =>
      rw [Page.step] at stepped
      split_ifs at stepped
      · cases stepped
        exact ⟨attempt, retry⟩
      · cases stepped
        exact ⟨attempt, rfl⟩
  | opened =>
      rw [Page.step] at stepped
      split_ifs at stepped
      cases stepped
      exact ⟨rfl, retry⟩
  | received message now =>
      rw [Page.step] at stepped
      split_ifs at stepped
      have same := sameConnection_of_handle stepped
      exact ⟨same.attempt.trans attempt, same.retry.trans retry⟩
  | failed =>
      rw [Page.step, onerror_eq attempt] at stepped
      split_ifs at stepped
      cases stepped
      exact ⟨attempt, retry⟩
  | retries =>
      rw [Page.step, retry] at stepped
      cases stepped
  | ages now =>
      have same := (agedOut_of_step stepped).connected
      exact ⟨same.attempt.trans attempt, same.retry.trans retry⟩
  | markResolved id how =>
      cases stepped
      exact ⟨attempt, retry⟩

theorem neverRetries_of_run (run : Run page.step (fun _ _ => True) .mounted inputs s) :
    NeverRetries s :=
  run.invariant (fun _ _ _ never _ stepped => never.step stepped) ⟨rfl, rfl⟩

def StreamInput.toggles : StreamInput → Bool
  | .toggled _ => true
  | _ => false

/-- The page is cut off since `s`: it shows no more than it did, and waits for nothing. -/
structure CutOff (s t : StreamState) : Prop where
  never : NeverRetries t
  connection : t.connection = .unauthorized
  source : t.source = some .closed
  decisions : t.decisions = s.decisions
  thoughts : t.thoughts = s.thoughts
  approvals : t.approvals.Sublist s.approvals

theorem CutOff.step (cut : CutOff s t) (stays : input.toggles = false)
    (stepped : page.step t input = some s') : CutOff s s' := by
  have never := cut.never.step stepped
  cases input with
  | toggled enabled => cases stays
  | opened => simp [Page.step, cut.source] at stepped
  | received message now => simp [Page.step, cut.source] at stepped
  | failed => simp [Page.step, cut.source] at stepped
  | retries => simp [Page.step, cut.never.2] at stepped
  | ages now =>
      have aged := agedOut_of_step stepped
      refine ⟨never, aged.connected.connection.trans cut.connection,
        aged.connected.source.trans cut.source, aged.decisions.trans cut.decisions,
        aged.thoughts.trans cut.thoughts, ?_⟩
      rw [aged.approvals]
      exact List.filter_sublist.trans cut.approvals
  | markResolved id how =>
      cases stepped
      exact { cut with never := never, approvals := List.filter_sublist.trans cut.approvals }

/-- After one failure the page is never told anything again, until it is left and come
back to. -/
theorem cutOff_of_failure {before after : List StreamInput}
    (run : Run page.step (fun _ _ => True) .mounted (before ++ .failed :: after) t)
    (stays : ∀ input ∈ after, input.toggles = false) :
    ∃ s, Run page.step (fun _ _ => True) .mounted before s ∧ CutOff s t := by
  obtain ⟨s, ran, rest⟩ := run.split
  refine ⟨s, ran, ?_⟩
  cases rest with
  | @cons _ s' _ _ _ _ stepped rest =>
      have never := (neverRetries_of_run ran).step stepped
      have failed : CutOff s s' := by
        rw [Page.step, onerror_eq (neverRetries_of_run ran).1] at stepped
        split_ifs at stepped
        cases stepped
        exact ⟨never, rfl, rfl, rfl, rfl, .refl _⟩
      clear run stepped never
      induction rest with
      | nil => exact failed
      | cons _ stepped _ ih =>
          obtain ⟨first, others⟩ := List.forall_mem_cons.mp stays
          exact ih others (failed.step first stepped)

/-- Data is an id, or an id and an expiry, and else a text.  An expiry that is a digit is the
digit, and any other is no number. -/
def samplePage : Page where
  parse data :=
    match data with
    | [id] => some (.obj [(units "id", .str [id])])
    | [id, expiry] => some (.obj [(units "id", .str [id]), (units "expiresAt", .str [expiry])])
    | text => some (.str text)
  number text :=
    match text with
    | [digit] => if 48 ≤ digit ∧ digit ≤ 57 then .finite (digit.toNat - 48) else .nan
    | _ => .nan
  string _ := none

/-- The ids that are texts. -/
def texts (values : List (Option Value)) : List Units :=
  values.filterMap fun value =>
    match value with
    | some (.str text) => some text
    | _ => none

/-- A connection that has shown a decision drops. -/
theorem cutOff_of_failure_dropped : ∃ s t : StreamState,
    s.connection = .open ∧ texts (s.decisions.map (field · (units "id"))) = [units "1"] ∧
      CutOff s t := by
  have ran : (replay samplePage.step (fun _ _ => True) .mounted
      ([.toggled true, .opened, .received ⟨units "decision", units "1"⟩ 0] ++
        .failed :: [.markResolved (units "2") .declined])).isSome = true := by
    decide +kernel
  obtain ⟨t, replayed⟩ := Option.isSome_iff_exists.mp ran
  obtain ⟨s, first, cut⟩ :=
    cutOff_of_failure (run_of_replay replayed) (by simp [StreamInput.toggles])
  have shown : (replay samplePage.step (fun _ _ => True) .mounted
      [.toggled true, .opened, .received ⟨units "decision", units "1"⟩ 0]).any fun s =>
        s.connection = .open ∧ texts (s.decisions.map (field · (units "id"))) = [units "1"] := by
    decide +kernel
  obtain ⟨s', replayed', state⟩ := (Option.any_eq_true _ _).mp shown
  obtain rfl := (run_of_replay replayed').target_unique first
  obtain ⟨open_, decisions⟩ := of_decide_eq_true state
  exact ⟨s', t, open_, decisions, cut⟩

/-! ## What is shown -/

/-- What one input makes of the lists. -/
structure Shows (page : Page) (s : StreamState) (input : StreamInput) (s' : StreamState) :
    Prop where
  decisions : s'.decisions =
      ((page.told (units "decision") input).toList ++ s.decisions).take MAX_ITEMS ∨
    s'.decisions = s.decisions ∧ page.told (units "decision") input = none
  thoughts : s'.thoughts = ((page.thoughtOf input).toList ++ s.thoughts).take MAX_ITEMS ∨
    s'.thoughts = s.thoughts ∧ page.thoughtOf input = none
  approvals : s'.approvals =
    Sifted.sift (fun input => (page.asked input).toList) page.keeps s.approvals input

/-- A request that was asked, and that nothing since has withdrawn. -/
def Pending (page : Page) (inputs : List StreamInput) (a : ApprovalRequest) : Prop :=
  ∃ before input after, inputs = before ++ input :: after ∧ page.asked input = some a ∧
    ∀ later ∈ after, page.keeps later a = true

/-- Their ids are told apart. -/
def Apart (a b : ApprovalRequest) : Prop := identical a.id b.id = false

/-- The one request, or two of one id. -/
def SameId (a b : ApprovalRequest) : Prop := a = b ∨ identical a.id b.id = true

theorem SameId.id_eq {a b : ApprovalRequest} (same : SameId a b) : a.id = b.id := by
  rcases same with rfl | same
  · rfl
  · exact (identical_eq_true_iff.mp same).1

/-- The request, or a later one of its id, had an expiry that is no number when requests
were aged out. -/
def Dropped (page : Page) (inputs : List StreamInput) (a : ApprovalRequest) : Prop :=
  ∃ before input after b now, inputs = before ++ input :: after ∧ page.asked input = some b ∧
    SameId a b ∧ page.toNumber b.expiresAt = some .nan ∧ .ages now ∈ after

theorem Dropped.concat {a : ApprovalRequest} (dropped : Dropped page inputs a)
    (last : StreamInput) : Dropped page (inputs ++ [last]) a := by
  obtain ⟨before, input, after, b, now, rfl, ask, same, expiry, aged⟩ := dropped
  exact ⟨before, input, after ++ [last], b, now, by rw [List.append_assoc, List.cons_append], ask,
    same, expiry, List.mem_append_left _ aged⟩

end Runs

end Console

end AgentProof
