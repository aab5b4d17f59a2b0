import AgentProof.Api.ServerSteps
import AgentProof.Api.Stream

/-!
# What an open tab reads

The server with the wire of its event stream.  Whatever its requests do, and in
whatever order, a tab that is attached reads the last fifty of the events that had
been published when it came, and all that were published since: none is lost, none
is shown twice, and none is made up by what stands in another.
-/

namespace AgentProof

namespace Api

open Runs Sdk ServerSentEvents

variable {M Payload : Type}

/-- An event of the server as the stream is handed it. -/
def onWire (shown : StreamData → Option Redaction.LogValue) (event : StreamEvent) :
    Stream.StreamEvent := ⟨event.type, shown event.data⟩

/-- The calls of the stream that a request's effects are. -/
def streamCall (shown : StreamData → Option Redaction.LogValue) (i : Nat) :
    Effect → Option Stream.StreamCall
  | .publish event => some (.publish (onWire shown event))
  | .subscribe => some (.subscribe i)
  | .unsubscribe => some (.close i)
  | _ => none

variable [DecidableEq M]

/-- Which request an event of the server moves, and with what effects. -/
def effectsOf (o : ServerOptions M Payload) (s : Server M) (e : ServerEvent M) :
    Option (Nat × List Effect) :=
  match e.happening with
  | .arrives request => some (s.requests.length, (arrive o s e.now request).2)
  | .answers i answer =>
      s.requests[i]?.bind fun served =>
        (advance o s e.now e.random served.1 served.2 answer).map fun next => (i, next.2)

structure Wired (M : Type) where
  server : Server M
  wire : Stream.EventStream

inductive WireEvent (M : Type)
  | server (event : ServerEvent M)
  | heartbeat (client : Nat)

namespace Wired

def step (o : ServerOptions M Payload) (shown : StreamData → Option Redaction.LogValue)
    (s : Wired M) : WireEvent M → Option (Wired M)
  | .server e =>
      match Server.step o s.server e, effectsOf o s.server e with
      | some server, some (i, effects) =>
          some ⟨server, (effects.filterMap (streamCall shown i)).foldl .apply s.wire⟩
      | _, _ => none
  | .heartbeat client => some { s with wire := s.wire.apply (.heartbeat client) }

/-- The heartbeat of a subscriber stops when its response closes. -/
def Meets (s : Wired M) : WireEvent M → Prop
  | .heartbeat client => client ∈ s.wire.clients
  | .server _ => True

instance (s : Wired M) : ∀ event, Decidable (Meets s event)
  | .heartbeat _ => inferInstanceAs (Decidable (_ ∈ _))
  | .server _ => .isTrue trivial

def started (policy : ResolvedPolicy) (file : Option PolicyDocument) : Wired M :=
  ⟨.started policy file, .opened 50⟩

end Wired

/-! ## The server's own stream -/

section

variable {o : ServerOptions M Payload} {shown : StreamData → Option Redaction.LogValue}
  {s s' : Server M} {e : ServerEvent M} {i : Nat}

omit [DecidableEq M] in
theorem clients_apply (s : Server M) (effect : Effect) :
    (s.apply i effect).stream.clients =
      match effect with
      | .subscribe => s.stream.clients ++ [i]
      | .unsubscribe => s.stream.clients.erase i
      | _ => s.stream.clients := by
  cases effect with
  | settle id outcome =>
      rw [Server.apply]
      split <;> rfl
  | _ => rfl

omit [DecidableEq M] in
/-- The subscribers on the wire are the server's. -/
theorem clients_applyAll (s : Server M) (wire : Stream.EventStream)
    (same : wire.clients = s.stream.clients) (effects : List Effect) :
    ((effects.filterMap (streamCall shown i)).foldl Stream.EventStream.apply wire).clients =
      (s.applyAll i effects).stream.clients := by
  induction effects generalizing s wire with
  | nil => exact same
  | cons effect rest ih =>
      rw [Server.applyAll_cons, List.filterMap_cons]
      have kept := clients_apply (i := i) s effect
      cases effect with
      | publish event =>
          exact ih _ _ (Stream.EventStream.clients_publish.trans (same.trans kept.symm))
      | subscribe =>
          refine ih _ _ (Stream.EventStream.clients_subscribe.trans ?_)
          rw [same, kept]
      | unsubscribe => exact ih _ _ ((congrArg (List.erase · i) same).trans kept.symm)
      | _ => exact ih _ _ (same.trans kept.symm)

omit [DecidableEq M] in
theorem published_calls (effects : List Effect) :
    Stream.published (effects.filterMap (streamCall shown i)) =
      (effects.filterMap Effect.event).map (onWire shown) := by
  induction effects with
  | nil => rfl
  | cons effect rest ih =>
      cases effect with
      | publish event => exact congrArg _ ih
      | _ => exact ih

/-- An effect attaches a subscriber. -/
def Effect.attaches : Effect → Option Unit
  | subscribe => some ()
  | _ => none

omit [DecidableEq M] in
theorem PricedStep.attaches {now : Nat} {random : Text} {request : Request M}
    {before : Option PricedCall} {after : PricedCall} {effects : List Effect}
    (step : PricedStep o s now random request before after effects) :
    effects.filterMap Effect.attaches = [] := by
  cases step with
  | concludes => exact (List.filterMap_append ..).trans (filterMap_publishAudit _ _ _ _ _ _ fun _ => rfl)
  | resolves => exact (List.filterMap_append ..).trans (filterMap_publishAudit _ _ _ _ _ _ fun _ => rfl)
  | settles => exact filterMap_publishAudit _ _ _ _ _ _ fun _ => rfl
  | _ => rfl

/-- Only a request that comes in attaches a subscriber. -/
theorem RequestStep.attaches {now : Nat} {random : Text} {request : Request M}
    {before : Option (Phase M × Answer M)} {after : Phase M} {effects : List Effect}
    (step : RequestStep o s now random request before after effects) :
    effects.filterMap Effect.attaches = [] ∨ before = none ∧ effects = [.subscribe] := by
  cases step with
  | subscribes => exact .inr ⟨rfl, rfl⟩
  | enters _ step => exact .inl step.attaches
  | goesOn step => exact .inl step.attaches
  | _ => exact .inl rfl

/-- A step of the server, as its stream sees it. -/
structure Streams (shown : StreamData → Option Redaction.LogValue) (s : Server M) (s' : Server M) (i : Nat) (effects : List Effect) : Prop where
  published : s'.published = s.published ++ (effects.filterMap Effect.event).map (Prod.mk i)
  clients : ∀ wire : Stream.EventStream, wire.clients = s.stream.clients →
    ((effects.filterMap (streamCall shown i)).foldl Stream.EventStream.apply wire).clients =
      s'.stream.clients
  more : s.requests.length ≤ s'.requests.length
  attaches : effects.filterMap Effect.attaches = [] ∨
    i = s.requests.length ∧ effects = [.subscribe] ∧ s.requests.length < s'.requests.length

omit [DecidableEq M] in
theorem length_applyAll (s : Server M) (effects : List Effect) :
    (s.applyAll i effects).requests.length = s.requests.length := by
  induction effects generalizing s with
  | nil => rfl
  | cons effect rest ih =>
      rw [Server.applyAll_cons, ih]
      cases effect with
      | settle id outcome =>
          rw [Server.apply]
          split
          · exact List.length_modify _ _ _
          · rfl
      | _ => rfl

theorem streams_of_step (stepped : Server.step o s e = some s') :
    ∃ i effects, effectsOf o s e = some (i, effects) ∧ Streams shown s s' i effects := by
  unfold Server.step at stepped
  unfold effectsOf
  cases event : e.happening with
  | arrives request =>
      simp only [event] at stepped
      cases Option.some.inj stepped
      have arrives : RequestStep o s e.now e.random request none (arrive o s e.now request).1
          (arrive o s e.now request).2 := arrive_step request
      have grown : ((s.receive request (arrive o s e.now request).1).applyAll s.requests.length
          (arrive o s e.now request).2).requests.length = s.requests.length + 1 := by
        rw [length_applyAll, Server.receive, List.length_append, List.length_singleton]
      refine ⟨_, _, rfl, ?_, fun wire same => clients_applyAll (s.receive request _) wire same _, ?_, ?_⟩
      · exact Server.published_applyAll
      · omega
      · refine arrives.attaches.imp_right ?_
        rintro ⟨-, subscribes⟩
        exact ⟨rfl, subscribes, by omega⟩
  | answers i answer =>
      simp only [event] at stepped
      cases at_i : s.requests[i]? with
      | none =>
          simp only [at_i] at stepped
          cases stepped
      | some served =>
          simp only [at_i] at stepped
          obtain ⟨next, advanced, rfl⟩ := Option.map_eq_some_iff.mp stepped
          have kept : ((s.become i served.1 next.1).applyAll i next.2).requests.length =
              s.requests.length := by
            rw [length_applyAll, Server.become, List.length_set]
          simp only [at_i, Option.bind_some, advanced, Option.map_some]
          refine ⟨_, _, rfl, ?_, fun wire same => clients_applyAll (s.become i served.1 _) wire same _,
            ?_, ?_⟩
          · exact Server.published_applyAll
          · omega
          · refine (advance_step advanced).attaches.imp_right ?_
            rintro ⟨nothing, -⟩
            cases nothing

end

/-! ## The wire beside the server -/

namespace Wired

variable {o : ServerOptions M Payload} {shown : StreamData → Option Redaction.LogValue}
  {s t : Wired M} {client : Nat}

/-- The wire has the server's subscribers, all of whom are requests it has had. -/
structure Fits (s : Wired M) : Prop where
  clients : s.wire.clients = s.server.stream.clients
  known : ∀ client ∈ s.wire.written.map Prod.fst, client < s.server.requests.length

/-- From `s`, the calls lead the wire to that of `t`, and are what the server has published. -/
structure Follows (shown : StreamData → Option Redaction.LogValue) (s : Wired M)
    (calls : List Stream.StreamCall) (t : Wired M) : Prop where
  run : Run Stream.EventStream.step Stream.EventStream.Meets s.wire calls t.wire
  published : ∃ more, t.server.published = s.server.published ++ more ∧
    Stream.published calls = more.map fun entry => onWire shown entry.2
  fits : t.Fits

omit [DecidableEq M] in
theorem Follows.append {u : Wired M} {calls more : List Stream.StreamCall}
    (first : Follows shown s calls t) (second : Follows shown t more u) :
    Follows shown s (calls ++ more) u := by
  obtain ⟨early, all, events⟩ := first.published
  obtain ⟨late, all', events'⟩ := second.published
  refine ⟨first.run.append second.run, ⟨early ++ late, ?_, ?_⟩, second.fits⟩
  · rw [all', all, List.append_assoc]
  · rw [List.map_append, ← events, ← events']
    exact List.filterMap_append

/-- Calls that neither subscribe nor are heartbeats are made whenever they come. -/
theorem run_of_unguarded {calls : List Stream.StreamCall} (wire : Stream.EventStream)
    (unguarded : ∀ call ∈ calls, ∀ wire, Stream.EventStream.Meets wire call) :
    Run Stream.EventStream.step Stream.EventStream.Meets wire calls (calls.foldl .apply wire) := by
  induction calls generalizing wire with
  | nil => exact .nil
  | cons call rest ih =>
      obtain ⟨first, others⟩ := List.forall_mem_cons.mp unguarded
      exact .cons (first wire) rfl (ih _ others)

theorem unguarded_of_attaches {effects : List Effect} {i : Nat}
    (nobody : effects.filterMap Effect.attaches = []) :
    ∀ call ∈ effects.filterMap (streamCall shown i), ∀ wire, Stream.EventStream.Meets wire call := by
  intro call mem wire
  obtain ⟨effect, inside, made⟩ := List.mem_filterMap.mp mem
  have silent := List.filterMap_eq_nil_iff.mp nobody effect inside
  cases effect with
  | subscribe => cases silent
  | publish event =>
      cases made
      trivial
  | unsubscribe =>
      cases made
      trivial
  | _ => cases made

/-- Whom the calls write to was known, or has just subscribed. -/
theorem known_of_run {calls : List Stream.StreamCall} {wire wire' : Stream.EventStream} {n : Nat}
    (run : Run Stream.EventStream.step Stream.EventStream.Meets wire calls wire')
    (wellformed : wire.Wellformed) (known : ∀ client ∈ wire.written.map Prod.fst, client < n)
    (bounded : ∀ client, .subscribe client ∈ calls → client < n) :
    ∀ client ∈ wire'.written.map Prod.fst, client < n := by
  induction run with
  | nil => exact known
  | @cons wire next last call calls meets stepped rest ih =>
      obtain rfl := Stream.EventStream.step_eq_some stepped
      refine ih (wellformed.apply meets) (fun client mem => ?_) fun client mem =>
        bounded client (List.mem_cons_of_mem _ mem)
      rcases Stream.EventStream.receivers_apply mem with before | attached | rfl | rfl
      · exact known client before
      · exact known client (wellformed.greeted client attached)
      · exact bounded client List.mem_cons_self
      · exact known client (wellformed.greeted client meets)

omit [DecidableEq M] in
theorem Fits.follows {server : Server M} {i : Nat} {effects : List Effect}
    (fits : s.Fits) (wellformed : s.wire.Wellformed)
    (streams : Streams shown s.server server i effects) :
    Follows shown s (effects.filterMap (streamCall shown i))
      ⟨server, (effects.filterMap (streamCall shown i)).foldl .apply s.wire⟩ := by
  have run : Run Stream.EventStream.step Stream.EventStream.Meets s.wire
      (effects.filterMap (streamCall shown i))
      ((effects.filterMap (streamCall shown i)).foldl .apply s.wire) := by
    rcases streams.attaches with nobody | ⟨new, rfl, -⟩
    · exact run_of_unguarded s.wire (unguarded_of_attaches nobody)
    · refine .cons (fun mem => ?_) rfl .nil
      rw [new] at mem
      exact lt_irrefl _ (fits.known _ mem)
  refine ⟨run, ⟨_, streams.published, ?_⟩, ⟨streams.clients s.wire fits.clients, ?_⟩⟩
  · rw [published_calls, List.map_map]
    rfl
  · refine known_of_run run wellformed
      (fun client mem => (fits.known client mem).trans_le streams.more) ?_
    intro client mem
    obtain ⟨effect, inside, made⟩ := List.mem_filterMap.mp mem
    rcases streams.attaches with nobody | ⟨rfl, rfl, more⟩
    · have silent := List.filterMap_eq_nil_iff.mp nobody effect inside
      cases effect with
      | subscribe => cases silent
      | _ => cases made
    · rw [List.mem_singleton] at inside
      subst inside
      cases made
      exact more

/-- A run of the server is a run of its stream. -/
theorem follows_of_run {events : List (WireEvent M)} (fits : s.Fits)
    (wellformed : s.wire.Wellformed) (run : Run (step o shown) Meets s events t) :
    ∃ calls, Follows shown s calls t := by
  induction run with
  | nil => exact ⟨[], .nil, ⟨[], (List.append_nil _).symm, rfl⟩, fits⟩
  | @cons s s' t event events meets stepped rest ih =>
      obtain ⟨first, follows⟩ : ∃ calls, Follows shown s calls s' := by
        cases event with
        | server e =>
            rw [step] at stepped
            split at stepped
            · next server i effects moved told =>
                cases Option.some.inj stepped
                obtain ⟨_, _, told', streams⟩ := @streams_of_step _ _ _ o shown _ _ _ moved
                cases told.symm.trans told'
                exact ⟨_, fits.follows wellformed streams⟩
            · cases stepped
        | heartbeat client =>
            cases Option.some.inj stepped
            have beats : Run Stream.EventStream.step Stream.EventStream.Meets s.wire
                [.heartbeat client] (s.wire.apply (.heartbeat client)) := .cons meets rfl .nil
            refine ⟨_, beats, ⟨[], (List.append_nil _).symm, rfl⟩, fits.clients, ?_⟩
            exact known_of_run beats wellformed fits.known (by simp)
      obtain ⟨later, further⟩ := ih follows.fits (wellformed.of_run follows.run)
      exact ⟨first ++ later, follows.append further⟩

omit [DecidableEq M] in
theorem started_fits (policy : ResolvedPolicy) (file : Option PolicyDocument) :
    (started policy file : Wired M).Fits :=
  ⟨rfl, fun _ mem => absurd mem List.not_mem_nil⟩

/-- A tab that shows a session subscribes where it comes in. -/
theorem Fits.subscribes {e : ServerEvent M} {request : Request M} (fits : s.Fits)
    (wellformed : s.wire.Wellformed) (arrives : e.happening = .arrives request)
    (route : request.route = .stream) (session : o.hasDashboardSession request = true)
    (stepped : step o shown s (.server e) = some t) :
    Follows shown s [.subscribe s.server.requests.length] t := by
  have subscribes : effectsOf o s.server e = some (s.server.requests.length, [.subscribe]) := by
    unfold effectsOf
    rw [arrives]
    dsimp only
    rw [arrive, route]
    dsimp only
    rw [if_pos session]
  rw [step] at stepped
  split at stepped
  · next server i effects moved told =>
      cases Option.some.inj stepped
      obtain ⟨_, _, told', streams⟩ := @streams_of_step _ _ _ o shown _ _ _ moved
      cases told.symm.trans told'
      cases told.symm.trans subscribes
      exact fits.follows wellformed streams
  · cases stepped

/-- While a tab is attached, and however its text is cut on the way, what it reads are the
last fifty events from before it came and all those published since. -/
theorem attached_reads {policy : ResolvedPolicy} {file : Option PolicyDocument}
    {before after : List (WireEvent M)} {e : ServerEvent M} {request : Request M}
    {s₁ s₂ s : Wired M} {chunks : List Redaction.Units}
    (ran : Run (step o shown) Meets (started policy file) before s₁)
    (arrives : e.happening = .arrives request) (route : request.route = .stream)
    (session : o.hasDashboardSession request = true)
    (stepped : step o shown s₁ (.server e) = some s₂)
    (rest : Run (step o shown) Meets s₂ after s)
    (attached : s₁.server.requests.length ∈ s.server.stream.clients)
    (sent : chunks.flatten = s.wire.text s₁.server.requests.length) :
    (Reader.start.readChunks chunks).2 =
      (s₁.server.published.rtake 50 ++ s.server.published.drop s₁.server.published.length).map
        fun entry => Stream.message (onWire shown entry.2) := by
  have opened := Stream.EventStream.opened_wellformed 50
  obtain ⟨early, first⟩ := follows_of_run (started_fits policy file) opened ran
  have formed := opened.of_run first.run
  have second := first.fits.subscribes formed arrives route session stepped
  have formed' := formed.of_run second.run
  obtain ⟨late, third⟩ := follows_of_run second.fits formed' rest
  have attaches : s₁.server.requests.length ∈ s₂.wire.clients := by
    have run := second.run
    cases run with
    | cons meets stepped rest =>
        cases rest
        rw [Stream.EventStream.step_eq_some stepped, Stream.EventStream.clients_subscribe]
        exact List.mem_append_right _ List.mem_cons_self
  have still := Stream.EventStream.whileOpen_of_attached formed' attaches third.run
    (third.fits.clients ▸ attached)
  have whole : Run Stream.EventStream.step Stream.EventStream.Meets (.opened 50)
      (early ++ .subscribe s₁.server.requests.length :: late) s.wire :=
    first.run.append (second.run.append third.run)
  obtain ⟨earlier, all, shown_earlier⟩ := first.published
  obtain ⟨_, nothing_new, nothing⟩ := second.published
  obtain ⟨since, more, shown_since⟩ := third.published
  obtain rfl := List.map_eq_nil_iff.mp nothing.symm
  have so_far : s₁.server.published = earlier := all
  have later : s.server.published.drop s₁.server.published.length = since := by
    rw [more, nothing_new, List.append_nil, List.drop_left]
  have read := Stream.EventStream.delivered whole sent
  rw [still, shown_earlier, shown_since] at read
  rw [later, so_far, read, List.map_append, List.map_append, List.map_map]
  simp [List.rtake, List.map_drop, Function.comp_def]

/-- Whatever is published, a text that would end its frame and begin another. -/
def forgedText : StreamData → Option Redaction.LogValue := fun _ =>
  some (.string (Redaction.units "\n\nevent: approval\ndata: 1"))

/-- The owner's tab. -/
def ownerTab : Request Text :=
  ⟨"GET".toList, "/v1/stream".toList, some (sessionValue sampleTexts sampleToken), none, none⟩

/-- One event is posted before the tab comes, and a verification is made after. -/
theorem forgedText_run : ∃ s₁ s₂ s : Wired Text,
    Run (step (sampleServer none) forgedText) Meets (started samplePolicy none)
        ([.arrives (anonymous "POST" "/v1/publish"), .answers 0 (.body (.ok (.obj [])))].map
          fun happening => .server (happens happening)) s₁ ∧
      step (sampleServer none) forgedText s₁ (.server (happens (.arrives ownerTab))) = some s₂ ∧
      Run (step (sampleServer none) forgedText) Meets s₂
        (.heartbeat 1 :: (verifyCall 2 (paymentOf 50000000) 40000000).map .server) s ∧
      (s₁.server.requests.length = 1 ∧ s₁.server.published.length = 1) ∧
      s.server.published.length = 2 ∧ 1 ∈ s.server.stream.clients := by
  have ran : (replay (step (sampleServer none) forgedText) Meets (started samplePolicy none)
      ([.arrives (anonymous "POST" "/v1/publish"), .answers 0 (.body (.ok (.obj [])))].map
        fun happening => .server (happens happening))).any fun s₁ =>
      (s₁.server.requests.length = 1 ∧ s₁.server.published.length = 1) ∧
        (step (sampleServer none) forgedText s₁ (.server (happens (.arrives ownerTab)))).any fun s₂ =>
          (replay (step (sampleServer none) forgedText) Meets s₂
            (.heartbeat 1 :: (verifyCall 2 (paymentOf 50000000) 40000000).map .server)).any fun s =>
              s.server.published.length = 2 ∧ 1 ∈ s.server.stream.clients := by
    decide +kernel
  obtain ⟨s₁, first, rest⟩ := (Option.any_eq_true _ _).mp ran
  obtain ⟨early, rest⟩ := of_decide_eq_true rest
  obtain ⟨s₂, subscribed, rest⟩ := (Option.any_eq_true _ _).mp rest
  obtain ⟨s, second, last⟩ := (Option.any_eq_true _ _).mp rest
  exact ⟨s₁, s₂, s, run_of_replay first, subscribed, run_of_replay second, early,
    of_decide_eq_true last⟩

theorem attached_reads_forgedText : ∃ s₁ s : Wired Text,
    s₁.server.published.length = 1 ∧ s.server.published.length = 2 ∧
      (Reader.start.readChunks [(s.wire.text 1).take 40, (s.wire.text 1).drop 40]).2 =
        (s₁.server.published.rtake 50 ++ s.server.published.drop 1).map
          fun entry => Stream.message (onWire forgedText entry.2) := by
  obtain ⟨s₁, s₂, s, first, subscribed, second, ⟨one, early⟩, two, attached⟩ := forgedText_run
  have route : ownerTab.route = .stream := by decide +kernel
  have sent : [(s.wire.text 1).take 40, (s.wire.text 1).drop 40].flatten =
      s.wire.text s₁.server.requests.length := by simp [one]
  have reads := attached_reads first rfl route (by decide +kernel) subscribed second
    (by rwa [one]) sent
  rw [early] at reads
  exact ⟨s₁, s, early, two, reads⟩

end Wired

end Api

end AgentProof
