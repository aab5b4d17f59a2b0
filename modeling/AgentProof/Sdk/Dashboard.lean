import AgentProof.Lib.Runs
import AgentProof.Sdk.Approval

/-!
# Requests on the dashboard

A `DashboardApprover` with the promise and the timer of every request made of
it.  Requests, clicks for any id and timers come in any order, and a timer fires
only while it is armed.  With distinct ids the pending table holds exactly the
requests that have not settled (`Sound`), so a late click, a second click and a
click for another id change nothing.
-/

namespace AgentProof

namespace Sdk

open Runs

/-- The timer and the promise of a request. -/
structure Ticket where
  id : Text
  armed : Bool
  /-- What the `resolve` of the promise was called with, in order. -/
  settled : List ApprovalOutcome

def Ticket.settle (t : Ticket) (outcome : ApprovalOutcome) : Ticket :=
  { t with armed := false, settled := t.settled ++ [outcome] }

/-- The approver, whose table holds the number of a request for its callback. -/
structure Dashboard where
  approver : DashboardApprover Nat
  tickets : List Ticket

inductive DashboardEvent
  | request (request : ApprovalRequest)
  | resolve (id : Text) (outcome : ApprovalOutcome)
  | fires (n : Nat)

namespace Dashboard

def new : Dashboard := ⟨⟨.empty⟩, []⟩

def request (s : Dashboard) (request : ApprovalRequest) : Dashboard where
  approver := s.approver.request request.id s.tickets.length
  tickets := s.tickets ++ [⟨request.id, true, []⟩]

/-- The callback of a request, and its timer: neither runs again. -/
def settle (s : Dashboard) (n : Nat) (outcome : ApprovalOutcome) : Dashboard :=
  match s.tickets[n]? with
  | none => s
  | some t => ⟨s.approver.delete t.id, s.tickets.set n (t.settle outcome)⟩

def resolve (s : Dashboard) (id : Text) (outcome : ApprovalOutcome) : Dashboard × Bool :=
  match s.approver.resolve id with
  | none => (s, false)
  | some n => (s.settle n outcome, true)

def pendingIds (s : Dashboard) : List Text := s.approver.pending.keys

def fires (s : Dashboard) (n : Nat) : Option Dashboard :=
  match s.tickets[n]? with
  | none => none
  | some t => if t.armed then some (s.settle n DashboardApprover.timeoutOutcome) else none

def step (s : Dashboard) : DashboardEvent → Option Dashboard
  | .request request => some (s.request request)
  | .resolve id outcome => some (s.resolve id outcome).1
  | .fires n => s.fires n

/-! ## A request that settles -/

section Settling

variable {s : Dashboard} {t : Ticket} {n : Nat} {outcome : ApprovalOutcome}

theorem getElem?_settle (at_n : s.tickets[n]? = some t) (m : Nat) :
    (s.settle n outcome).tickets[m]? =
      if m = n then some (t.settle outcome) else s.tickets[m]? := by
  have inside := (List.getElem?_eq_some_iff.mp at_n).1
  rw [Dashboard.settle, at_n, List.getElem?_set]
  grind

theorem map_id_settle (n : Nat) (outcome : ApprovalOutcome) :
    (s.settle n outcome).tickets.map Ticket.id = s.tickets.map Ticket.id := by
  cases at_n : s.tickets[n]? with
  | none => rw [Dashboard.settle, at_n]
  | some t =>
      refine List.ext_getElem? fun m => ?_
      rw [List.getElem?_map, getElem?_settle at_n, List.getElem?_map]
      split_ifs with here
      · rw [here, at_n]
        rfl
      · rfl

theorem mem_settle (at_n : s.tickets[n]? = some t) {u : Ticket}
    (mem : u ∈ (s.settle n outcome).tickets) : u ∈ s.tickets ∨ u = t.settle outcome := by
  rw [Dashboard.settle, at_n] at mem
  exact List.mem_or_eq_of_mem_set mem

theorem resolve_settle (at_n : s.tickets[n]? = some t) (id : Text) :
    (s.settle n outcome).approver.resolve id =
      if id = t.id then none else s.approver.resolve id := by
  rw [Dashboard.settle, at_n]
  exact OrderedMap.get_erase _ _ _

end Settling

/-! ## The requests that wait -/

/-- The request of number `n` and its id wait for an outcome. -/
def WaitsAt (s : Dashboard) (n : Nat) (id : Text) : Prop :=
  ∃ t, s.tickets[n]? = some t ∧ t.id = id ∧ t.settled = []

/-- A request of this id was made and has not settled. -/
def Waits (s : Dashboard) (id : Text) : Prop := ∃ t ∈ s.tickets, t.id = id ∧ t.settled = []

theorem waits_iff {s : Dashboard} {id : Text} : s.Waits id ↔ ∃ n, s.WaitsAt n id := by
  constructor
  · rintro ⟨t, mem, named⟩
    obtain ⟨n, at_n⟩ := List.mem_iff_getElem?.mp mem
    exact ⟨n, t, at_n, named⟩
  · rintro ⟨n, t, at_n, named⟩
    exact ⟨t, List.mem_of_getElem? at_n, named⟩

structure Sound (s : Dashboard) : Prop where
  distinct : (s.tickets.map Ticket.id).Nodup
  once : ∀ t ∈ s.tickets, t.settled.length ≤ 1
  armed : ∀ t ∈ s.tickets, t.armed = true ↔ t.settled = []
  waits : ∀ id n, s.approver.resolve id = some n ↔ s.WaitsAt n id

namespace Sound

variable {s s' : Dashboard} {id : Text} {outcome : ApprovalOutcome} {n : Nat}

theorem new : Sound Dashboard.new where
  distinct := List.nodup_nil
  once := by rintro t ⟨⟩
  armed := by rintro t ⟨⟩
  waits := by
    refine fun id n => ⟨fun found => (by cases found), ?_⟩
    rintro ⟨t, at_n, -⟩
    cases at_n

/-- One id is the id of one request. -/
theorem number_unique (sound : Sound s) {m : Nat} {t t' : Ticket} (at_n : s.tickets[n]? = some t)
    (at_m : s.tickets[m]? = some t') (same : t.id = t'.id) : n = m := by
  have ids {k : Nat} {u : Ticket} (at_k : s.tickets[k]? = some u) :
      (s.tickets.map Ticket.id)[k]? = some u.id := by
    rw [List.getElem?_map, at_k]
    rfl
  have inside : n < (s.tickets.map Ticket.id).length := (List.getElem?_eq_some_iff.mp (ids at_n)).1
  exact (List.getElem?_inj inside sound.distinct).mp (by rw [ids at_n, ids at_m, same])

theorem request (sound : Sound s) {request : ApprovalRequest}
    (fresh : request.id ∉ s.tickets.map Ticket.id) : Sound (s.request request) where
  distinct := by
    rw [Dashboard.request, List.map_append]
    exact List.nodup_append.mpr ⟨sound.distinct, List.nodup_singleton _, by
      rintro a mem b last rfl
      obtain rfl : a = request.id := List.mem_singleton.mp last
      exact fresh mem⟩
  once := by
    intro t mem
    rcases List.mem_append.mp mem with old | last
    · exact sound.once t old
    · rw [List.mem_singleton.mp last]
      exact Nat.zero_le 1
  armed := by
    intro t mem
    rcases List.mem_append.mp mem with old | last
    · exact sound.armed t old
    · rw [List.mem_singleton.mp last]
      exact iff_of_true rfl rfl
  waits := by
    intro id n
    have before := sound.waits id n
    unfold DashboardApprover.resolve at before
    unfold DashboardApprover.resolve WaitsAt Dashboard.request DashboardApprover.request
    dsimp only
    rw [OrderedMap.get_set, List.getElem?_append]
    split_ifs with named inside inside
    · subst named
      refine iff_of_false (fun last => ?_) ?_
      · exact absurd (Option.some.inj last) (Nat.ne_of_gt inside)
      · rintro ⟨t, at_n, same, -⟩
        exact fresh (same ▸ List.mem_map_of_mem (List.mem_of_getElem? at_n))
    · subst named
      constructor
      · intro last
        rw [← Option.some.inj last, Nat.sub_self]
        exact ⟨_, rfl, rfl, rfl⟩
      · rintro ⟨t, last, -⟩
        have zero : n - s.tickets.length = 0 := by
          have bound := (List.getElem?_eq_some_iff.mp last).1
          rw [List.length_singleton] at bound
          omega
        rw [show n = s.tickets.length by omega]
    · exact before
    · refine iff_of_false (fun found => ?_) ?_
      · obtain ⟨t, at_n, -⟩ := before.mp found
        exact inside (List.getElem?_eq_some_iff.mp at_n).1
      · rintro ⟨t, last, same, -⟩
        have only := List.mem_singleton.mp (List.mem_of_getElem? last)
        rw [only] at same
        exact named same.symm

/-- A request that waits settles, and waits no longer. -/
theorem settle (sound : Sound s) (waits : s.WaitsAt n id) (outcome : ApprovalOutcome) :
    Sound (s.settle n outcome) := by
  obtain ⟨t, at_n, rfl, unsettled⟩ := waits
  have settled : (t.settle outcome).settled ≠ [] := by
    rw [Ticket.settle, unsettled]
    exact List.cons_ne_nil _ _
  constructor
  · rw [map_id_settle]
    exact sound.distinct
  · intro u mem
    rcases mem_settle at_n mem with old | rfl
    · exact sound.once u old
    · rw [Ticket.settle, unsettled]
      exact Nat.le_refl 1
  · intro u mem
    rcases mem_settle at_n mem with old | rfl
    · exact sound.armed u old
    · simp [Ticket.settle]
  · intro id m
    have before := sound.waits id m
    unfold WaitsAt
    rw [resolve_settle at_n, getElem?_settle at_n]
    split_ifs with named here here
    · refine iff_of_false not_false ?_
      rintro ⟨u, last, -, still⟩
      exact settled (Option.some.inj last ▸ still)
    · refine iff_of_false not_false ?_
      rintro ⟨u, at_m, same, -⟩
      exact here (sound.number_unique at_m at_n (same.trans named))
    · refine iff_of_false (fun found => ?_) ?_
      · obtain ⟨u, at_m, same, -⟩ := before.mp found
        rw [here, at_n] at at_m
        cases at_m
        exact named same.symm
      · rintro ⟨u, last, -, still⟩
        exact settled (Option.some.inj last ▸ still)
    · exact before

end Sound

/-! ## One event -/

/-- The event settles the request of number `n` with `o`. -/
inductive Settles (s : Dashboard) (n : Nat) (o : ApprovalOutcome) : DashboardEvent → Prop
  | clicked {id : Text} (waits : s.WaitsAt n id) : Settles s n o (.resolve id o)
  | timedOut {id : Text} (waits : s.WaitsAt n id) (timeout : o = DashboardApprover.timeoutOutcome) :
      Settles s n o (.fires n)

/-- What an event may do. -/
inductive Moves (s : Dashboard) : DashboardEvent → Dashboard → Prop
  | made (request : ApprovalRequest) : Moves s (.request request) (s.request request)
  | idle {id : Text} (outcome : ApprovalOutcome) (absent : ¬ s.Waits id) :
      Moves s (.resolve id outcome) s
  | settled {e : DashboardEvent} {n : Nat} {o : ApprovalOutcome} {id : Text}
      (waits : s.WaitsAt n id) (settles : s.Settles n o e)
      (only : ∀ m outcome, s.Settles m outcome e → m = n ∧ outcome = o) : Moves s e (s.settle n o)

section Steps

variable {s s' : Dashboard} {e : DashboardEvent} {id : Text} {n : Nat}

/-- An id that waits is the id of one request. -/
theorem Sound.waitsAt_unique (sound : Sound s) {m : Nat} (waits : s.WaitsAt n id)
    (other : s.WaitsAt m id) : m = n := by
  obtain ⟨t, at_n, named, -⟩ := waits
  obtain ⟨t', at_m, named', -⟩ := other
  exact sound.number_unique at_m at_n (named'.trans named.symm)

theorem Sound.resolve_eq (sound : Sound s) (waits : s.WaitsAt n id) (outcome : ApprovalOutcome) :
    s.resolve id outcome = (s.settle n outcome, true) := by
  rw [Dashboard.resolve, (sound.waits id n).mpr waits]

theorem Sound.resolve_of_absent (sound : Sound s) (absent : ¬ s.Waits id)
    (outcome : ApprovalOutcome) : s.resolve id outcome = (s, false) := by
  rw [Dashboard.resolve]
  cases found : s.approver.resolve id with
  | none => rfl
  | some n => exact absurd (waits_iff.mpr ⟨n, (sound.waits id n).mp found⟩) absent

/-- The timer of a request fires only while the request waits. -/
theorem Sound.waitsAt_of_fires (sound : Sound s) (fires : s.fires n = some s') :
    ∃ id, s.WaitsAt n id ∧ s' = s.settle n DashboardApprover.timeoutOutcome := by
  rw [Dashboard.fires] at fires
  split at fires
  · cases fires
  · next t at_n =>
      split_ifs at fires with armed
      cases fires
      exact ⟨t.id, ⟨t, at_n, rfl, (sound.armed t (List.mem_of_getElem? at_n)).mp armed⟩, rfl⟩

theorem Sound.moves (sound : Sound s) (steps : s.step e = some s') : s.Moves e s' := by
  cases e with
  | request request =>
      cases steps
      exact .made request
  | resolve id outcome =>
      obtain rfl := Option.some.inj steps
      by_cases waiting : s.Waits id
      · obtain ⟨n, waits⟩ := waits_iff.mp waiting
        rw [sound.resolve_eq waits]
        refine .settled waits (.clicked waits) ?_
        rintro m _ ⟨other⟩
        exact ⟨sound.waitsAt_unique waits other, rfl⟩
      · rw [sound.resolve_of_absent waiting]
        exact .idle outcome waiting
  | fires n =>
      obtain ⟨id, waits, rfl⟩ := sound.waitsAt_of_fires steps
      refine .settled waits (.timedOut waits rfl) ?_
      rintro m outcome (_ | ⟨-, timeout⟩)
      exact ⟨rfl, timeout⟩

/-- The request of an event. -/
def requested : DashboardEvent → Option Text
  | .request request => some request.id
  | _ => none

theorem Settles.requested_eq {o : ApprovalOutcome} (settles : s.Settles n o e) :
    requested e = none := by
  cases settles with
  | clicked waits => rfl
  | timedOut waits timeout => rfl

/-- The ids of the requests are those that were asked for. -/
theorem Moves.ids (moves : s.Moves e s') :
    s'.tickets.map Ticket.id = s.tickets.map Ticket.id ++ [e].filterMap requested := by
  cases moves with
  | made request =>
      rw [Dashboard.request, List.map_append]
      rfl
  | idle outcome absent => exact (List.append_nil _).symm
  | settled waits settles only =>
      rw [map_id_settle, List.filterMap_cons_none settles.requested_eq, List.filterMap_nil,
        List.append_nil]

theorem Moves.sound (moves : s.Moves e s') (sound : Sound s)
    (fresh : (s.tickets.map Ticket.id ++ [e].filterMap requested).Nodup) : Sound s' := by
  cases moves with
  | made request =>
      refine sound.request fun mem => ?_
      exact (List.nodup_append.mp fresh).2.2 _ mem _ (List.mem_singleton_self _) rfl
  | idle outcome absent => exact sound
  | settled waits settles only => exact sound.settle waits _

/-- The promise of number `n` was settled with `o`. -/
def SettledWith (s : Dashboard) (n : Nat) (o : ApprovalOutcome) : Prop :=
  ∃ t, s.tickets[n]? = some t ∧ o ∈ t.settled

/-- A promise is settled with what it was settled with before, or by this event. -/
theorem Moves.settledWith_iff (moves : s.Moves e s') {o : ApprovalOutcome} :
    s'.SettledWith n o ↔ s.SettledWith n o ∨ s.Settles n o e := by
  cases moves with
  | made request =>
      have nothing : ¬ s.Settles n o (.request request) := nofun
      rw [SettledWith, SettledWith, Dashboard.request, List.getElem?_append, or_iff_left nothing]
      split_ifs with inside
      · rfl
      · rw [List.getElem?_eq_none (not_lt.mp inside)]
        refine iff_of_false ?_ (by rintro ⟨t, ⟨⟩, -⟩)
        rintro ⟨t, at_n, mem⟩
        rw [List.mem_singleton.mp (List.mem_of_getElem? at_n)] at mem
        cases mem
  | @idle id outcome absent =>
      have nothing : ¬ s.Settles n o (.resolve id outcome) := by
        rintro ⟨waits⟩
        exact absent (waits_iff.mpr ⟨n, waits⟩)
      exact (or_iff_left nothing).symm
  | @settled _ m outcome id waits settles only =>
      have same : s.Settles n o e ↔ n = m ∧ o = outcome := by
        refine ⟨only n o, ?_⟩
        rintro ⟨rfl, rfl⟩
        exact settles
      obtain ⟨t, at_m, -, unsettled⟩ := waits
      rw [SettledWith, SettledWith, getElem?_settle at_m, same]
      split_ifs with here
      · simp [here, at_m, Ticket.settle, unsettled]
      · simp [here]

end Steps

/-! ## Whole runs -/

section Sequences

variable {events : List DashboardEvent} {s : Dashboard}

/-- The events of a run, with nothing asked of them. -/
abbrev Leads (events : List DashboardEvent) (s : Dashboard) : Prop :=
  Run step (fun _ _ => True) new events s

/-- Somewhere among the events one settles the request of number `n` with `o`. -/
abbrev SettledBy (events : List DashboardEvent) (n : Nat) (o : ApprovalOutcome) : Prop :=
  Passes step (fun _ _ => True) (fun s e => s.Settles n o e) new events

structure Told (events : List DashboardEvent) (s : Dashboard) : Prop where
  sound : Sound s
  ids : s.tickets.map Ticket.id = events.filterMap requested
  settled : ∀ n o, s.SettledWith n o ↔ SettledBy events n o

theorem told_of_run (run : Leads events s) (distinct : (events.filterMap requested).Nodup) :
    Told events s := by
  have start : Told [] new := by
    refine ⟨.new, rfl, fun n o => iff_of_false ?_ not_passes_nil⟩
    rintro ⟨t, ⟨⟩, -⟩
  refine @Run.history _ _ _ _ _ _ _ (fun events s => (events.filterMap requested).Nodup →
    Told events s) run (fun _ => start) ?_ distinct
  intro before e s₁ s₂ ran told _ steps distinct
  rw [List.filterMap_append] at distinct
  have told := told (List.nodup_append.mp distinct).1
  have moves := told.sound.moves steps
  refine ⟨moves.sound told.sound (told.ids ▸ distinct), ?_, fun n o => ?_⟩
  · rw [moves.ids, told.ids, List.filterMap_append]
  · rw [moves.settledWith_iff, told.settled n o]
    exact ran.passes_concat.symm

theorem Told.settled_eq_iff (told : Told events s) {n : Nat} {t : Ticket} {o : ApprovalOutcome}
    (at_n : s.tickets[n]? = some t) : t.settled = [o] ↔ SettledBy events n o := by
  rw [← told.settled n o]
  have once := told.sound.once t (List.mem_of_getElem? at_n)
  constructor
  · intro only
    exact ⟨t, at_n, by rw [only]; exact List.mem_singleton_self o⟩
  · rintro ⟨t', at_n', mem⟩
    obtain rfl := Option.some.inj (at_n.symm.trans at_n')
    obtain ⟨first, only⟩ := List.length_eq_one_iff.mp
      (Nat.le_antisymm once (List.length_pos_of_mem mem))
    rw [only] at mem ⊢
    rw [List.mem_singleton.mp mem]

/-- An approved request was approved by a click for its id, after it was made, and its timer never
fires. -/
theorem Told.clicked (told : Told events s) (run : Leads events s)
    (distinct : (events.filterMap requested).Nodup) {n : Nat} {t : Ticket} {o : ApprovalOutcome}
    (at_n : s.tickets[n]? = some t) (settled : t.settled = [o]) (approved : o.approved = true) :
    (∃ before after, events = before ++ .resolve t.id o :: after ∧
        t.id ∈ before.filterMap requested) ∧ .fires n ∉ events := by
  have denies : ¬ o = DashboardApprover.timeoutOutcome := by
    rintro rfl
    cases approved
  constructor
  · obtain ⟨before, e, after, s₁, rfl, ran, settles⟩ := (told.settled_eq_iff at_n).mp settled
    rw [List.filterMap_append] at distinct
    have made := told_of_run ran (List.nodup_append.mp distinct).1
    cases settles with
    | timedOut waits timeout => exact absurd timeout denies
    | @clicked id waits =>
        obtain ⟨t₁, at_n₁, rfl, -⟩ := waits
        have ids : s.tickets.map Ticket.id = s₁.tickets.map Ticket.id ++
            (.resolve t₁.id o :: after).filterMap requested := by
          rw [told.ids, made.ids, List.filterMap_append]
        have inside : n < (s₁.tickets.map Ticket.id).length := by
          rw [List.length_map]
          exact (List.getElem?_eq_some_iff.mp at_n₁).1
        have named : t.id = t₁.id := by
          have at_ := congrArg (fun ids : List Text => ids[n]?) ids
          simp only [List.getElem?_append_left inside, List.getElem?_map, at_n, at_n₁,
            Option.map_some, Option.some.injEq] at at_
          exact at_
        refine ⟨before, after, by rw [named], ?_⟩
        rw [named, ← made.ids]
        exact List.mem_map_of_mem (List.mem_of_getElem? at_n₁)
  · intro mem
    obtain ⟨before, after, rfl⟩ := List.append_of_mem mem
    obtain ⟨s₁, ran, rest⟩ := run.split
    cases rest with
    | cons _ fires rest =>
        rw [List.filterMap_append] at distinct
        have made := told_of_run ran (List.nodup_append.mp distinct).1
        obtain ⟨id, waits, -⟩ := made.sound.waitsAt_of_fires fires
        have timeout : SettledBy (before ++ .fires n :: after) n DashboardApprover.timeoutOutcome :=
          ⟨before, _, after, s₁, rfl, ran, .timedOut waits rfl⟩
        rw [← told.settled_eq_iff at_n, settled] at timeout
        exact denies (List.cons.inj timeout).1

theorem Sound.mem_pendingIds (sound : Sound s) {id : Text} : id ∈ s.pendingIds ↔ s.Waits id := by
  rw [pendingIds, ← OrderedMap.isSome_get_iff, Option.isSome_iff_exists, waits_iff]
  exact exists_congr (sound.waits id)

/-- A click answers whether the id waits, and leaves every other request as it is. -/
theorem Sound.resolve_spec (sound : Sound s) (id : Text) (outcome : ApprovalOutcome) :
    ((s.resolve id outcome).2 = true ↔ s.Waits id) ∧
      ∀ (n : Nat) (t : Ticket), s.tickets[n]? = some t → t.id ≠ id →
        (s.resolve id outcome).1.tickets[n]? = some t := by
  by_cases waiting : s.Waits id
  · obtain ⟨m, waits⟩ := waits_iff.mp waiting
    rw [sound.resolve_eq waits]
    refine ⟨iff_of_true rfl waiting, fun n t at_n other => ?_⟩
    obtain ⟨t', at_m, named, -⟩ := waits
    rw [getElem?_settle at_m, if_neg, at_n]
    rintro rfl
    exact other (Option.some.inj (at_n.symm.trans at_m) ▸ named)
  · rw [sound.resolve_of_absent waiting]
    exact ⟨iff_of_false Bool.false_ne_true waiting, fun n t at_n _ => at_n⟩

/-- After any interleaving of requests with distinct ids, clicks and timers: every promise settled
at most once, with the outcome of the click that found it waiting or of its own timer; an approved
one was clicked, with approval, between its creation and its timeout; a click answers true exactly
for an id that waits and touches no other request; and the pending ids are those that wait. -/
theorem settles_once (run : Leads events s) (distinct : (events.filterMap requested).Nodup) :
    s.tickets.map Ticket.id = events.filterMap requested ∧
      (∀ (n : Nat) (t : Ticket), s.tickets[n]? = some t → t.settled.length ≤ 1 ∧
        (∀ o, t.settled = [o] ↔ SettledBy events n o) ∧
        ∀ o, t.settled = [o] → o.approved = true →
          (∃ before after, events = before ++ .resolve t.id o :: after ∧
            t.id ∈ before.filterMap requested) ∧ .fires n ∉ events) ∧
      (∀ id outcome, ((s.resolve id outcome).2 = true ↔ s.Waits id) ∧
        ∀ (n : Nat) (t : Ticket), s.tickets[n]? = some t → t.id ≠ id →
          (s.resolve id outcome).1.tickets[n]? = some t) ∧
      s.pendingIds.Nodup ∧ ∀ id, id ∈ s.pendingIds ↔ s.Waits id := by
  have told := told_of_run run distinct
  refine ⟨told.ids, fun n t at_n => ⟨told.sound.once t (List.mem_of_getElem? at_n),
    fun o => told.settled_eq_iff at_n, fun o settled approved => ?_⟩, told.sound.resolve_spec,
    s.approver.pending.nodup, fun id => told.sound.mem_pendingIds⟩
  exact told.clicked run distinct at_n settled approved

end Sequences

/-- A request for a payment of the native asset. -/
def clickedRequest (id : Text) : ApprovalRequest where
  id := id
  intent := ⟨.nativeTransfer, addressText 0x22, [], 1, [], some (addressText 0x22), 0,
    "native transfer".toList, ⟨addressText 0x22, "0x".toList, 1⟩⟩
  reason := "threshold".toList
  threshold := 0
  expiresAt := 120000

def ownerClick : ApprovalOutcome := ⟨true, none, "dashboard:owner".toList⟩

/-- Two requests, a click for a stranger, a double click and a late one. -/
def sampleClicks : List DashboardEvent :=
  [.request (clickedRequest "a".toList), .request (clickedRequest "b".toList),
    .resolve "c".toList ownerClick, .resolve "a".toList ownerClick, .resolve "a".toList ownerClick,
    .fires 1, .resolve "b".toList ownerClick]

def clickedDashboard : Dashboard where
  approver := ⟨.empty⟩
  tickets := [⟨"a".toList, false, [ownerClick]⟩,
    ⟨"b".toList, false, [DashboardApprover.timeoutOutcome]⟩]

theorem settles_once_sampleClicks :
    clickedDashboard.tickets.map Ticket.id = ["a".toList, "b".toList] ∧
      SettledBy sampleClicks 0 ownerClick ∧ .fires 0 ∉ sampleClicks := by
  have run : Leads sampleClicks clickedDashboard :=
    run_of_replay (by with_unfolding_all rfl)
  obtain ⟨ids, settled, -⟩ := settles_once run (by decide)
  obtain ⟨-, outcome, clicked⟩ := settled 0 ⟨"a".toList, false, [ownerClick]⟩ rfl
  exact ⟨ids, (outcome ownerClick).mp rfl, (clicked ownerClick rfl rfl).2⟩

end Dashboard

end Sdk

end AgentProof
