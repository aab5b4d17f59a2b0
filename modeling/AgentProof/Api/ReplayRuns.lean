import AgentProof.Api.Replay
import AgentProof.Lib.ExpiringSet

/-!
# The guard as an expiring set

Claims and releases in any order, at times that do not go back.  After each call the
guard's entries are the claims that counted at its last eviction, by their digests and
oldest first; so an eviction drops just what has expired, and a claim is refused just
while an earlier one counts.
-/

namespace AgentProof

namespace Api

open ExpiringSet

inductive ReplayCall
  | claim (payload : Text) (now : Int)
  | release (payload : Text)
  deriving DecidableEq, Repr

def ReplayCall.time? : ReplayCall → Option Int
  | claim _ now => some now
  | release _ => none

namespace ReplayGuard

variable (digest : Text → Text)

/-- `new ReplayGuard(options)`. -/
def fresh (ttlMs max : Option Int) : ReplayGuard := ⟨ttlMs, max, .empty⟩

/-- A call, and what it returned, next to the calls before it. -/
def serve (state : List (Event Text Int) × ReplayGuard) :
    ReplayCall → List (Event Text Int) × ReplayGuard
  | .claim payload now =>
      let (granted, guard) := state.2.claim digest payload now
      (state.1 ++ [.claimed payload now granted], guard)
  | .release payload => (state.1 ++ [.released payload], state.2.release digest payload)

def serveAll (guard : ReplayGuard) (calls : List ReplayCall) :
    List (Event Text Int) × ReplayGuard :=
  calls.foldl (serve digest) ([], guard)

/-- What the calls returned. -/
def history (guard : ReplayGuard) (calls : List ReplayCall) : List (Event Text Int) :=
  (serveAll digest guard calls).1

/-- The guard after the calls. -/
def after (guard : ReplayGuard) (calls : List ReplayCall) : ReplayGuard :=
  (serveAll digest guard calls).2

/-- Calls whose times do not go back, and of which no claim finds more than `max`
claims that count. -/
structure InLimits (guard : ReplayGuard) (calls : List ReplayCall) : Prop where
  ordered : (calls.filterMap ReplayCall.time?).Pairwise (· ≤ ·)
  room : ∀ i payload now, calls[i]? = some (.claim payload now) →
    ((live guard.ttl (guard.history digest (calls.take i)) now).length : Int) ≤ guard.capacity

/-- The entries are the claims that counted at a time. -/
def Mirrors (guard : ReplayGuard) (history : List (Event Text Int)) (now : Int) : Prop :=
  guard.seen.entries = (live guard.ttl history now).map fun claim => (digest claim.1, claim.2)

variable {digest} {guard : ReplayGuard} {calls : List ReplayCall} {payload : Text}
  {past : List (Event Text Int)} {now time : Int}

theorem serveAll_concat (calls : List ReplayCall) (call : ReplayCall) :
    serveAll digest guard (calls ++ [call]) = serve digest (serveAll digest guard calls) call := by
  rw [serveAll, List.foldl_append]
  rfl

/-- The history has the times of the calls. -/
theorem times_history (calls : List ReplayCall) :
    (guard.history digest calls).filterMap Event.time? = calls.filterMap ReplayCall.time? := by
  induction calls using List.reverseRecOn with
  | nil => rfl
  | append_singleton calls call ih =>
      have past : ((serveAll digest guard calls).1).filterMap Event.time? =
          calls.filterMap ReplayCall.time? := ih
      rw [history, serveAll_concat, List.filterMap_append, ← past]
      cases call <;> exact List.filterMap_append

theorem options_claim : (guard.claim digest payload now).2.ttlMs = guard.ttlMs ∧
    (guard.claim digest payload now).2.max = guard.max := by
  unfold claim
  dsimp only
  split_ifs <;> exact ⟨rfl, rfl⟩

theorem options_after (calls : List ReplayCall) :
    (guard.after digest calls).ttlMs = guard.ttlMs ∧ (guard.after digest calls).max = guard.max := by
  induction calls using List.reverseRecOn with
  | nil => exact ⟨rfl, rfl⟩
  | append_singleton calls call ih =>
      rw [after, serveAll_concat]
      cases call with
      | claim payload now => exact ⟨options_claim.1.trans ih.1, options_claim.2.trans ih.2⟩
      | release payload => exact ih

theorem ttl_after (calls : List ReplayCall) : (guard.after digest calls).ttl = guard.ttl := by
  rw [ttl, ttl, (options_after calls).1]

theorem capacity_after (calls : List ReplayCall) :
    (guard.after digest calls).capacity = guard.capacity := by
  rw [capacity, capacity, (options_after calls).2]

/-! ## One call -/

/-- With room for what counts, an eviction leaves just that. -/
theorem Mirrors.evict (mirrors : Mirrors digest guard past time) (forward : time ≤ now)
    (ordered : (past.filterMap Event.time?).Pairwise (· ≤ ·))
    (room : ((live guard.ttl past now).length : Int) ≤ guard.capacity) :
    Mirrors digest (guard.evict now) past now := by
  have sorted : (((live guard.ttl past time).map fun claim => (digest claim.1, claim.2)).map
      Prod.snd).Pairwise (· ≤ ·) := by
    rw [List.map_map]
    exact ordered.sublist ((List.filter_sublist.map Prod.snd).trans (outstanding_sublist past))
  have young : (guard.seen.dropWhile fun entry => now - entry.2 > guard.ttl).entries =
      (live guard.ttl past now).map fun claim => (digest claim.1, claim.2) := by
    have entries := dropWhile_expired guard.ttl now sorted
    rw [← mirrors] at entries
    refine entries.trans ?_
    rw [mirrors, List.filter_map, ← live_live forward]
    rfl
  have none_over : (((guard.seen.dropWhile fun entry => now - entry.2 > guard.ttl).entries.length -
      guard.capacity : Int)).toNat = 0 := by
    rw [young, List.length_map]
    exact Int.toNat_eq_zero.mpr (sub_nonpos.mpr room)
  rw [Mirrors, ReplayGuard.evict]
  dsimp only
  rw [none_over, OrderedMap.drop_zero]
  exact young

/-- A guard that shows what counts knows who is held. -/
theorem Mirrors.isSome_get_iff (injective : Function.Injective digest)
    (mirrors : Mirrors digest guard past now) :
    (guard.seen.get (digest payload)).isSome = true ↔ Held guard.ttl past payload now := by
  rw [OrderedMap.isSome_get_iff, OrderedMap.keys, mirrors, held_iff_mem_live, List.map_map,
    List.mem_map, List.mem_map]
  simp only [Function.comp_apply, injective.eq_iff]

/-- A claim is refused while an earlier one counts, and counts itself otherwise. -/
theorem Mirrors.claim (payload : Text) (injective : Function.Injective digest)
    (ttl : 0 ≤ guard.ttl)
    (mirrors : Mirrors digest guard past time) (forward : time ≤ now)
    (ordered : (past.filterMap Event.time?).Pairwise (· ≤ ·))
    (room : ((live guard.ttl past now).length : Int) ≤ guard.capacity) :
    ((guard.claim digest payload now).1 = false ↔ Held guard.ttl past payload now) ∧
      Mirrors digest (guard.claim digest payload now).2
        (past ++ [.claimed payload now (guard.claim digest payload now).1]) now := by
  have evicted := mirrors.evict forward ordered room
  have known : ((guard.evict now).seen.get (digest payload)).isSome = true ↔
      Held guard.ttl past payload now := evicted.isSome_get_iff injective
  unfold ReplayGuard.claim
  dsimp only
  split_ifs with held
  · refine ⟨iff_of_true rfl (known.mp held), ?_⟩
    rw [Mirrors, live, outstanding_concat]
    exact evicted
  · refine ⟨iff_of_false not_false fun still => held (known.mpr still), ?_⟩
    have absent : digest payload ∉ (guard.evict now).seen.keys := fun mem =>
      held ((OrderedMap.isSome_get_iff _).mpr mem)
    have itself : decide (now - now ≤ guard.ttl) = true := by
      rw [sub_self]
      exact decide_eq_true ttl
    have counts : live guard.ttl (past ++ [.claimed payload now true]) now =
        live guard.ttl past now ++ [(payload, now)] := by
      rw [live, outstanding_concat, settle, if_pos rfl, List.filter_append, List.filter_cons,
        if_pos itself, List.filter_nil]
      rfl
    calc ((guard.evict now).seen.set (digest payload) now).entries
        = (guard.evict now).seen.entries ++ [(digest payload, now)] :=
          OrderedMap.entries_set_of_absent now absent
      _ = (live guard.ttl past now ++ [(payload, now)]).map fun claim => (digest claim.1, claim.2) := by
          rw [evicted, List.map_append]
          rfl
      _ = _ := congrArg (List.map _) counts.symm

theorem Mirrors.release (injective : Function.Injective digest)
    (mirrors : Mirrors digest guard past time) :
    Mirrors digest (guard.release digest payload) (past ++ [.released payload]) time := by
  have kept : live guard.ttl (past ++ [.released payload]) time =
      (live guard.ttl past time).filter fun claim => digest claim.1 ≠ digest payload := by
    rw [live, live, outstanding_concat, settle, List.filter_filter, List.filter_filter]
    refine List.filter_congr fun claim _ => ?_
    simp only [ne_eq, injective.eq_iff]
    exact Bool.and_comm _ _
  calc (guard.seen.erase (digest payload)).entries
      = ((live guard.ttl past time).map fun claim => (digest claim.1, claim.2)).filter
          fun entry => entry.1 ≠ digest payload := congrArg (List.filter _) mirrors
    _ = ((live guard.ttl past time).filter fun claim => digest claim.1 ≠ digest payload).map
          fun claim => (digest claim.1, claim.2) := List.filter_map
    _ = _ := congrArg (List.map _) kept.symm

/-- An eviction leaves `max` entries at most, so a claim one more. -/
theorem length_claim_le (digest : Text → Text) (payload : Text) (now : Int)
    (some : 0 ≤ guard.capacity) :
    (((guard.claim digest payload now).2.seen.entries.length : Int)) ≤ guard.capacity + 1 := by
  have evicted : ((guard.evict now).seen.entries.length : Int) ≤ guard.capacity := by
    rw [evict, OrderedMap.drop, List.length_drop]
    omega
  unfold claim
  dsimp only
  split_ifs
  · dsimp only
    omega
  · have one := (guard.evict now).seen.length_set_le (digest payload) now
    dsimp only
    omega

/-! ## All calls -/

theorem InLimits.take (inLimits : InLimits digest guard calls) (n : Nat) :
    InLimits digest guard (calls.take n) where
  ordered := inLimits.ordered.sublist ((List.take_sublist n calls).filterMap _)
  room i payload now claims := by
    rw [List.getElem?_take] at claims
    split_ifs at claims with small
    have room := inLimits.room i payload now claims
    rwa [List.take_take, Nat.min_eq_left small.le]

/-- After calls up to some time, the entries are the claims that counted at one of them. -/
theorem mirrors_after (injective : Function.Injective digest) (ttl : 0 ≤ guard.ttl)
    (new : guard.seen.entries = []) (inLimits : InLimits digest guard calls) {bound : Int}
    (late : ∀ time ∈ calls.filterMap ReplayCall.time?, time ≤ bound) :
    ∃ time ≤ bound, Mirrors digest (guard.after digest calls) (guard.history digest calls) time := by
  induction calls using List.reverseRecOn generalizing bound with
  | nil => exact ⟨bound, le_rfl, new⟩
  | append_singleton calls call ih =>
      have before := inLimits.take calls.length
      rw [List.take_left] at before
      have ordered := inLimits.ordered
      rw [List.filterMap_append, List.pairwise_append] at ordered
      have past : (guard.history digest calls).filterMap Event.time? |>.Pairwise (· ≤ ·) := by
        rw [times_history]
        exact before.ordered
      rw [after, history, serveAll_concat]
      cases call with
      | claim payload now =>
          have now_late : now ≤ bound := late now (by simp [ReplayCall.time?])
          obtain ⟨time, forward, mirrors⟩ := ih before fun time mem =>
            ordered.2.2 time mem now (by simp [ReplayCall.time?])
          have room := inLimits.room calls.length payload now (by simp)
          rw [List.take_left] at room
          refine ⟨now, now_late, (mirrors.claim _ injective ?_ forward past ?_).2⟩
          · rwa [ttl_after]
          · rwa [ttl_after, capacity_after]
      | release payload =>
          obtain ⟨time, early, mirrors⟩ := ih before fun time mem =>
            late time (by rw [List.filterMap_append]; exact List.mem_append_left _ mem)
          exact ⟨time, early, mirrors.release injective⟩

/-- Each claim is refused just while an earlier one counts, and leaves at most one entry
more than `max`. -/
theorem claim_expires (injective : Function.Injective digest) {ttlMs max : Option Int}
    (ttl : 0 ≤ (fresh ttlMs max).ttl) (inLimits : InLimits digest (fresh ttlMs max) calls)
    {i : Nat} (claims : calls[i]? = some (.claim payload now)) :
    ((((fresh ttlMs max).after digest (calls.take i)).claim digest payload now).1 = false ↔
        Held (fresh ttlMs max).ttl ((fresh ttlMs max).history digest (calls.take i)) payload now) ∧
      (((fresh ttlMs max).after digest (calls.take (i + 1))).seen.entries.length : Int) ≤
        (fresh ttlMs max).capacity + 1 := by
  have before := inLimits.take i
  have room := inLimits.room i payload now claims
  have next : calls.take (i + 1) = calls.take i ++ [.claim payload now] := by
    rw [List.take_add_one, claims]
    rfl
  have late : ∀ time ∈ (calls.take i).filterMap ReplayCall.time?, time ≤ now := by
    have ordered := (inLimits.take (i + 1)).ordered
    rw [next, List.filterMap_append, List.pairwise_append] at ordered
    exact fun time mem => ordered.2.2 time mem now (by simp [ReplayCall.time?])
  obtain ⟨time, forward, mirrors⟩ := mirrors_after injective ttl rfl before late
  have past : ((fresh ttlMs max).history digest (calls.take i)).filterMap Event.time? |>.Pairwise
      (· ≤ ·) := by
    rw [times_history]
    exact before.ordered
  have claimed := mirrors.claim payload injective (by rwa [ttl_after]) forward past
    (by rwa [ttl_after, capacity_after])
  rw [ttl_after] at claimed
  have some : 0 ≤ ((fresh ttlMs max).after digest (calls.take i)).capacity := by
    rw [capacity_after]
    exact (Int.natCast_nonneg _).trans room
  have length := length_claim_le digest payload now some
  rw [capacity_after] at length
  refine ⟨claimed.1, ?_⟩
  rw [next, after, serveAll_concat]
  exact length

/-- A payment is claimed, claimed again too early, released, and one claim expires. -/
def sampleCalls : List ReplayCall :=
  [.claim ['a'] 0, .claim ['b'] 5, .claim ['a'] 8, .release ['b'], .claim ['b'] 9, .claim ['a'] 11]

theorem claim_expires_sampleCalls :
    ((((fresh (some 10) (some 2)).after id (sampleCalls.take 2)).claim id ['a'] 8).1 = false ↔
        Held 10 ((fresh (some 10) (some 2)).history id (sampleCalls.take 2)) ['a'] 8) ∧
      (((fresh (some 10) (some 2)).after id (sampleCalls.take 3)).seen.entries.length : Int) ≤
        2 + 1 := by
  have inLimits : InLimits id (fresh (some 10) (some 2)) sampleCalls := by
    refine ⟨by decide, fun i payload now claims => ?_⟩
    have small : i < 6 := (List.getElem?_eq_some_iff.mp claims).1
    interval_cases i <;> cases claims <;> decide
  exact claim_expires Function.injective_id (by decide) inLimits rfl

end ReplayGuard

end Api

end AgentProof
