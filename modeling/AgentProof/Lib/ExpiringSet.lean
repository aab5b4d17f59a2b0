import Mathlib.Tactic

/-!
# Expiring sets

A set whose members count for a while after they were added.  Its history is a
list of claims, granted or refused, and of releases; `outstanding` is what the
history left claimed, in the order of the claims.  `Held` says of a history that a
claim on a key still counts.  Where time goes forward, what has expired comes first
among the outstanding claims, so a set that drops from the front drops just that.
-/

namespace ExpiringSet

inductive Event (K T : Type*)
  | claimed (key : K) (time : T) (granted : Bool)
  | released (key : K)
  deriving DecidableEq, Repr

variable {K T : Type*}

/-- When a claim was made. -/
def Event.time? : Event K T → Option T
  | claimed _ time _ => some time
  | released _ => none

/-- A claim was granted less than `ttl` ago, and not released since. -/
def Held [Sub T] [LE T] (ttl : T) (history : List (Event K T)) (key : K) (now : T) : Prop :=
  ∃ before time after, history = before ++ .claimed key time true :: after ∧
    now - time ≤ ttl ∧ .released key ∉ after

variable [DecidableEq K]

/-- What one event makes of the outstanding claims. -/
def settle (claims : List (K × T)) : Event K T → List (K × T)
  | .claimed key time granted => if granted then claims ++ [(key, time)] else claims
  | .released key => claims.filter fun claim => claim.1 ≠ key

def outstanding (history : List (Event K T)) : List (K × T) := history.foldl settle []

section Outstanding

variable {history : List (Event K T)} {key : K} {time : T}

@[simp] theorem outstanding_nil : outstanding ([] : List (Event K T)) = [] := rfl

@[simp] theorem outstanding_concat (history : List (Event K T)) (event : Event K T) :
    outstanding (history ++ [event]) = settle (outstanding history) event := by
  rw [outstanding, List.foldl_append]
  rfl

omit [DecidableEq K] in
/-- A grant that stands is the last event, or stood and is not released by it. -/
theorem granted_concat_iff {event : Event K T} :
    (∃ before after, history ++ [event] = before ++ .claimed key time true :: after ∧
        .released key ∉ after) ↔
      event = .claimed key time true ∨ event ≠ .released key ∧
        ∃ before after, history = before ++ .claimed key time true :: after ∧
          .released key ∉ after := by
  constructor
  · rintro ⟨before, after, split, kept⟩
    rcases List.eq_nil_or_concat after with rfl | ⟨after, e, rfl⟩
    · exact .inl (List.cons.inj (List.append_inj' split rfl).2).1
    · rw [List.concat_eq_append, ← List.cons_append, ← List.append_assoc] at split
      obtain ⟨rfl, same⟩ := List.append_inj' split rfl
      obtain rfl := (List.cons.inj same).1
      rw [List.concat_eq_append, List.mem_append, List.mem_singleton, not_or] at kept
      exact .inr ⟨Ne.symm kept.2, before, after, rfl, kept.1⟩
  · rintro (rfl | ⟨still, before, after, rfl, kept⟩)
    · exact ⟨history, [], rfl, List.not_mem_nil⟩
    · refine ⟨before, after ++ [event], by rw [List.append_assoc, List.cons_append], ?_⟩
      rw [List.mem_append, List.mem_singleton, not_or]
      exact ⟨kept, Ne.symm still⟩

/-- An outstanding claim was granted, and not released since. -/
theorem mem_outstanding_iff :
    (key, time) ∈ outstanding history ↔
      ∃ before after, history = before ++ .claimed key time true :: after ∧
        .released key ∉ after := by
  induction history using List.reverseRecOn with
  | nil => simp
  | append_singleton history event ih =>
      rw [outstanding_concat, granted_concat_iff, ← ih]
      cases event with
      | claimed k t granted =>
          cases granted with
          | false => simp [settle]
          | true =>
              rw [settle, if_pos rfl, List.mem_append, List.mem_singleton, or_comm]
              simp [eq_comm]
      | released k => simp [settle, and_comm, @eq_comm _ k key]

/-- Outstanding claims stand in the order in which they were made. -/
theorem outstanding_sublist (history : List (Event K T)) :
    ((outstanding history).map Prod.snd).Sublist (history.filterMap Event.time?) := by
  induction history using List.reverseRecOn with
  | nil => exact .refl _
  | append_singleton history event ih =>
      rw [outstanding_concat, List.filterMap_append]
      cases event with
      | claimed k t granted =>
          cases granted with
          | false => exact ih.trans (List.sublist_append_left _ _)
          | true =>
              rw [settle, if_pos rfl, List.map_append]
              exact ih.append (.refl _)
      | released k =>
          rw [settle]
          exact ((List.filter_sublist.map Prod.snd).trans ih).trans (List.sublist_append_left _ _)

end Outstanding

/-! ## What still counts -/

variable [AddCommGroup T] [LinearOrder T] [IsOrderedAddMonoid T]

/-- The claims that count at a time. -/
def live (ttl : T) (history : List (Event K T)) (now : T) : List (K × T) :=
  (outstanding history).filter fun claim => now - claim.2 ≤ ttl

variable {ttl now later : T} {history : List (Event K T)} {key : K}

omit [IsOrderedAddMonoid T] in
theorem held_iff_mem_live : Held ttl history key now ↔ key ∈ (live ttl history now).map Prod.fst := by
  constructor
  · rintro ⟨before, time, after, split, fresh, kept⟩
    have granted : (key, time) ∈ outstanding history :=
      mem_outstanding_iff.mpr ⟨before, after, split, kept⟩
    exact List.mem_map.mpr
      ⟨(key, time), List.mem_filter.mpr ⟨granted, decide_eq_true fresh⟩, rfl⟩
  · intro mem
    obtain ⟨⟨k, time⟩, counts, rfl⟩ := List.mem_map.mp mem
    obtain ⟨granted, fresh⟩ := List.mem_filter.mp counts
    obtain ⟨before, after, split, kept⟩ := mem_outstanding_iff.mp granted
    exact ⟨before, time, after, split, of_decide_eq_true fresh, kept⟩

/-- What counts later counts already. -/
theorem live_live (forward : now ≤ later) :
    (live ttl history now).filter (fun claim => decide (later - claim.2 ≤ ttl)) =
      live ttl history later := by
  rw [live, live, List.filter_filter]
  refine List.filter_congr fun claim _ => ?_
  rw [Bool.and_eq_left_iff_imp]
  intro fresh
  exact decide_eq_true ((sub_le_sub_right forward _).trans (of_decide_eq_true fresh))

omit [DecidableEq K] in
/-- In the order of the claims the expired ones come first. -/
theorem dropWhile_expired (ttl now : T) {claims : List (K × T)}
    (ordered : (claims.map Prod.snd).Pairwise (· ≤ ·)) :
    claims.dropWhile (fun claim => decide (now - claim.2 > ttl)) =
      claims.filter fun claim => now - claim.2 ≤ ttl := by
  induction claims with
  | nil => rfl
  | cons claim rest ih =>
      rw [List.map_cons, List.pairwise_cons] at ordered
      by_cases expired : now - claim.2 > ttl
      · rw [List.dropWhile_cons, if_pos (decide_eq_true expired), ih ordered.2,
          List.filter_cons, if_neg fun fresh => not_le.mpr expired (of_decide_eq_true fresh)]
      · rw [List.dropWhile_cons, if_neg (by simpa using expired)]
        refine (List.filter_eq_self.mpr fun other mem => ?_).symm
        rcases List.mem_cons.mp mem with rfl | mem
        · simpa using expired
        · have younger := ordered.1 other.2 (List.mem_map_of_mem mem)
          exact decide_eq_true ((sub_le_sub_left younger now).trans (not_lt.mp expired))

end ExpiringSet
