import AgentProof.Lib.OrderedMap
import AgentProof.Sdk.Text

/-!
# Payment replay guard

`x402/replay.ts`: the payments that have been claimed, by the digest of the
header they came in, with the time of the claim.  A claim evicts what is too
old or too much; within its limits the guard evicts nothing.
-/

namespace AgentProof

namespace Api

/-- Times are in milliseconds; `digest` is the hexadecimal SHA-256 of a text. -/
structure ReplayGuard where
  ttlMs : Option Int
  max : Option Int
  seen : OrderedMap Text Int

namespace ReplayGuard

variable (digest : Text → Text) (guard : ReplayGuard) (payload : Text) (now : Int)

def ttl : Int := guard.ttlMs.getD (15 * 60 * 1000)

def capacity : Int := guard.max.getD 10000

/-- Older entries come first, so the fresh ones are what is left. -/
def evict : ReplayGuard :=
  let fresh := guard.seen.dropWhile fun entry => now - entry.2 > guard.ttl
  { guard with seen := fresh.drop (fresh.entries.length - guard.capacity).toNat }

def claim : Bool × ReplayGuard :=
  let guard := guard.evict now
  let key := digest payload
  if (guard.seen.get key).isSome then (false, guard)
  else (true, { guard with seen := guard.seen.set key now })

def release : ReplayGuard := { guard with seen := guard.seen.erase (digest payload) }

/-- A claim at this time would find nothing to evict. -/
structure Within : Prop where
  fresh : ∀ entry ∈ guard.seen.entries, now - entry.2 ≤ guard.ttl
  room : (guard.seen.entries.length : Int) ≤ guard.capacity

instance : Decidable (guard.Within now) :=
  decidable_of_iff ((∀ entry ∈ guard.seen.entries, now - entry.2 ≤ guard.ttl) ∧
      (guard.seen.entries.length : Int) ≤ guard.capacity)
    ⟨fun ⟨fresh, room⟩ => ⟨fresh, room⟩, fun within => ⟨within.fresh, within.room⟩⟩

variable {digest guard payload now}

theorem evict_of_within (within : guard.Within now) : guard.evict now = guard := by
  have keeps : guard.seen.dropWhile (fun entry => now - entry.2 > guard.ttl) = guard.seen := by
    apply OrderedMap.dropWhile_eq_self
    intro entry mem
    have fresh := within.fresh entry mem
    exact decide_eq_false (not_lt.mpr fresh)
  have none_over : (guard.seen.entries.length - guard.capacity : Int).toNat = 0 :=
    Int.toNat_eq_zero.mpr (sub_nonpos.mpr within.room)
  unfold evict
  rw [keeps]
  dsimp only
  rw [none_over, OrderedMap.drop_zero]

theorem mem_keys_of_evict {key : Text} (mem : key ∈ (guard.evict now).seen.keys) :
    key ∈ guard.seen.keys := by
  have fewer : (guard.evict now).seen.entries <:+ guard.seen.entries :=
    (List.drop_suffix _ _).trans (List.dropWhile_suffix _)
  exact (fewer.sublist.map Prod.fst).subset mem

/-- Nobody holds the payment, so a claim succeeds whenever it is made. -/
theorem claim_of_not_mem (free : digest payload ∉ guard.seen.keys) :
    (guard.claim digest payload now).1 = true := by
  have still : digest payload ∉ (guard.evict now).seen.keys := fun mem =>
    free (mem_keys_of_evict mem)
  rw [← OrderedMap.get_eq_none_iff] at still
  simp [claim, still]

/-- Within its limits a claim looks the payment up, and adds it if it is not there. -/
theorem claim_of_within (within : guard.Within now) :
    guard.claim digest payload now =
      if digest payload ∈ guard.seen.keys then (false, guard)
      else (true, { guard with seen := guard.seen.set (digest payload) now }) := by
  unfold claim
  rw [evict_of_within within]
  simp only [OrderedMap.isSome_get_iff]

theorem mem_keys_release {key : Text} :
    key ∈ (guard.release digest payload).seen.keys ↔
      key ≠ digest payload ∧ key ∈ guard.seen.keys :=
  guard.seen.mem_keys_erase _ _

end ReplayGuard

end Api

end AgentProof
