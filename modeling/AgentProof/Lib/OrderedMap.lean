import Mathlib.Tactic

/-!
# Insertion-ordered maps

Finite maps that remember the order in which their keys were first set:
setting a present key keeps its place, erasing a key forgets it.  That no key
occurs twice is a field, so every lookup has at most one answer.
-/

/-- A finite map with its entries in insertion order. -/
structure OrderedMap (K V : Type*) where
  entries : List (K × V)
  nodup : (entries.map Prod.fst).Nodup
  deriving DecidableEq

namespace OrderedMap

variable {K V : Type*}

/-- The map without entries. -/
def empty : OrderedMap K V := ⟨[], List.nodup_nil⟩

def keys (m : OrderedMap K V) : List K := m.entries.map Prod.fst

@[simp] theorem entries_empty : (empty : OrderedMap K V).entries = [] := rfl

variable [DecidableEq K]

def get (m : OrderedMap K V) (k : K) : Option V := m.entries.lookup k

/-- Overwrite the entry of a key, or add one at the end. -/
def setEntry (k : K) (v : V) : List (K × V) → List (K × V)
  | [] => [(k, v)]
  | e :: rest => if e.1 = k then (k, v) :: rest else e :: setEntry k v rest

theorem map_fst_setEntry (k : K) (v : V) (es : List (K × V)) :
    (setEntry k v es).map Prod.fst =
      if k ∈ es.map Prod.fst then es.map Prod.fst else es.map Prod.fst ++ [k] := by
  induction es with
  | nil => rfl
  | cons e rest ih =>
      by_cases here : e.1 = k
      · simp [setEntry, here]
      · rw [setEntry, if_neg here, List.map_cons, ih, List.map_cons]
        have other : k ∈ e.1 :: rest.map Prod.fst ↔ k ∈ rest.map Prod.fst := by
          simp [Ne.symm here]
        simp only [other]
        split_ifs <;> rfl

def set (m : OrderedMap K V) (k : K) (v : V) : OrderedMap K V where
  entries := setEntry k v m.entries
  nodup := by
    rw [map_fst_setEntry]
    split_ifs with present
    · exact m.nodup
    · exact List.nodup_append.mpr ⟨m.nodup, List.nodup_singleton k, by
        rintro a mem b last rfl
        rw [List.mem_singleton] at last
        exact present (last ▸ mem)⟩

def erase (m : OrderedMap K V) (k : K) : OrderedMap K V where
  entries := m.entries.filter fun e => e.1 ≠ k
  nodup := (List.filter_sublist.map Prod.fst).nodup m.nodup

@[simp] theorem get_empty (k : K) : (empty : OrderedMap K V).get k = none := rfl

theorem lookup_cons_ite (k j : K) (w : V) (rest : List (K × V)) :
    ((j, w) :: rest).lookup k = if k = j then some w else rest.lookup k := by
  by_cases same : k = j
  · subst same
    rw [if_pos rfl, List.lookup_cons_self]
  · rw [if_neg same, List.lookup_cons, beq_eq_false_iff_ne.mpr same]

/-- Looking a key up behind entries that all have one value. -/
theorem lookup_map_append (k : K) (v : V) (ks : List K) (rest : List (K × V)) :
    ((ks.map fun j => (j, v)) ++ rest).lookup k = if k ∈ ks then some v else rest.lookup k := by
  induction ks with
  | nil => rfl
  | cons j later ih =>
      rw [List.map_cons, List.cons_append, lookup_cons_ite, ih]
      by_cases here : k = j
      · rw [if_pos here, if_pos (here ▸ List.mem_cons_self)]
      · simp only [List.mem_cons, here, false_or, if_false]

theorem lookup_setEntry (k k' : K) (v : V) (es : List (K × V)) :
    (setEntry k v es).lookup k' = if k' = k then some v else es.lookup k' := by
  induction es with
  | nil => rw [setEntry, lookup_cons_ite]
  | cons e rest ih =>
      obtain ⟨j, w⟩ := e
      rcases eq_or_ne j k with rfl | elsewhere
      · rw [setEntry, if_pos rfl, lookup_cons_ite, lookup_cons_ite]
        split_ifs <;> rfl
      · rw [setEntry, if_neg elsewhere, lookup_cons_ite, lookup_cons_ite, ih]
        split_ifs with atHead atKey
        · exact absurd (atHead.symm.trans atKey) elsewhere
        · rfl
        · rfl
        · rfl

theorem length_set_le (m : OrderedMap K V) (k : K) (v : V) :
    (m.set k v).entries.length ≤ m.entries.length + 1 := by
  have keys := congrArg List.length (map_fst_setEntry k v m.entries)
  rw [List.length_map] at keys
  rw [set, keys]
  split_ifs
  · rw [List.length_map]
    exact Nat.le_succ _
  · rw [List.length_append, List.length_map, List.length_singleton]

theorem get_set (m : OrderedMap K V) (k k' : K) (v : V) :
    (m.set k v).get k' = if k' = k then some v else m.get k' :=
  lookup_setEntry k k' v m.entries

@[simp] theorem get_set_self (m : OrderedMap K V) (k : K) (v : V) :
    (m.set k v).get k = some v := by
  rw [get_set, if_pos rfl]

theorem get_set_of_ne (m : OrderedMap K V) {k k' : K} (v : V) (other : k' ≠ k) :
    (m.set k v).get k' = m.get k' := by
  rw [get_set, if_neg other]

/-- A key's entry is the one a lookup finds. -/
theorem get_eq_some_iff (m : OrderedMap K V) {k : K} {v : V} :
    m.get k = some v ↔ (k, v) ∈ m.entries := by
  have nodup := m.nodup
  unfold get
  generalize m.entries = es at nodup ⊢
  induction es with
  | nil => simp
  | cons e rest ih =>
      obtain ⟨j, w⟩ := e
      rw [List.map_cons, List.nodup_cons] at nodup
      rw [lookup_cons_ite, List.mem_cons, Prod.mk.injEq]
      rcases eq_or_ne k j with rfl | other
      · have absent : (k, v) ∉ rest := fun mem => nodup.1 (List.mem_map.mpr ⟨(k, v), mem, rfl⟩)
        simp [absent, eq_comm]
      · simp [other, ih nodup.2]

theorem get_erase (m : OrderedMap K V) (k k' : K) :
    (m.erase k).get k' = if k' = k then none else m.get k' := by
  ext v
  rw [get_eq_some_iff, erase, List.mem_filter]
  split_ifs with here
  · simp [here]
  · rw [get_eq_some_iff]
    simp [here]

theorem get_eq_none_iff (m : OrderedMap K V) {k : K} : m.get k = none ↔ k ∉ m.keys := by
  constructor
  · intro absent mem
    obtain ⟨⟨j, v⟩, entry, rfl⟩ := List.mem_map.mp mem
    rw [(m.get_eq_some_iff).mpr entry] at absent
    cases absent
  · intro absent
    cases found : m.get k with
    | none => rfl
    | some v =>
        exact absurd (List.mem_map.mpr ⟨(k, v), (m.get_eq_some_iff).mp found, rfl⟩) absent

theorem isSome_get_iff (m : OrderedMap K V) {k : K} : (m.get k).isSome = true ↔ k ∈ m.keys := by
  rw [Option.isSome_iff_ne_none, Ne, get_eq_none_iff, not_not]

theorem setEntry_of_absent {k : K} {es : List (K × V)} (v : V) (absent : k ∉ es.map Prod.fst) :
    setEntry k v es = es ++ [(k, v)] := by
  induction es with
  | nil => rfl
  | cons e rest ih =>
      rw [List.map_cons, List.mem_cons, not_or] at absent
      rw [setEntry, if_neg (Ne.symm absent.1), ih absent.2, List.cons_append]

/-- A new key comes last. -/
theorem entries_set_of_absent {m : OrderedMap K V} {k : K} (v : V) (absent : k ∉ m.keys) :
    (m.set k v).entries = m.entries ++ [(k, v)] :=
  setEntry_of_absent v absent

theorem mem_keys_set (m : OrderedMap K V) (k j : K) (v : V) :
    j ∈ (m.set k v).keys ↔ j = k ∨ j ∈ m.keys := by
  have overwritten := m.get_set k j v
  by_cases here : j = k
  · rw [if_pos here] at overwritten
    rw [← not_iff_not, ← get_eq_none_iff, overwritten]
    simp [here]
  · rw [if_neg here] at overwritten
    rw [← not_iff_not, ← get_eq_none_iff, overwritten, get_eq_none_iff]
    simp [here]

theorem mem_keys_erase (m : OrderedMap K V) (k j : K) :
    j ∈ (m.erase k).keys ↔ j ≠ k ∧ j ∈ m.keys := by
  have forgotten := m.get_erase k j
  by_cases here : j = k
  · rw [if_pos here] at forgotten
    rw [← not_iff_not, ← get_eq_none_iff, forgotten]
    simp [here]
  · rw [if_neg here] at forgotten
    rw [← not_iff_not, ← get_eq_none_iff, forgotten, get_eq_none_iff]
    simp [here]

/-! ## Dropping the oldest entries -/

omit [DecidableEq K] in
theorem nodup_of_suffix {m : OrderedMap K V} {es : List (K × V)} (suffix : es <:+ m.entries) :
    (es.map Prod.fst).Nodup :=
  (suffix.sublist.map Prod.fst).nodup m.nodup

def dropWhile (m : OrderedMap K V) (p : K × V → Bool) : OrderedMap K V where
  entries := m.entries.dropWhile p
  nodup := nodup_of_suffix (List.dropWhile_suffix p)

def drop (m : OrderedMap K V) (n : Nat) : OrderedMap K V where
  entries := m.entries.drop n
  nodup := nodup_of_suffix (List.drop_suffix n m.entries)

omit [DecidableEq K] in
theorem dropWhile_eq_self {m : OrderedMap K V} {p : K × V → Bool}
    (none : ∀ e ∈ m.entries, p e = false) : m.dropWhile p = m := by
  cases m with
  | mk entries nodup =>
      cases entries with
      | nil => rfl
      | cons e rest =>
          have stops : p e = false := none e List.mem_cons_self
          simp [dropWhile, stops]

omit [DecidableEq K] in
@[simp] theorem drop_zero (m : OrderedMap K V) : m.drop 0 = m := rfl

end OrderedMap
