import AgentProof.Lib.OrderedMap

/-!
# Keyed sums

What a list of keyed amounts adds up to under each key, in whatever order it is
read; for the entries of a map this is the lookup.
-/

namespace KeyedSum

variable {K V : Type*} [DecidableEq K] [AddCommMonoid V]

/-- The sum of the amounts under a key. -/
def total (es : List (K × V)) (key : K) : V :=
  ((es.filter fun e => e.1 = key).map Prod.snd).sum

@[simp] theorem total_nil (key : K) : total ([] : List (K × V)) key = 0 := rfl

theorem total_cons (e : K × V) (es : List (K × V)) (key : K) :
    total (e :: es) key = (if e.1 = key then e.2 else 0) + total es key := by
  by_cases here : e.1 = key
  · simp [total, here]
  · simp [total, here]

theorem total_append (es later : List (K × V)) (key : K) :
    total (es ++ later) key = total es key + total later key := by
  rw [total, List.filter_append, List.map_append, List.sum_append, ← total, ← total]

/-- The amounts of items under the keys of items. -/
theorem total_map {α : Type*} (xs : List α) (keyOf : α → K) (amount : α → V) (key : K) :
    total (xs.map fun x => (keyOf x, amount x)) key =
      ((xs.filter fun x => keyOf x = key).map amount).sum := by
  rw [total, List.filter_map, List.map_map]
  rfl

/-- A key that does not occur. -/
theorem total_of_not_mem {es : List (K × V)} {key : K} (absent : key ∉ es.map Prod.fst) :
    total es key = 0 := by
  induction es with
  | nil => rfl
  | cons e rest ih =>
      rw [List.map_cons, List.mem_cons, not_or] at absent
      rw [total_cons, if_neg (Ne.symm absent.1), ih absent.2, zero_add]

/-- Where no key occurs twice the sum is the entry's amount. -/
theorem total_eq_lookup {es : List (K × V)} (nodup : (es.map Prod.fst).Nodup) (key : K) :
    total es key = (es.lookup key).getD 0 := by
  induction es with
  | nil => rfl
  | cons e rest ih =>
      obtain ⟨k, v⟩ := e
      rw [List.map_cons, List.nodup_cons] at nodup
      rw [total_cons, OrderedMap.lookup_cons_ite]
      rcases eq_or_ne k key with rfl | other
      · rw [if_pos rfl, if_pos rfl, total_of_not_mem nodup.1, add_zero]
        rfl
      · rw [if_neg other, if_neg (Ne.symm other), ih nodup.2, zero_add]

/-- The sum over a map's entries is the lookup. -/
theorem total_entries (m : OrderedMap K V) (key : K) :
    total m.entries key = (m.get key).getD 0 :=
  total_eq_lookup m.nodup key

/-- Amounts that a filter on positive values drops are zeros. -/
theorem total_filter_of_zero {es : List (K × V)} {kept : K × V → Bool} {key : K}
    (zero : ∀ e ∈ es, e.1 = key → kept e = false → e.2 = 0) :
    total (es.filter kept) key = total es key := by
  induction es with
  | nil => rfl
  | cons e rest ih =>
      obtain ⟨here, later⟩ := List.forall_mem_cons.mp zero
      rw [List.filter_cons, total_cons, ← ih later]
      cases keeps : kept e with
      | true => rw [if_pos rfl, total_cons]
      | false =>
          rw [if_neg (by decide)]
          split_ifs with same
          · rw [here same keeps, zero_add]
          · rw [zero_add]

/-- Entries under distinct keys are known from the keys, the amounts under all keys but one and
the sum under that one. -/
theorem eq_of_total {es fs : List (K × V)} {key : K} (nodup : (es.map Prod.fst).Nodup)
    (keys : es.map Prod.fst = fs.map Prod.fst)
    (others : (es.filter fun e => e.1 ≠ key) = fs.filter fun e => e.1 ≠ key)
    (sums : total es key = total fs key) : es = fs := by
  induction es generalizing fs with
  | nil => exact (List.map_eq_nil_iff.mp keys.symm).symm
  | cons e rest ih =>
      obtain _ | ⟨f, rest'⟩ := fs
      · cases keys
      rw [List.map_cons, List.map_cons, List.cons.injEq] at keys
      obtain ⟨first, keys⟩ := keys
      rw [List.map_cons, List.nodup_cons] at nodup
      rw [List.filter_cons, List.filter_cons, ← first] at others
      rw [total_cons, total_cons, ← first] at sums
      by_cases here : e.1 = key
      · have absent : key ∉ rest.map Prod.fst := here ▸ nodup.1
        have absent' : key ∉ rest'.map Prod.fst := keys ▸ absent
        rw [if_pos here, if_pos here, total_of_not_mem absent, total_of_not_mem absent', add_zero,
          add_zero] at sums
        simp only [here, ne_eq, not_true_eq_false, decide_false, Bool.false_eq_true, if_false]
          at others
        rw [Prod.ext first sums, ih nodup.2 keys others
          ((total_of_not_mem absent).trans (total_of_not_mem absent').symm)]
      · simp only [here, ne_eq, not_false_eq_true, decide_true, if_true, List.cons.injEq] at others
        rw [if_neg here, if_neg here, zero_add, zero_add] at sums
        rw [others.1, ih nodup.2 keys others.2 sums]

end KeyedSum
