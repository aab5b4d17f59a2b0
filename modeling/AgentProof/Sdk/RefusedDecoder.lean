import AgentProof.Sdk.Registry

/-!
# Refused registrations

`register` claims the selectors of a decoder one after another, so a clash leaves what
came before it in force.  A refused registration changes nothing exactly if what came
before the clash changes nothing.  Whether decoders of different names can be registered
together does not depend on the order, and neither does who is asked first.
-/

namespace AgentProof

namespace Sdk

open Js

/-- The code units of a character. -/
def codeUnits (c : Char) : List Nat :=
  if c.toNat < 0x10000 then [c.toNat]
  else [0xd800 + (c.toNat - 0x10000) / 0x400, 0xdc00 + (c.toNat - 0x10000) % 0x400]

namespace DecoderRegistry

/-- By code units. -/
def knownSelectors (r : DecoderRegistry) : List Text :=
  r.bySelector.keys.insertionSort fun s t => s.flatMap codeUnits ≤ t.flatMap codeUnits

/-- Who is asked about an action with the selector, in turn. -/
def candidates (r : DecoderRegistry) (selector : Text) : List SelectorDecoder :=
  (r.bySelector.get (toLowerCase selector)).toList ++ r.wildcards

/-- What candidates make of an action. -/
def answer (action : Action) (ctx : DecoderContext) (candidates : List SelectorDecoder) :
    Except JsError NormalizedIntent := do
  match ← firstIntent action ctx candidates with
  | some intent => .ok intent
  | none => empty.decode action ctx

variable {r : DecoderRegistry} {decoder : SelectorDecoder} {selector : Text}

theorem decode_eq (r : DecoderRegistry) (action : Action) (ctx : DecoderContext) :
    r.decode action ctx = answer action ctx (r.candidates (selectorOf action.data)) := rfl

/-! ## One registration -/

/-- Somebody else holds the selector. -/
def clashes (r : DecoderRegistry) (decoder : SelectorDecoder) (selector : Text) : Bool :=
  selector ≠ "*".toList &&
    (r.bySelector.get (toLowerCase selector)).any fun existing => existing.name ≠ decoder.name

/-- What comes before the first clash. -/
def admitted (r : DecoderRegistry) (decoder : SelectorDecoder) : List Text :=
  decoder.selectors.takeWhile fun selector => !r.clashes decoder selector

/-- The registration of one selector that does not clash. -/
def claim (decoder : SelectorDecoder) (r : DecoderRegistry) (selector : Text) : DecoderRegistry :=
  if selector = "*".toList then { r with wildcards := r.wildcards ++ [decoder] }
  else { r with bySelector := r.bySelector.set (toLowerCase selector) decoder }

/-- The keys under which selectors are registered. -/
def keysOf (selectors : List Text) : List Text :=
  (selectors.filter fun selector => selector ≠ "*".toList).map toLowerCase

@[simp] theorem claim_wildcard :
    claim decoder r "*".toList = { r with wildcards := r.wildcards ++ [decoder] } := if_pos rfl

theorem claim_of_ne (named : selector ≠ "*".toList) :
    claim decoder r selector =
      { r with bySelector := r.bySelector.set (toLowerCase selector) decoder } := if_neg named

@[simp] theorem keysOf_nil : keysOf [] = [] := rfl

@[simp] theorem keysOf_wildcard (rest : List Text) : keysOf ("*".toList :: rest) = keysOf rest := by
  rw [keysOf, List.filter_cons, if_neg (by simp)]
  rfl

theorem keysOf_of_ne (named : selector ≠ "*".toList) (rest : List Text) :
    keysOf (selector :: rest) = toLowerCase selector :: keysOf rest := by
  rw [keysOf, List.filter_cons, if_pos (decide_eq_true named)]
  rfl

/-- A claim that does not clash clashes with no further one. -/
theorem clashes_claim {other : Text} (free : r.clashes decoder selector = false) :
    (claim decoder r selector).clashes decoder other = r.clashes decoder other := by
  unfold claim
  split_ifs with wild
  · rfl
  · unfold clashes at free ⊢
    by_cases star : other = "*".toList
    · simp [star]
    · by_cases same : toLowerCase other = toLowerCase selector
      · simp only [same, OrderedMap.get_set_self]
        simp only [ne_eq, wild, not_false_eq_true, decide_true, Bool.true_and] at free
        rw [free]
        simp
      · simp only [OrderedMap.get_set_of_ne _ _ same]

/-- A registration claims what comes before the first clash, and throws if there is one. -/
theorem registerSelectors_eq (selectors : List Text) :
    (registerSelectors decoder selectors r).1 =
        (selectors.takeWhile fun selector => !r.clashes decoder selector).foldl (claim decoder) r ∧
      ((registerSelectors decoder selectors r).2 = none ↔
        ∀ other ∈ selectors, r.clashes decoder other = false) := by
  induction selectors generalizing r with
  | nil => exact ⟨rfl, by simp [registerSelectors]⟩
  | cons selector rest ih =>
      have further (free : r.clashes decoder selector = false)
          (step : registerSelectors decoder (selector :: rest) r =
            registerSelectors decoder rest (claim decoder r selector)) :
          (registerSelectors decoder (selector :: rest) r).1 =
              ((selector :: rest).takeWhile fun other => !r.clashes decoder other).foldl
                (claim decoder) r ∧
            ((registerSelectors decoder (selector :: rest) r).2 = none ↔
              ∀ other ∈ selector :: rest, r.clashes decoder other = false) := by
        have rest := ih (r := claim decoder r selector)
        simp only [clashes_claim free] at rest
        rw [step, List.takeWhile_cons, free, List.forall_mem_cons]
        exact ⟨rest.1, rest.2.trans (and_iff_right free).symm⟩
      by_cases wild : selector = "*".toList
      · refine further (by simp [clashes, wild]) ?_
        simp only [registerSelectors, claim, wild, if_true]
      · cases held : r.bySelector.get (toLowerCase selector) with
        | none =>
            refine further (by simp [clashes, held]) ?_
            simp only [registerSelectors, claim, wild, if_false, held]
        | some existing =>
            by_cases same : existing.name = decoder.name
            · refine further (by simp [clashes, held, same]) ?_
              simp only [registerSelectors, claim, wild, if_false, held, same, ne_eq,
                not_true_eq_false]
            · have clash : r.clashes decoder selector = true := by
                simp only [clashes, wild, held, same, Option.any_some, ne_eq, not_false_eq_true,
                  decide_true, Bool.and_self]
              have stops : registerSelectors decoder (selector :: rest) r =
                  (r, (registerSelectors decoder (selector :: rest) r).2) := by
                simp only [registerSelectors, wild, held, same, if_false, if_true, ne_eq,
                  not_false_eq_true]
              have throws : (registerSelectors decoder (selector :: rest) r).2 ≠ none := by
                simp only [registerSelectors, wild, held, same, if_false, if_true, ne_eq,
                  not_false_eq_true, reduceCtorEq]
              refine ⟨?_, iff_of_false throws fun free => ?_⟩
              · rw [stops, List.takeWhile_cons, clash]
                rfl
              · rw [free selector List.mem_cons_self] at clash
                cases clash

theorem register_fst (r : DecoderRegistry) (decoder : SelectorDecoder) :
    (r.register decoder).1 = (r.admitted decoder).foldl (claim decoder) r :=
  (registerSelectors_eq decoder.selectors).1

theorem register_eq_none_iff :
    (r.register decoder).2 = none ↔
      ∀ selector ∈ decoder.selectors, r.clashes decoder selector = false :=
  (registerSelectors_eq decoder.selectors).2

/-! ## What claims add up to -/

theorem get_foldl_claim (selectors : List Text) (key : Text) :
    (selectors.foldl (claim decoder) r).bySelector.get key =
      if key ∈ keysOf selectors then some decoder else r.bySelector.get key := by
  induction selectors generalizing r with
  | nil => rw [keysOf_nil, if_neg List.not_mem_nil, List.foldl_nil]
  | cons selector rest ih =>
      rw [List.foldl_cons, ih]
      rcases eq_or_ne selector "*".toList with rfl | named
      · rw [claim_wildcard, keysOf_wildcard]
      · rw [claim_of_ne named, keysOf_of_ne named, OrderedMap.get_set]
        by_cases here : key = toLowerCase selector
        · simp [here]
        · simp [here]

theorem wildcards_foldl_claim (selectors : List Text) :
    (selectors.foldl (claim decoder) r).wildcards =
      r.wildcards ++ List.replicate (selectors.count "*".toList) decoder := by
  induction selectors generalizing r with
  | nil => exact (List.append_nil _).symm
  | cons selector rest ih =>
      rw [List.foldl_cons, ih]
      rcases eq_or_ne selector "*".toList with rfl | named
      · rw [claim_wildcard, List.count_cons_self, List.replicate_succ, List.append_assoc]
        rfl
      · rw [claim_of_ne named, List.count_cons_of_ne named]

/-- Claims on keys that are known keep the list of the keys. -/
theorem keys_foldl_claim {selectors : List Text}
    (known : ∀ key ∈ keysOf selectors, key ∈ r.bySelector.keys) :
    (selectors.foldl (claim decoder) r).bySelector.keys = r.bySelector.keys := by
  induction selectors generalizing r with
  | nil => rfl
  | cons selector rest ih =>
      rw [List.foldl_cons]
      rcases eq_or_ne selector "*".toList with rfl | named
      · rw [keysOf_wildcard] at known
        rw [claim_wildcard]
        exact ih (r := { r with wildcards := r.wildcards ++ [decoder] }) known
      · rw [keysOf_of_ne named, List.forall_mem_cons] at known
        have same : (r.bySelector.set (toLowerCase selector) decoder).keys = r.bySelector.keys :=
          (OrderedMap.map_fst_setEntry _ _ _).trans (if_pos known.1)
        rw [claim_of_ne named, ih, same]
        rw [same]
        exact known.2

theorem mem_keys_foldl_claim {selectors : List Text} {key : Text} (claimed : key ∈ keysOf selectors) :
    key ∈ (selectors.foldl (claim decoder) r).bySelector.keys := by
  rw [← OrderedMap.isSome_get_iff, get_foldl_claim, if_pos claimed]
  rfl

theorem mem_knownSelectors {key : Text} : key ∈ r.knownSelectors ↔ key ∈ r.bySelector.keys :=
  List.mem_insertionSort _

/-! ## A refused registration -/

/-- What the candidates of a registry make of an action, on top of which comes one more. -/
theorem firstIntent_append (action : Action) (ctx : DecoderContext)
    (first second : List SelectorDecoder) :
    firstIntent action ctx (first ++ second) = (do
      match ← firstIntent action ctx first with
      | some intent => .ok (some intent)
      | none => firstIntent action ctx second) := by
  induction first with
  | nil => rfl
  | cons candidate rest ih =>
      rw [List.cons_append, firstIntent, firstIntent]
      rcases candidate.decode action ctx with e | (_ | intent)
      · rfl
      · exact ih
      · rfl

/-- A decoder that declined declines again. -/
theorem firstIntent_replicate {action : Action} {ctx : DecoderContext}
    (declines : decoder.decode action ctx = .ok none) (n : Nat) :
    firstIntent action ctx (List.replicate n decoder) = .ok none := by
  induction n with
  | zero => rfl
  | succ n ih =>
      rw [List.replicate_succ, firstIntent, declines]
      exact ih

/-- Behind others a decoder matters if they all decline. -/
theorem answer_append_replicate_iff {action : Action} {ctx : DecoderContext}
    (first : List SelectorDecoder) (n : Nat) :
    answer action ctx (first ++ List.replicate (n + 1) decoder) = answer action ctx first ↔
      (firstIntent action ctx first = .ok none →
        answer action ctx [decoder] = answer action ctx []) := by
  have once : answer action ctx (List.replicate (n + 1) decoder) = answer action ctx [decoder] := by
    rw [List.replicate_succ, answer, answer, firstIntent, firstIntent]
    rcases declines : decoder.decode action ctx with e | (_ | intent)
    · rfl
    · exact congrArg (· >>= _) (firstIntent_replicate declines n)
    · rfl
  rw [answer, firstIntent_append]
  rcases read : firstIntent action ctx first with e | (_ | intent)
  · exact iff_of_true (by rw [answer, read]; rfl) fun none => by cases none
  · have unread : answer action ctx first = answer action ctx [] := by
      rw [answer, read]
      rfl
    rw [unread, ← once]
    exact ⟨fun same _ => same, fun same => same rfl⟩
  · exact iff_of_true (by rw [answer, read]; rfl) fun none => by cases none

/-- What was registered before the clash makes no difference: the selectors were known
already, and on them the newcomer answers like their holder; and where a `*` was among
them, the newcomer reads nothing that nobody else reads. -/
structure Harmless (r : DecoderRegistry) (decoder : SelectorDecoder) : Prop where
  known : ∀ key ∈ keysOf (r.admitted decoder), key ∈ r.bySelector.keys
  alike : ∀ action ctx, toLowerCase (selectorOf action.data) ∈ keysOf (r.admitted decoder) →
    answer action ctx (decoder :: r.wildcards) =
      answer action ctx (r.candidates (selectorOf action.data))
  silent : "*".toList ∈ r.admitted decoder → ∀ action ctx,
    toLowerCase (selectorOf action.data) ∉ keysOf (r.admitted decoder) →
    firstIntent action ctx (r.candidates (selectorOf action.data)) = .ok none →
    answer action ctx [decoder] = answer action ctx []

/-- The registration leaves all answers and the known selectors as they were. -/
structure Unchanged (r r' : DecoderRegistry) : Prop where
  decode : ∀ action ctx, r'.decode action ctx = r.decode action ctx
  knownSelectors : r'.knownSelectors = r.knownSelectors

theorem candidates_register (r : DecoderRegistry) (decoder : SelectorDecoder) (selector : Text) :
    (r.register decoder).1.candidates selector =
      (if toLowerCase selector ∈ keysOf (r.admitted decoder) then decoder :: r.wildcards
        else r.candidates selector) ++
        List.replicate ((r.admitted decoder).count "*".toList) decoder := by
  rw [candidates, register_fst, get_foldl_claim, wildcards_foldl_claim, ← List.append_assoc]
  split_ifs <;> rfl

/-- What a decoder says on selectors it has taken over. -/
theorem answer_takeover (action : Action) (ctx : DecoderContext) (n : Nat) :
    answer action ctx (decoder :: r.wildcards ++ List.replicate n decoder) =
      answer action ctx (decoder :: r.wildcards) := by
  cases n with
  | zero => rw [List.replicate_zero, List.append_nil]
  | succ n =>
      refine (answer_append_replicate_iff _ n).mpr fun declined => ?_
      have itself : decoder.decode action ctx = .ok none := by
        rw [firstIntent] at declined
        rcases read : decoder.decode action ctx with e | (_ | intent)
        · rw [read] at declined
          cases declined
        · rfl
        · rw [read] at declined
          cases declined
      rw [answer, firstIntent, itself]
      rfl

theorem unchanged_iff :
    Unchanged r (r.register decoder).1 ↔ Harmless r decoder := by
  have at_ (action : Action) (ctx : DecoderContext) :
      (r.register decoder).1.decode action ctx = r.decode action ctx ↔
        if toLowerCase (selectorOf action.data) ∈ keysOf (r.admitted decoder) then
          answer action ctx (decoder :: r.wildcards) =
            answer action ctx (r.candidates (selectorOf action.data))
        else "*".toList ∈ r.admitted decoder →
          firstIntent action ctx (r.candidates (selectorOf action.data)) = .ok none →
          answer action ctx [decoder] = answer action ctx [] := by
    rw [decode_eq, decode_eq, candidates_register]
    split_ifs with taken
    · rw [answer_takeover]
    · rcases count : (r.admitted decoder).count "*".toList with _ | n
      · have absent := List.count_eq_zero.mp count
        exact iff_of_true (by rw [List.replicate_zero, List.append_nil]) fun mem => absurd mem absent
      · have present : "*".toList ∈ r.admitted decoder := by
          rw [← List.count_pos_iff, count]
          exact Nat.succ_pos n
        rw [answer_append_replicate_iff]
        exact ⟨fun silent _ => silent, fun silent => silent present⟩
  constructor
  · rintro ⟨decode, known⟩
    refine ⟨fun key claimed => ?_, fun action ctx taken => ?_, fun wild action ctx other => ?_⟩
    · rw [← mem_knownSelectors, ← known, mem_knownSelectors, register_fst]
      exact mem_keys_foldl_claim claimed
    · have same := (at_ action ctx).mp (decode action ctx)
      rwa [if_pos taken] at same
    · have same := (at_ action ctx).mp (decode action ctx)
      rw [if_neg other] at same
      exact same wild
  · rintro ⟨known, alike, silent⟩
    refine ⟨fun action ctx => (at_ action ctx).mpr ?_, ?_⟩
    · split_ifs with taken
      · exact alike action ctx taken
      · exact fun wild => silent wild action ctx taken
    · rw [knownSelectors, knownSelectors, register_fst, keys_foldl_claim known]

/-! ## Orders of registration -/

/-- Register decoders in turn, up to the first that is refused. -/
def registerAll (r : DecoderRegistry) : List SelectorDecoder → DecoderRegistry × Option JsError
  | [] => (r, none)
  | decoder :: rest =>
      match r.register decoder with
      | (r, none) => registerAll r rest
      | (r, some e) => (r, some e)

/-- No selector is claimed by both. -/
def Apart (d e : SelectorDecoder) : Prop := ∀ key ∈ keysOf d.selectors, key ∉ keysOf e.selectors

theorem Apart.symm {d e : SelectorDecoder} (apart : Apart d e) : Apart e d :=
  fun key mem mem' => apart key mem' mem

/-- Each selector is held by the decoder that claims it. -/
def Holds (seen : List SelectorDecoder) (r : DecoderRegistry) : Prop :=
  ∀ key d, r.bySelector.get key = some d ↔ d ∈ seen ∧ key ∈ keysOf d.selectors

section Orders

variable {seen decoders : List SelectorDecoder}

theorem mem_keysOf {selectors : List Text} {key : Text} :
    key ∈ keysOf selectors ↔ ∃ selector ∈ selectors, selector ≠ "*".toList ∧
      toLowerCase selector = key := by
  simp only [keysOf, List.mem_map, List.mem_filter, decide_eq_true_eq, and_assoc]

theorem ne_of_names {d e : SelectorDecoder} (names : (seen ++ [d]).map SelectorDecoder.name |>.Nodup)
    (mem : e ∈ seen) : e.name ≠ d.name := by
  rw [List.map_append, List.nodup_append] at names
  exact names.2.2 e.name (List.mem_map_of_mem mem) d.name (by simp)

/-- A decoder is admitted next to others exactly if it shares no selector with them. -/
theorem Holds.register_eq_none_iff (holds : Holds seen r)
    (names : (seen ++ [decoder]).map SelectorDecoder.name |>.Nodup) :
    (r.register decoder).2 = none ↔ ∀ d ∈ seen, Apart d decoder := by
  rw [DecoderRegistry.register_eq_none_iff]
  constructor
  · intro free d mem key claimed claimed'
    obtain ⟨selector, listed, named, rfl⟩ := mem_keysOf.mp claimed'
    have held := (holds _ d).mpr ⟨mem, claimed⟩
    have clash : r.clashes decoder selector = true := by
      simp only [clashes, named, held, Option.any_some, ne_of_names names mem, ne_eq,
        not_false_eq_true, decide_true, Bool.and_self]
    rw [free selector listed] at clash
    cases clash
  · intro apart selector listed
    rcases eq_or_ne selector "*".toList with rfl | named
    · rfl
    · rcases held : r.bySelector.get (toLowerCase selector) with _ | d
      · rw [clashes, held]
        exact Bool.and_false _
      · obtain ⟨mem, claimed⟩ := (holds _ d).mp held
        exact absurd (mem_keysOf.mpr ⟨selector, listed, named, rfl⟩) (apart d mem _ claimed)

theorem Holds.register (holds : Holds seen r)
    (names : (seen ++ [decoder]).map SelectorDecoder.name |>.Nodup)
    (admits : (r.register decoder).2 = none) : Holds (seen ++ [decoder]) (r.register decoder).1 := by
  have apart := (holds.register_eq_none_iff names).mp admits
  have whole : r.admitted decoder = decoder.selectors := by
    rw [admitted, List.takeWhile_eq_self_iff]
    intro selector listed
    rw [(DecoderRegistry.register_eq_none_iff.mp admits) selector listed]
    rfl
  intro key d
  rw [register_fst, whole, get_foldl_claim, List.mem_append, List.mem_singleton]
  split_ifs with claimed
  · rw [Option.some.injEq]
    constructor
    · rintro rfl
      exact ⟨.inr rfl, claimed⟩
    · rintro ⟨mem | rfl, claimed'⟩
      · exact absurd claimed (apart d mem key claimed')
      · rfl
  · rw [holds]
    constructor
    · exact fun held => ⟨.inl held.1, held.2⟩
    · rintro ⟨mem | rfl, claimed'⟩
      · exact ⟨mem, claimed'⟩
      · exact absurd claimed' claimed

/-- Decoders of different names are all admitted exactly if no two share a selector. -/
theorem Holds.registerAll (holds : Holds seen r)
    (names : (seen ++ decoders).map SelectorDecoder.name |>.Nodup)
    (disjoint : seen.Pairwise Apart) :
    ((r.registerAll decoders).2 = none ↔ (seen ++ decoders).Pairwise Apart) ∧
      ((r.registerAll decoders).2 = none → Holds (seen ++ decoders) (r.registerAll decoders).1) := by
  induction decoders generalizing r seen with
  | nil =>
      rw [List.append_nil]
      exact ⟨iff_of_true rfl disjoint, fun _ => holds⟩
  | cons decoder rest ih =>
      rw [List.append_cons] at names ⊢
      have first : (seen ++ [decoder]).map SelectorDecoder.name |>.Nodup := by
        rw [List.map_append] at names
        exact (List.nodup_append.mp names).1
      have admits := holds.register_eq_none_iff first
      rw [DecoderRegistry.registerAll]
      rcases registered : r.register decoder with ⟨r', _ | e⟩
      · have here : (r.register decoder).2 = none := by rw [registered]
        have holds' := holds.register first here
        rw [registered] at holds'
        refine ih holds' names ?_
        rw [List.pairwise_append]
        refine ⟨disjoint, List.pairwise_singleton _ _, fun d mem d' last => ?_⟩
        rw [List.mem_singleton.mp last]
        exact admits.mp here d mem
      · have refused : (r.register decoder).2 ≠ none := by
          rw [registered]
          exact Option.some_ne_none e
        refine ⟨iff_of_false (Option.some_ne_none e) fun apart => refused (admits.mpr ?_),
          fun admitted => absurd admitted (Option.some_ne_none e)⟩
        intro d mem
        have both := (List.pairwise_append.mp (List.pairwise_append.mp apart).1).2.2
        exact both d mem decoder (List.mem_singleton_self decoder)

theorem holds_empty : Holds [] empty := by
  intro key d
  simp [empty]

/-- Every order of registering the decoders is refused, or none is and whoever claims a
selector is asked first. -/
theorem registerAll_perm (names : (decoders.map SelectorDecoder.name).Nodup) :
    (∀ order, order.Perm decoders → (empty.registerAll order).2 ≠ none) ∨
      ∀ order, order.Perm decoders → (empty.registerAll order).2 = none ∧
        ∀ d ∈ decoders, ∀ selector ∈ d.selectors, selector ≠ "*".toList →
          ((empty.registerAll order).1.candidates selector).head? = some d := by
  have each (order : List SelectorDecoder) (perm : order.Perm decoders) :
      ((empty.registerAll order).2 = none ↔ decoders.Pairwise Apart) ∧
        ((empty.registerAll order).2 = none → Holds order (empty.registerAll order).1) := by
    have names' : (([] ++ order).map SelectorDecoder.name).Nodup :=
      ((perm.map SelectorDecoder.name).nodup_iff).mpr names
    obtain ⟨admitted, holds⟩ := holds_empty.registerAll names' .nil
    exact ⟨admitted.trans (perm.pairwise_iff Apart.symm), holds⟩
  by_cases apart : decoders.Pairwise Apart
  · refine .inr fun order perm => ⟨(each order perm).1.mpr apart, ?_⟩
    intro d mem selector listed named
    have holds := (each order perm).2 ((each order perm).1.mpr apart)
    have held := (holds (toLowerCase selector) d).mpr
      ⟨perm.mem_iff.mpr mem, mem_keysOf.mpr ⟨selector, listed, named, rfl⟩⟩
    rw [candidates, held]
    rfl
  · exact .inl fun order perm admitted => apart ((each order perm).1.mp admitted)

end Orders

/-! ## What a refusal leaves behind -/

/-- A registration that throws changes nothing exactly if there is nothing in what it had
registered by then; and the order of registrations makes no difference. -/
theorem refusal_unchanged_iff (r : DecoderRegistry) (decoder : SelectorDecoder)
    (decoders : List SelectorDecoder) :
    (((r.register decoder).2 ≠ none → Unchanged r (r.register decoder).1) ↔
        ((∃ selector ∈ decoder.selectors, r.clashes decoder selector = true) →
          Harmless r decoder)) ∧
      ((decoders.map SelectorDecoder.name).Nodup →
        (∀ order, order.Perm decoders → (empty.registerAll order).2 ≠ none) ∨
          ∀ order, order.Perm decoders → (empty.registerAll order).2 = none ∧
            ∀ d ∈ decoders, ∀ selector ∈ d.selectors, selector ≠ "*".toList →
              ((empty.registerAll order).1.candidates selector).head? = some d) := by
  refine ⟨?_, registerAll_perm⟩
  have throws : (r.register decoder).2 ≠ none ↔
      ∃ selector ∈ decoder.selectors, r.clashes decoder selector = true := by
    rw [Ne, register_eq_none_iff]
    simp only [not_forall, Bool.not_eq_false, exists_prop]
  rw [throws, unchanged_iff]

/-- The shipped decoders, last first. -/
def shippedReversed : List SelectorDecoder :=
  [uniswapV4Decoder, x402Decoder, nativeDecoder, erc20Decoder]

theorem refusal_unchanged_iff_shipped :
    (empty.registerAll shippedReversed).2 = none ∧
      ((empty.registerAll shippedReversed).1.candidates SELECTOR_TRANSFER).head? =
        some erc20Decoder := by
  have names : (shippedReversed.map SelectorDecoder.name).Nodup := by decide
  rcases (refusal_unchanged_iff empty erc20Decoder shippedReversed).2 names with refused | admitted
  · exact absurd (by decide +kernel) (refused shippedReversed (.refl _))
  · obtain ⟨none_, first⟩ := admitted shippedReversed (.refl _)
    have last : erc20Decoder ∈ shippedReversed :=
      List.mem_append_right [uniswapV4Decoder, x402Decoder, nativeDecoder] List.mem_cons_self
    exact ⟨none_, first _ last SELECTOR_TRANSFER List.mem_cons_self (by decide)⟩

/-- A decoder that claims a new selector before one that is taken, and counts nothing. -/
def clashDecoder : SelectorDecoder where
  name := "clash".toList
  selectors := ["0xdeadbeef".toList, SELECTOR_TRANSFER]
  decode action _ := .ok (some ⟨.transfer, action.toAddress, "0xdeadbeef".toList, 0, [], none, 0, [], action⟩)

/-- An unreadable call. -/
def sampleUnread : Action := ⟨addressText 0x22, "0xdeadbeef".toList, 0⟩

/-- The default registry refuses the decoder, and then has it read a call that was
unknown, as a call that spends nothing. -/
theorem not_unchanged_clashDecoder :
    (createDefaultRegistry.register clashDecoder).2 ≠ none ∧
      ¬ Unchanged createDefaultRegistry (createDefaultRegistry.register clashDecoder).1 := by
  refine ⟨?_, fun unchanged => ?_⟩
  · decide +kernel
  · have same := unchanged.decode sampleUnread ⟨addressText 0xacc0, addressText 0xa55e7⟩
    have before : (createDefaultRegistry.decode sampleUnread
        ⟨addressText 0xacc0, addressText 0xa55e7⟩).toOption.map NormalizedIntent.notionalUSDC =
          some UNBOUNDED := by
      decide +kernel
    have now_ : ((createDefaultRegistry.register clashDecoder).1.decode sampleUnread
        ⟨addressText 0xacc0, addressText 0xa55e7⟩).toOption.map NormalizedIntent.notionalUSDC =
          some 0 := by
      decide +kernel
    rw [same, before] at now_
    exact absurd now_ (by decide)

end DecoderRegistry

end Sdk

end AgentProof
