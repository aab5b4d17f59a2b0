import AgentProof.Scripts.ParseSmtOutput

/-!
# Whether everything is proved

`ProofRegistry.allProven` is computed when an instance starts, the flag of the
summary when the checker has run.  The registry goes by the last artifact of each
property it finds; what it does not look at is a property without artifacts, an
artifact that another one overwrites, and the negative control.
-/

namespace AgentProof

namespace Sdk

open Js Json

namespace ProofRegistry

/-! ## What the registry goes by -/

/-- The reference is one of the policy's. -/
def leadsTo (policy : PolicyKey) (reference : Json) : Bool :=
  match policyOf reference with
  | .ok (some key) => key = policy
  | _ => false

/-- The last reference of a policy. -/
def lastFor (references : List Json) (policy : PolicyKey) : Option Json :=
  (references.filter (leadsTo policy)).getLast?

/-- The constructor gets past the reference. -/
def Usable (reference : Json) : Prop := ∃ policy, policyOf reference = .ok policy

variable {references : List Json} {reference : Json} {policy : PolicyKey}
  {negativeControl : Option Json}

theorem leadsTo_iff : leadsTo policy reference = true ↔ policyOf reference = .ok (some policy) := by
  unfold leadsTo
  split
  · next key found => simp [found]
  · next other =>
      simp only [Bool.false_eq_true, false_iff]
      exact fun found => other policy found

theorem lastFor_concat :
    lastFor (references ++ [reference]) policy =
      if leadsTo policy reference = true then some reference else lastFor references policy := by
  rw [lastFor, List.filter_append]
  split_ifs with leads
  · rw [List.filter_cons, if_pos leads, List.filter_nil, List.getLast?_concat]
  · rw [List.filter_cons, if_neg leads, List.filter_nil, List.append_nil, lastFor]

/-- The loop of the constructor leaves the last reference of each policy. -/
theorem foldlM_addReference (usable : ∀ r ∈ references, Usable r) :
    ∃ byPolicy, references.foldlM addReference .empty = .ok byPolicy ∧
      ∀ policy, byPolicy.get policy = lastFor references policy := by
  induction references using List.reverseRecOn with
  | nil => exact ⟨.empty, rfl, fun _ => rfl⟩
  | append_singleton references reference ih =>
      obtain ⟨before, looped, found⟩ :=
        ih fun r mem => usable r (List.mem_append_left _ mem)
      obtain ⟨key, read⟩ := usable reference (by simp)
      have turn : (references ++ [reference]).foldlM addReference .empty =
          addReference before reference := by
        rw [List.foldlM_append, looped]
        exact bind_pure (addReference before reference)
      cases key with
      | none =>
          refine ⟨before, ?_, fun policy => ?_⟩
          · rw [turn, addReference, read]
            rfl
          · have other : ¬ leadsTo policy reference = true := by
              rw [leadsTo_iff, read]
              simp
            rw [lastFor_concat, if_neg other, found]
      | some key =>
          refine ⟨before.set key reference, ?_, fun policy => ?_⟩
          · rw [turn, addReference, read]
            rfl
          · rw [OrderedMap.get_set, lastFor_concat]
            by_cases same : policy = key
            · rw [if_pos same, if_pos (leadsTo_iff.mpr (by rw [read, same]))]
            · have other : ¬ leadsTo policy reference = true := by
                rw [leadsTo_iff, read, Except.ok.injEq, Option.some.injEq]
                exact fun equal => same equal.symm
              rw [if_neg same, if_neg other, found]

theorem usable_of_foldlM {start after : OrderedMap PolicyKey Json}
    (looped : references.foldlM addReference start = .ok after) : ∀ r ∈ references, Usable r := by
  induction references generalizing start with
  | nil => exact fun _ mem => absurd mem List.not_mem_nil
  | cons reference references ih =>
      rw [List.foldlM_cons, bind_eq_ok_iff] at looped
      obtain ⟨next, first, rest⟩ := looped
      rw [addReference, bind_eq_ok_iff] at first
      obtain ⟨policy, read, -⟩ := first
      rintro r (_ | ⟨_, later⟩)
      · exact ⟨policy, read⟩
      · exact ih rest r later

theorem allProven_iff (registry : ProofRegistry) :
    registry.allProven = true ↔
      (∃ policy reference, registry.byPolicy.get policy = some reference) ∧
        ∀ policy reference, registry.byPolicy.get policy = some reference →
          isProven reference = true := by
  rw [allProven, Bool.and_eq_true, decide_eq_true_eq, gt_iff_lt, List.length_pos_iff_exists_mem,
    List.all_eq_true, all]
  constructor
  · rintro ⟨⟨reference, mem⟩, proven⟩
    obtain ⟨⟨policy, _⟩, entry, rfl⟩ := List.mem_map.mp mem
    refine ⟨⟨policy, _, (registry.byPolicy.get_eq_some_iff).mpr entry⟩, fun policy reference held => ?_⟩
    exact proven reference (List.mem_map.mpr
      ⟨(policy, reference), (registry.byPolicy.get_eq_some_iff).mp held, rfl⟩)
  · rintro ⟨⟨policy, reference, held⟩, proven⟩
    refine ⟨⟨reference, List.mem_map.mpr
      ⟨(policy, reference), (registry.byPolicy.get_eq_some_iff).mp held, rfl⟩⟩, fun r mem => ?_⟩
    obtain ⟨⟨policy, _⟩, entry, rfl⟩ := List.mem_map.mp mem
    exact proven policy _ ((registry.byPolicy.get_eq_some_iff).mpr entry)

theorem allProven_notRun : notRun.allProven = false := by decide +kernel

/-! ## Loading -/

/-- The artifacts that can be read and parsed. -/
def readable (directory : Directory) : List Json := (artifacts directory).filterMap id

theorem mapM_parsed_iff {files : List (Option Json)} :
    files.mapM parsed = .ok references ↔ files = references.map some := by
  induction files generalizing references with
  | nil =>
      rw [List.mapM_nil]
      constructor
      · rintro ⟨⟩
        rfl
      · intro same
        rw [List.map_eq_nil_iff.mp same.symm]
        rfl
  | cons file files ih =>
      rw [List.mapM_cons, bind_eq_ok_iff]
      simp only [bind_eq_ok_iff]
      constructor
      · rintro ⟨reference, read, rest, later, ⟨⟩⟩
        cases file with
        | none => cases read
        | some v =>
            cases read
            rw [ih.mp later]
            rfl
      · intro same
        cases references with
        | nil => cases same
        | cons reference rest =>
            rw [List.map_cons, List.cons.injEq] at same
            obtain ⟨rfl, later⟩ := same
            exact ⟨reference, rfl, rest, ih.mpr later, rfl⟩

/-- What a directory needs for the registry to say that everything is proved. -/
theorem allProven_load_iff (directory : Directory) :
    (load (some directory)).allProven = true ↔
      ∃ references, artifacts directory = references.map some ∧ (∀ r ∈ references, Usable r) ∧
        (∃ policy reference, lastFor references policy = some reference) ∧
        ∀ policy reference, lastFor references policy = some reference →
          isProven reference = true := by
  constructor
  · intro proven
    cases read : (artifacts directory).mapM parsed with
    | error e =>
        rw [load, read] at proven
        cases allProven_notRun.symm.trans proven
    | ok references =>
        by_cases some : references.length > 0
        · cases looped : references.foldlM addReference .empty with
          | error e =>
              simp only [load, read, bind, Except.bind, if_pos some, construct, looped] at proven
              cases allProven_notRun.symm.trans proven
          | ok byPolicy =>
              have usable := usable_of_foldlM looped
              obtain ⟨after, again, found⟩ := foldlM_addReference usable
              rw [looped] at again
              cases again
              simp only [load, read, bind, Except.bind, if_pos some, construct, looped] at proven
              rw [allProven_iff] at proven
              simp only [found] at proven
              exact ⟨references, mapM_parsed_iff.mp read, usable, proven⟩
        · simp only [load, read, bind, Except.bind, if_neg some] at proven
          cases allProven_notRun.symm.trans proven
  · rintro ⟨references, read, usable, ⟨policy, reference, last⟩, proven⟩
    have some : references.length > 0 := by
      rw [gt_iff_lt, List.length_pos_iff]
      rintro rfl
      cases last
    obtain ⟨byPolicy, looped, found⟩ := foldlM_addReference usable
    rw [load, mapM_parsed_iff.mpr read]
    simp only [bind, Except.bind, if_pos some, construct, looped, allProven_iff, found]
    exact ⟨⟨policy, reference, last⟩, proven⟩

/-! ## Artifacts of a property -/

/-- The artifact is one of the property. -/
def isFor (property : Text) (reference : Json) : Bool :=
  match reference.field "property".toList with
  | some v =>
      match keyName v with
      | .ok (some name) => name = property
      | _ => false
  | none => false

theorem policyNamed_eq_policy_iff {name policy : Text} :
    policyNamed name = some (.policy policy) ↔ (name, policy) ∈ PROPERTY_TO_POLICY.entries := by
  rw [← PROPERTY_TO_POLICY.get_eq_some_iff, policyNamed]
  cases found : PROPERTY_TO_POLICY.get name with
  | some other => simp only [Option.some.injEq, PolicyKey.policy.injEq]
  | none =>
      split_ifs <;> simp

/-- The reference's property is the name, as a key. -/
theorem isFor_iff {property : Text} :
    isFor property reference = true ↔
      ∃ v, reference.field "property".toList = some v ∧ keyName v = .ok (some property) := by
  unfold isFor
  cases reference.field "property".toList with
  | none => simp
  | some v =>
      simp only [Option.some.injEq, exists_eq_left']
      split
      · next name read => simp [read]
      · next other =>
          simp only [Bool.false_eq_true, false_iff]
          exact fun read => other property read

/-- What a reference leads to goes by the name it has as a key. -/
theorem policyOf_eq_some_iff :
    policyOf reference = .ok (some policy) ↔
      ∃ v name, reference.field "property".toList = some v ∧ keyName v = .ok (some name) ∧
        policyNamed name = some policy := by
  rw [policyOf, bind_eq_ok_iff]
  by_cases null : reference = .null
  · subst null
    simp [Json.property, typeError, field]
  · simp only [property_of_ne_null null, Except.ok.injEq, exists_eq_left']
    cases reference.field "property".toList with
    | none => simp
    | some v =>
        simp only [bind_eq_ok_iff, Except.ok.injEq, Option.bind_eq_some_iff, Option.some.injEq,
          exists_and_left, exists_eq_left']
        constructor
        · rintro ⟨_, read, name, rfl, named⟩
          exact ⟨name, read, named⟩
        · rintro ⟨name, read, named⟩
          exact ⟨some name, read, name, rfl, named⟩

/-- A policy's references are the artifacts of its property. -/
theorem leadsTo_policy_iff {policy : Text} :
    leadsTo (.policy policy) reference = true ↔
      ∃ property, (property, policy) ∈ PROPERTY_TO_POLICY.entries ∧
        isFor property reference = true := by
  rw [leadsTo_iff, policyOf_eq_some_iff]
  simp only [policyNamed_eq_policy_iff, isFor_iff]
  constructor
  · rintro ⟨v, name, held, read, listed⟩
    exact ⟨name, listed, v, held, read⟩
  · rintro ⟨name, listed, v, held, read⟩
    exact ⟨v, name, held, read, listed⟩

theorem property_unique : ∀ entry ∈ PROPERTY_TO_POLICY.entries,
    ∀ other ∈ PROPERTY_TO_POLICY.entries, entry.2 = other.2 → entry = other := by
  decide

theorem leadsTo_eq_isFor {entry : Text × Text} (listed : entry ∈ PROPERTY_TO_POLICY.entries) :
    leadsTo (.policy entry.2) = isFor entry.1 := by
  funext reference
  rw [Bool.eq_iff_iff, leadsTo_policy_iff]
  constructor
  · rintro ⟨property, other, named⟩
    rw [← congrArg Prod.fst (property_unique _ other _ listed rfl)]
    exact named
  · exact fun named => ⟨entry.1, listed, named⟩

/-! ## What is claimed, and when it is so -/

/-- What `summary.json` says of the negative control. -/
def ReportsInert (directory : Directory) : Prop :=
  ∃ summary control, directory.get SUMMARY = some (some summary) ∧
    summary.field "negativeControl".toList = some control ∧
    control.field "counterexampleProduced".toList = some (.bool false)

/-- All the evidence is there, and none speaks against it. -/
structure Proven (directory : Directory) : Prop where
  present : ∀ entry ∈ PROPERTY_TO_POLICY.entries,
    ∃ r ∈ readable directory, isFor entry.1 r = true
  proven : ∀ entry ∈ PROPERTY_TO_POLICY.entries,
    ∀ r ∈ readable directory, isFor entry.1 r = true → isProven r = true
  control : ¬ ReportsInert directory

/-- The artifact that decides a property, the last one listed, is a proof. -/
def Decided (directory : Directory) : Prop :=
  ∀ entry ∈ PROPERTY_TO_POLICY.entries, ∀ r,
    ((readable directory).filter (isFor entry.1)).getLast? = some r → isProven r = true

/-- What the registry wants besides. -/
structure Readable (directory : Directory) : Prop where
  usable : ∀ file ∈ artifacts directory, ∃ r, file = some r ∧ Usable r
  mapped : ∃ r ∈ readable directory, ∃ policy, leadsTo policy r = true
  strays : ∀ name r, lastFor (readable directory) (.inherited name) = some r → isProven r = true

/-- What the registry does not look at. -/
structure Complete (directory : Directory) : Prop where
  present : ∀ entry ∈ PROPERTY_TO_POLICY.entries,
    ∃ r ∈ readable directory, isFor entry.1 r = true
  overwritten : ∀ entry ∈ PROPERTY_TO_POLICY.entries,
    ∀ r ∈ ((readable directory).filter (isFor entry.1)).dropLast, isProven r = true
  control : ¬ ReportsInert directory

variable {directory : Directory}

theorem readable_map (references : List Json) : (references.map some).filterMap id = references := by
  rw [List.filterMap_map]
  exact List.filterMap_some

theorem artifacts_of_usable (usable : ∀ file ∈ artifacts directory, ∃ r, file = some r ∧ Usable r) :
    artifacts directory = (readable directory).map some := by
  rw [readable]
  generalize artifacts directory = files at usable
  induction files with
  | nil => rfl
  | cons file files ih =>
      obtain ⟨r, rfl, -⟩ := usable file List.mem_cons_self
      exact congrArg (some r :: ·) (ih fun f later => usable f (List.mem_cons_of_mem _ later))

theorem allProven_load_iff_decided :
    (load (some directory)).allProven = true ↔ Readable directory ∧ Decided directory := by
  rw [allProven_load_iff]
  constructor
  · rintro ⟨references, read, usable, ⟨policy, reference, last⟩, proven⟩
    have same : readable directory = references := by
      rw [readable, read, readable_map]
    obtain ⟨mem, leads⟩ := List.mem_filter.mp (List.mem_of_getLast? last)
    refine ⟨⟨?_, ⟨reference, same ▸ mem, policy, leads⟩, ?_⟩, ?_⟩
    · rw [read]
      intro file listed
      obtain ⟨r, mem, rfl⟩ := List.mem_map.mp listed
      exact ⟨r, rfl, usable r mem⟩
    · rw [same]
      exact fun name r last => proven _ r last
    · intro entry listed r last
      rw [same, ← leadsTo_eq_isFor listed] at last
      exact proven _ r last
  · rintro ⟨⟨usable, ⟨r, mem, policy, leads⟩, strays⟩, decided⟩
    have read := artifacts_of_usable usable
    refine ⟨readable directory, read, fun r mem => ?_, ⟨policy, ?_⟩, fun policy r last => ?_⟩
    · obtain ⟨r', same, good⟩ := usable (some r) (read ▸ List.mem_map_of_mem mem)
      rwa [Option.some.inj same]
    · have nonempty : (readable directory).filter (leadsTo policy) ≠ [] :=
        List.ne_nil_of_mem (List.mem_filter.mpr ⟨mem, leads⟩)
      exact ⟨_, List.getLast?_eq_some_getLast nonempty⟩
    · cases policy with
      | inherited name => exact strays name r last
      | policy name =>
          have leads := (List.mem_filter.mp (List.mem_of_getLast? last)).2
          obtain ⟨property, listed, -⟩ := leadsTo_policy_iff.mp leads
          rw [lastFor, leadsTo_eq_isFor listed] at last
          exact decided _ listed r last

theorem proven_iff_decided : Proven directory ↔ Complete directory ∧ Decided directory := by
  constructor
  · intro proven
    refine ⟨⟨proven.present, fun entry listed r mem => ?_, proven.control⟩,
      fun entry listed r last => ?_⟩
    · obtain ⟨inside, named⟩ := List.mem_filter.mp (List.mem_of_mem_dropLast mem)
      exact proven.proven entry listed r inside named
    · obtain ⟨inside, named⟩ := List.mem_filter.mp (List.mem_of_getLast? last)
      exact proven.proven entry listed r inside named
  · rintro ⟨complete, decided⟩
    refine ⟨complete.present, fun entry listed r mem named => ?_, complete.control⟩
    have inside : r ∈ (readable directory).filter (isFor entry.1) :=
      List.mem_filter.mpr ⟨mem, named⟩
    have nonempty := List.ne_nil_of_mem inside
    rw [← List.dropLast_append_getLast nonempty, List.mem_append, List.mem_singleton] at inside
    rcases inside with early | rfl
    · exact complete.overwritten entry listed r early
    · exact decided entry listed _ (List.getLast?_eq_some_getLast nonempty)

/-- Where the artifact that decides is no proof, both say no; elsewhere they agree
if what the registry wants and what it overlooks go together. -/
theorem allProven_agrees_iff :
    ((load (some directory)).allProven = true ↔ Proven directory) ↔
      (Decided directory → (Readable directory ↔ Complete directory)) := by
  rw [allProven_load_iff_decided, proven_iff_decided]
  exact and_congr_left_iff

end ProofRegistry

/-! ## The flag of the summary -/

open Scripts ProofRegistry

/-- A log that reports a proof and complains of nothing. -/
structure CleanLog (log : Text) : Prop where
  proved : reportsProof log = true
  engineRan : mentions log "CHC analysis was not possible" = false
  settled : mentions log "could not be proved" = false
  certain : mentions log "might happen" = false
  covered : mentions log "Assertion checker does not yet implement" = false
  unviolated : mentions log "Assertion violation happens here" = true →
    includes log "amount".toList = false ∧ includes log "spent".toList = false

theorem classify_eq_proven_iff {log needle : Text} :
    classify log needle = "PROVEN".toList ↔
      (mentions log "Assertion violation happens here" &&
        includes log ((needle.splitOn ' ').headD [])) = false ∧
      mentions log "could not be proved" = false ∧ mentions log "might happen" = false ∧
      mentions log "Assertion checker does not yet implement" = false ∧
      mentions log "CHC analysis was not possible" = false ∧ reportsProof log = true := by
  unfold classify
  generalize (mentions log "Assertion violation happens here" && _) = violated
  generalize mentions log "could not be proved" = open_goal
  generalize mentions log "might happen" = possible
  generalize mentions log "Assertion checker does not yet implement" = uncovered
  generalize mentions log "CHC analysis was not possible" = idle
  generalize reportsProof log = proved
  decide +revert

/-- Both properties come out proved of a clean log, and of no other. -/
theorem forall_classify_iff {log : Text} :
    (∀ entry ∈ PROPERTIES, classify log entry.2 = "PROVEN".toList) ↔ CleanLog log := by
  have amount : ("amount <= maxTransaction".toList.splitOn ' ').headD [] = "amount".toList := by
    decide
  have spent : ("spent <= dailyLimit".toList.splitOn ' ').headD [] = "spent".toList := by decide
  rw [PROPERTIES, List.forall_mem_cons, List.forall_mem_singleton, classify_eq_proven_iff,
    classify_eq_proven_iff, amount, spent]
  simp only [Bool.and_eq_false_imp]
  constructor
  · rintro ⟨⟨max, settled, certain, covered, engineRan, proved⟩, daily, -⟩
    exact ⟨proved, engineRan, settled, certain, covered, fun violated => ⟨max violated, daily violated⟩⟩
  · rintro ⟨proved, engineRan, settled, certain, covered, unviolated⟩
    exact ⟨⟨fun violated => (unviolated violated).1, settled, certain, covered, engineRan, proved⟩,
      fun violated => (unviolated violated).2, settled, certain, covered, engineRan, proved⟩

variable {o : SmtOptions}

theorem isProven_reference {property needle : Text} :
    isProven (reference o property needle) = true ↔
      classify o.provenLog needle = "PROVEN".toList := by
  have status : (reference o property needle).field "status".toList =
      some (.str (classify o.provenLog needle)) := rfl
  rw [isProven, status]
  exact decide_eq_true_iff

/-- The summary's flag wants a clean log, and a violation in the broken specification's. -/
theorem allProven_iff_clean :
    Scripts.allProven o = true ↔
      CleanLog o.provenLog ∧ mentions o.brokenLog "Assertion violation" = true := by
  rw [Scripts.allProven, Bool.and_eq_true, ← forall_classify_iff, List.all_eq_true, references,
    List.forall_mem_map]
  simp only [isProven_reference]
  rfl

theorem get_writeFiles (before : Directory) (name : Text) :
    (writeFiles o before).get name =
      if name = SUMMARY then some (some (summary o))
      else if name = "DAILY_SPEND".toList ++ ".json".toList then
        some (some (reference o "DAILY_SPEND".toList "spent <= dailyLimit".toList))
      else if name = "MAX_TRANSFER".toList ++ ".json".toList then
        some (some (reference o "MAX_TRANSFER".toList "amount <= maxTransaction".toList))
      else before.get name := by
  rw [writeFiles, OrderedMap.get_set, references, PROPERTIES]
  simp only [List.map_cons, List.map_nil, List.foldl_cons, List.foldl_nil, OrderedMap.get_set]

/-- The artifacts of a run, where nobody else has left any. -/
theorem mem_artifacts_writeFiles {before directory : Directory}
    (alone : ∀ name ∈ before.keys, isArtifact name = true →
      ∃ entry ∈ PROPERTIES, name = entry.1 ++ ".json".toList)
    (listed : directory.entries.Perm (writeFiles o before).entries) (file : Option Json) :
    file ∈ artifacts directory ↔
      ∃ entry ∈ PROPERTIES, file = some (reference o entry.1 entry.2) := by
  have written (name : Text) : (name, file) ∈ directory.entries ↔
      (writeFiles o before).get name = some file := by
    rw [listed.mem_iff, OrderedMap.get_eq_some_iff]
  simp only [PROPERTIES, List.mem_cons, List.not_mem_nil, or_false, exists_eq_or_imp,
    exists_eq_left] at alone ⊢
  simp only [artifacts, List.mem_map, List.mem_filter, Prod.exists, exists_eq_right, written]
  constructor
  · rintro ⟨name, held, artifact⟩
    have other : name ≠ SUMMARY := by
      rintro rfl
      exact absurd artifact (by decide)
    rw [get_writeFiles, if_neg other] at held
    split_ifs at held with daily max
    · exact .inr (Option.some.inj held).symm
    · exact .inl (Option.some.inj held).symm
    · have key : name ∈ before.keys := by
        rw [← OrderedMap.isSome_get_iff, held]
        rfl
      rcases alone name key artifact with same | same
      · exact absurd same max
      · exact absurd same daily
  · rintro (rfl | rfl)
    · refine ⟨"MAX_TRANSFER".toList ++ ".json".toList, ?_, by decide⟩
      rw [get_writeFiles, if_neg (by decide), if_neg (by decide), if_pos rfl]
    · refine ⟨"DAILY_SPEND".toList ++ ".json".toList, ?_, by decide⟩
      rw [get_writeFiles, if_neg (by decide), if_pos rfl]

theorem isFor_reference (property name needle : Text) :
    isFor property (reference o name needle) = true ↔ name = property := by
  have field : (reference o name needle).field "property".toList = some (.str name) := rfl
  rw [isFor_iff, field]
  simp [keyName]

theorem policyOf_reference {entry : Text × Text} (listed : entry ∈ PROPERTIES) :
    ∃ policy, (entry.1, policy) ∈ PROPERTY_TO_POLICY.entries ∧
      policyOf (reference o entry.1 entry.2) = .ok (some (.policy policy)) := by
  have known : ∀ entry ∈ PROPERTIES, ∃ other ∈ PROPERTY_TO_POLICY.entries, other.1 = entry.1 := by
    decide
  obtain ⟨⟨property, policy⟩, table, rfl⟩ := known entry listed
  refine ⟨policy, table, policyOf_eq_some_iff.mpr ⟨.str entry.1, entry.1, rfl, by rw [keyName], ?_⟩⟩
  exact policyNamed_eq_policy_iff.mpr table

/-- The registry goes by the log of the correct specification alone. -/
theorem allProven_load_iff_clean {directory : Directory}
    (written : ∀ file, file ∈ artifacts directory ↔
      ∃ entry ∈ PROPERTIES, file = some (reference o entry.1 entry.2)) :
    (load (some directory)).allProven = true ↔ CleanLog o.provenLog := by
  have mem (r : Json) : r ∈ readable directory ↔
      ∃ entry ∈ PROPERTIES, r = reference o entry.1 entry.2 := by
    simp [readable, List.mem_filterMap, written]
  have clean : Readable directory := by
    refine ⟨fun file listed => ?_, ?_, fun name r last => ?_⟩
    · obtain ⟨entry, known, rfl⟩ := (written file).mp listed
      obtain ⟨policy, -, read⟩ := @policyOf_reference o entry known
      exact ⟨_, rfl, _, read⟩
    · obtain ⟨policy, -, read⟩ :=
        @policyOf_reference o ("MAX_TRANSFER".toList, "amount <= maxTransaction".toList) (by decide)
      exact ⟨_, (mem _).mpr ⟨_, by decide, rfl⟩, _, leadsTo_iff.mpr read⟩
    · obtain ⟨inside, leads⟩ := List.mem_filter.mp (List.mem_of_getLast? last)
      obtain ⟨entry, known, rfl⟩ := (mem r).mp inside
      obtain ⟨policy, -, read⟩ := @policyOf_reference o entry known
      rw [leadsTo_iff, read] at leads
      cases leads
  rw [allProven_load_iff_decided, and_iff_right clean, ← forall_classify_iff]
  constructor
  · intro decided entry known
    obtain ⟨policy, table, -⟩ := @policyOf_reference o entry known
    have inside : reference o entry.1 entry.2 ∈ (readable directory).filter (isFor entry.1) :=
      List.mem_filter.mpr ⟨(mem _).mpr ⟨entry, known, rfl⟩, (isFor_reference _ _ _).mpr rfl⟩
    have nonempty := List.ne_nil_of_mem inside
    obtain ⟨last, named⟩ := List.mem_filter.mp (List.getLast_mem nonempty)
    have proven := decided _ table _ (List.getLast?_eq_some_getLast nonempty)
    obtain ⟨other, known', same⟩ := (mem _).mp last
    rw [same, isFor_reference] at named
    rw [same, isProven_reference] at proven
    have unique : ∀ entry ∈ PROPERTIES, ∀ other ∈ PROPERTIES, other.1 = entry.1 → other = entry := by
      decide
    rwa [unique entry known other known' named] at proven
  · intro proven entry table r last
    obtain ⟨inside, -⟩ := List.mem_filter.mp (List.mem_of_getLast? last)
    obtain ⟨other, known, rfl⟩ := (mem r).mp inside
    exact isProven_reference.mpr (proven other known)

/-- The registry's flag against the evidence, and against the flag the same run writes. -/
theorem allProven_flags_iff (directory : Directory) :
    (((load (some directory)).allProven = true ↔ Proven directory) ↔
      (Decided directory → (Readable directory ↔ Complete directory))) ∧
    (load none).allProven = false ∧
    ∀ (o : SmtOptions) (before written : Directory),
      mentions o.provenLog "No SMT solver available" = false →
      (∀ name ∈ before.keys, isArtifact name = true →
        ∃ entry ∈ PROPERTIES, name = entry.1 ++ ".json".toList) →
      written.entries.Perm (parseSmtOutput o before).2.entries →
      ((summary o).field "allProven".toList = some (.bool (load (some written)).allProven) ↔
        (CleanLog o.provenLog → mentions o.brokenLog "Assertion violation" = true)) := by
  refine ⟨allProven_agrees_iff, allProven_notRun, fun o before written solver alone listed => ?_⟩
  have files : (parseSmtOutput o before).2 = writeFiles o before := by
    rw [parseSmtOutput, if_neg (by rw [solver]; exact Bool.false_ne_true)]
  rw [files] at listed
  have flag : (summary o).field "allProven".toList = some (.bool (Scripts.allProven o)) := rfl
  rw [flag, Option.some.injEq, Json.bool.injEq, Bool.eq_iff_iff, allProven_iff_clean,
    allProven_load_iff_clean (mem_artifacts_writeFiles alone listed)]
  exact and_iff_left_iff_imp

/-! ### One artifact of two, and a broken specification nobody caught -/

/-- A proof of one property, and nothing about the other. -/
def maxOnly : Directory where
  entries := [("MAX_TRANSFER.json".toList, some (.obj [
    ("property".toList, .str "MAX_TRANSFER".toList), ("status".toList, .str "PROVEN".toList)]))]
  nodup := List.nodup_singleton _

theorem not_allProven_flags_maxOnly :
    (load (some maxOnly)).allProven = true ∧ ¬ Proven maxOnly := by
  refine ⟨by decide +kernel, fun proven => ?_⟩
  obtain ⟨r, mem, named⟩ := proven.present ("DAILY_SPEND".toList, "dailySpend".toList) (by decide)
  have one : readable maxOnly = [.obj [
    ("property".toList, .str "MAX_TRANSFER".toList), ("status".toList, .str "PROVEN".toList)]] := rfl
  rw [one, List.mem_singleton] at mem
  rw [mem] at named
  exact absurd named (by decide +kernel)

/-- The broken specification verified as cleanly as the correct one. -/
def inertRun : SmtOptions where
  provenLog := "Info: CHC: 2 verification condition(s) proved safe!".toList
  brokenLog := "Info: CHC: 2 verification condition(s) proved safe!".toList
  elapsedMs := some 1200
  generatedAt := "2025-01-01T00:00:00.000Z".toList

theorem allProven_flags_inertRun :
    (parseSmtOutput inertRun .empty).1 = 1 ∧
      (summary inertRun).field "allProven".toList ≠
        some (.bool (load (some (parseSmtOutput inertRun .empty).2)).allProven) := by
  refine ⟨by decide +kernel, fun same => ?_⟩
  have caught := ((allProven_flags_iff .empty).2.2 inertRun .empty
    (parseSmtOutput inertRun .empty).2 (by decide +kernel)
    (fun _ mem => absurd mem List.not_mem_nil) (List.Perm.refl _)).mp same
  have clean : CleanLog inertRun.provenLog := by
    constructor <;> decide +kernel
  exact absurd (caught clean) (by decide +kernel)

end Sdk

end AgentProof
