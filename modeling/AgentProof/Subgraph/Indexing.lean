import AgentProof.Contracts.SpendEvents
import AgentProof.Subgraph.Mapping

/-!
# The store behind the events

The store after any recorded events, as far as an account that acts through
executions only is concerned: its daily aggregates are the totals, numbers and
maxima of the amounts recorded so far, and its agent entity has their sum.
-/

namespace AgentProof

namespace Subgraph

open AgentPolicyHook (Event)
open Sdk (addressText)

/-- All amounts recorded for the account. -/
def amountsOf (account : Address) (es : List Event) : List Nat :=
  es.filterMap fun
    | .spendRecorded sender _ amount _ _ => if sender = account then some amount.toNat else none
    | _ => none

/-! ## What the store holds -/

/-- The aggregate of a day beside the amounts recorded on it. -/
structure Aggregates (account : Address) (day : Int) (amounts : List Nat) (a : DailyAggregate) :
    Prop where
  account : a.account = account
  day : a.day = day
  totalOutflow : a.totalOutflow = amounts.sum
  executionCount : a.executionCount = BitVec.ofNat 32 amounts.length
  largestOutflow : a.largestOutflow = amounts.foldl max 0

/-- The account's agent entity after the events `es`. -/
def AgentTotals (account : Address) (es : List Event) : Option Agent → Prop
  | some agent => agent.totalOutflow = (amountsOf account es).sum
  | none => es.any (isInstallOf account) = false

/-- The store after the events `es`, as far as the account is concerned. -/
structure Indexed (toI32 : Nat → Option Int) (account : Address) (es : List Event) (s : Store) :
    Prop where
  agent : AgentTotals account es (s.agents.get (addressText account))
  none : ∀ day i, toI32 day.toNat = some i → amountsOn account day es = [] →
    s.dailyAggregates.get (aggregateId account i) = none
  some : ∀ day, amountsOn account day es ≠ [] → ∃ i a, toI32 day.toNat = some i ∧
    s.dailyAggregates.get (aggregateId account i) = some a ∧
    Aggregates account i (amountsOn account day es) a
  ids : ∀ id a, (id, a) ∈ s.dailyAggregates.entries → id = aggregateId a.account a.day

section Handlers

variable {toI32 : Nat → Option Int} {account : Address} {es : List Event} {s s' : Store}

theorem amountsOf_concat (e : Event) :
    amountsOf account (es ++ [e]) = amountsOf account es ++ amountsOf account [e] :=
  List.filterMap_append

theorem amountsOf_of_silent {e : Event} (silent : isSpendOf account e = false) :
    amountsOf account (es ++ [e]) = amountsOf account es := by
  rw [amountsOf_concat, List.append_right_eq_self]
  cases e with
  | spendRecorded sender target amount total today =>
      have stranger : sender ≠ account := by simpa [isSpendOf] using silent
      simp [amountsOf, stranger]
  | _ => rfl

theorem amountsOn_of_silent {e : Event} (silent : isSpendOf account e = false) (day : Uint64) :
    amountsOn account day (es ++ [e]) = amountsOn account day es := by
  have nothing : amountsOn account day [e] = [] := amountsOn_eq_nil (by simpa using silent)
  rw [amountsOn_append, nothing, List.append_nil]

/-- Without an install there is nothing recorded. -/
theorem amountsOf_eq_nil (recorded : Recorded account es)
    (absent : es.any (isInstallOf account) = false) : amountsOf account es = [] := by
  rw [amountsOf, List.filterMap_eq_nil_iff]
  intro e mem
  obtain ⟨i, at_i⟩ := List.getElem?_of_mem mem
  cases e with
  | spendRecorded sender target amount total day =>
      rcases eq_or_ne sender account with rfl | stranger
      · obtain ⟨-, installed⟩ := recorded i target amount total day at_i
        have everywhere : es.any (isInstallOf sender) = true := by
          rw [List.any_eq_true] at installed ⊢
          obtain ⟨e, mem, install⟩ := installed
          exact ⟨e, List.mem_of_mem_take mem, install⟩
        rw [absent] at everywhere
        exact absurd everywhere (by simp)
      · simp [stranger]
  | _ => rfl

/-- A handler that leaves the account's aggregates alone, for an event that is
no spend of the account. -/
theorem Indexed.of_silent (indexed : Indexed toI32 account es s) {e : Event}
    (silent : isSpendOf account e = false)
    (aggregates : ∀ i, s'.dailyAggregates.get (aggregateId account i) =
      s.dailyAggregates.get (aggregateId account i))
    (ids : ∀ id a, (id, a) ∈ s'.dailyAggregates.entries → id = aggregateId a.account a.day)
    (agent : AgentTotals account (es ++ [e]) (s'.agents.get (addressText account))) :
    Indexed toI32 account (es ++ [e]) s' where
  agent := agent
  none day i converts absent := by
    rw [amountsOn_of_silent silent] at absent
    rw [aggregates]
    exact indexed.none day i converts absent
  some day present := by
    rw [amountsOn_of_silent silent] at present ⊢
    obtain ⟨i, a, converts, found, aggregate⟩ := indexed.some day present
    exact ⟨i, a, converts, by rw [aggregates, found], aggregate⟩
  ids := ids

/-- The agent entity after an event that is no spend and no install of the account. -/
theorem AgentTotals.append {found : Option Agent} (totals : AgentTotals account es found)
    {e : Event} (silent : isSpendOf account e = false) (install : isInstallOf account e = false) :
    AgentTotals account (es ++ [e]) found := by
  cases found with
  | some known =>
      have total : known.totalOutflow = (amountsOf account es).sum := totals
      rwa [AgentTotals, amountsOf_of_silent silent]
  | none =>
      have absent : es.any (isInstallOf account) = false := totals
      rw [AgentTotals, List.any_append, absent]
      simp [install]

theorem Indexed.policyInstalled (indexed : Indexed toI32 account es s)
    (recorded : Recorded account es) (e : LogEvent) (sender : Address) (policyHash : Bytes32)
    (asset : Address) :
    Indexed toI32 account (es ++ [.policyInstalled sender policyHash asset])
      (handlePolicyInstalled s e sender policyHash asset) := by
  have silent : isSpendOf account (.policyInstalled sender policyHash asset) = false := rfl
  have same : (handlePolicyInstalled s e sender policyHash asset).dailyAggregates =
      s.dailyAggregates := rfl
  refine indexed.of_silent silent (fun _ => by rw [same]) (by rw [same]; exact indexed.ids) ?_
  have agents : (handlePolicyInstalled s e sender policyHash asset).agents =
      s.agents.set (addressText sender)
        { (s.agents.get (addressText sender)).getD ⟨0, 0, 0, 0, [], 0, 0⟩ with
          policyHash := policyHash
          asset := asset
          hook := e.address
          installedAt := e.blockTimestamp } := rfl
  have totals := indexed.agent
  rcases eq_or_ne sender account with rfl | stranger
  · rw [agents, OrderedMap.get_set_self, AgentTotals, amountsOf_of_silent silent]
    cases found : s.agents.get (addressText sender) with
    | some known =>
        rw [found] at totals
        exact totals
    | none =>
        rw [found] at totals
        rw [amountsOf_eq_nil recorded totals]
        rfl
  · rw [agents, OrderedMap.get_set_of_ne _ _ (Sdk.addressText_injective.ne (Ne.symm stranger))]
    exact totals.append silent (by simp [isInstallOf, stranger])

theorem Indexed.policyUninstalled (indexed : Indexed toI32 account es s) (sender : Address) :
    Indexed toI32 account (es ++ [.policyUninstalled sender])
      (handlePolicyUninstalled s sender) := by
  have silent : isSpendOf account (.policyUninstalled sender) = false := rfl
  have totals := indexed.agent.append silent rfl
  unfold handlePolicyUninstalled
  cases found : s.agents.get (addressText sender) with
  | none => exact indexed.of_silent silent (fun _ => by rfl) indexed.ids totals
  | some known =>
      refine indexed.of_silent silent (fun _ => by rfl) indexed.ids ?_
      rcases eq_or_ne sender account with rfl | stranger
      · rw [found] at totals
        rw [OrderedMap.get_set_self]
        exact totals
      · rwa [OrderedMap.get_set_of_ne _ _ (Sdk.addressText_injective.ne (Ne.symm stranger))]

/-- What handling a spend does to the store. -/
theorem handleSpendRecorded_eq_some {e : LogEvent} {sender target : Address}
    {amount total : Uint256} {day : Uint64}
    (handled : handleSpendRecorded toI32 s e sender target amount total day = .some s') :
    s.agents.get (addressText sender) = .none ∧ s' = s ∨
      ∃ agent i, s.agents.get (addressText sender) = .some agent ∧ toI32 day.toNat = .some i ∧
        s'.agents = s.agents.set (addressText sender) { agent with
          totalOutflow := agent.totalOutflow + amount.toNat
          executionCount := agent.executionCount + 1 } ∧
        s'.dailyAggregates = s.dailyAggregates.set (aggregateId sender i)
          (.spend (s.dailyAggregates.get (aggregateId sender i)) sender i amount.toNat
            total.toNat e.blockNumber) := by
  unfold handleSpendRecorded at handled
  cases known : s.agents.get (addressText sender) with
  | none =>
      rw [known] at handled
      exact .inl ⟨rfl, (Option.some.inj handled).symm⟩
  | some agent =>
      simp only [known, Option.bind_eq_bind, Option.bind_eq_some_iff, Option.some.injEq] at handled
      obtain ⟨i, converts, rfl⟩ := handled
      exact .inr ⟨agent, i, rfl, converts, rfl, rfl⟩

/-- The day and account of an aggregate are those it was made for. -/
theorem spend_ids {known : Option DailyAggregate} {sender : Address} {i : Int}
    (ids : ∀ a, known = .some a → aggregateId sender i = aggregateId a.account a.day)
    (amount total blockNumber : Nat) :
    (DailyAggregate.spend known sender i amount total blockNumber).account = sender ∧
      (DailyAggregate.spend known sender i amount total blockNumber).day = i := by
  cases known with
  | none => exact ⟨rfl, rfl⟩
  | some a =>
      obtain ⟨account, day⟩ := aggregateId_injective (ids a rfl)
      exact ⟨account.symm, day.symm⟩

/-- Entries of an updated map. -/
theorem mem_entries_set {K V : Type} [DecidableEq K] (m : OrderedMap K V) {k k' : K} {v v' : V}
    (mem : (k', v') ∈ (m.set k v).entries) : k' = k ∧ v' = v ∨ (k', v') ∈ m.entries := by
  rw [← OrderedMap.get_eq_some_iff, OrderedMap.get_set] at mem
  split_ifs at mem with here
  · exact .inl ⟨here, (Option.some.inj mem).symm⟩
  · exact .inr ((OrderedMap.get_eq_some_iff m).mp mem)

/-- Handling a spend keeps the ids in step. -/
theorem Indexed.spend_ids (indexed : Indexed toI32 account es s) {sender : Address} {i : Int}
    {amount total blockNumber : Nat} {id : Text} {a : DailyAggregate}
    (mem : (id, a) ∈ (s.dailyAggregates.set (aggregateId sender i)
      (.spend (s.dailyAggregates.get (aggregateId sender i)) sender i amount total
        blockNumber)).entries) : id = aggregateId a.account a.day := by
  rcases mem_entries_set _ mem with ⟨rfl, rfl⟩ | before
  · obtain ⟨account, day⟩ := @Subgraph.spend_ids (s.dailyAggregates.get (aggregateId sender i))
      sender i (fun a found => indexed.ids _ a ((OrderedMap.get_eq_some_iff _).mp found)) amount total
      blockNumber
    rw [account, day]
  · exact indexed.ids id a before

/-- A spend of another account. -/
theorem Indexed.stranger (indexed : Indexed toI32 account es s) {e : LogEvent}
    {sender target : Address} {amount total : Uint256} {day : Uint64} (stranger : sender ≠ account)
    (handled : handleSpendRecorded toI32 s e sender target amount total day = .some s') :
    Indexed toI32 account (es ++ [.spendRecorded sender target amount total day]) s' := by
  have silent : isSpendOf account (.spendRecorded sender target amount total day) = false := by
    simp [isSpendOf, stranger]
  have totals := indexed.agent.append silent rfl
  rcases handleSpendRecorded_eq_some handled with ⟨-, rfl⟩ | ⟨agent, i, -, -, agents, aggregates⟩
  · exact indexed.of_silent silent (fun _ => by rfl) indexed.ids totals
  · refine indexed.of_silent silent (fun j => ?_) (fun id a mem => ?_) ?_
    · rw [aggregates, OrderedMap.get_set_of_ne]
      exact fun same => stranger (aggregateId_injective same).1.symm
    · rw [aggregates] at mem
      exact indexed.spend_ids mem
    · rwa [agents, OrderedMap.get_set_of_ne _ _ (Sdk.addressText_injective.ne (Ne.symm stranger))]

/-- One more spend of a day. -/
theorem Aggregates.spend {known : Option DailyAggregate} {i : Int} {amounts : List Nat}
    (before : match known with
      | .some a => Aggregates account i amounts a
      | .none => amounts = []) (amount : Nat) {total blockNumber : Nat}
    (sum : total = amounts.sum + amount) :
    Aggregates account i (amounts ++ [amount])
      (DailyAggregate.spend known account i amount total blockNumber) := by
  have greater (m : Nat) : (if amount > m then amount else m) = max m amount := by
    split_ifs with larger
    · exact (max_eq_right (le_of_lt larger)).symm
    · exact (max_eq_left (not_lt.mp larger)).symm
  cases known with
  | none =>
      obtain rfl : amounts = [] := before
      exact ⟨rfl, rfl, by simpa [DailyAggregate.spend] using sum, rfl, greater 0⟩
  | some a =>
      have aggregate : Aggregates account i amounts a := before
      refine ⟨aggregate.account, aggregate.day, ?_, ?_, ?_⟩
      · simpa [DailyAggregate.spend] using sum
      · simp only [DailyAggregate.spend, Option.getD_some, aggregate.executionCount,
          List.length_append, List.length_singleton, BitVec.ofNat_add]
        rfl
      · simp only [DailyAggregate.spend, Option.getD_some, aggregate.largestOutflow, greater,
          List.foldl_append, List.foldl_cons, List.foldl_nil]

/-- The account's own spend. -/
theorem Indexed.spend (days : ConvertsDays toI32) (indexed : Indexed toI32 account es s)
    {e : LogEvent} {target : Address} {amount total : Uint256} {day : Uint64}
    (recorded : Recorded account (es ++ [.spendRecorded account target amount total day]))
    (handled : handleSpendRecorded toI32 s e account target amount total day = .some s') :
    Indexed toI32 account (es ++ [.spendRecorded account target amount total day]) s' := by
  obtain ⟨sum, installed⟩ := recorded.last
  have totals := indexed.agent
  rcases handleSpendRecorded_eq_some handled with ⟨unknown, -⟩ | ⟨agent, i, known, converts,
    agents, aggregates⟩
  · rw [unknown, AgentTotals, installed] at totals
    simp at totals
  · rw [known] at totals
    have before : match s.dailyAggregates.get (aggregateId account i) with
        | .some a => Aggregates account i (amountsOn account day es) a
        | .none => amountsOn account day es = [] := by
      rcases eq_or_ne (amountsOn account day es) [] with empty | present
      · rw [indexed.none day i converts empty]
        exact empty
      · obtain ⟨i', a, converts', found, aggregate⟩ := indexed.some day present
        obtain rfl : i = i' := Option.some.inj (converts.symm.trans converts')
        rw [found]
        exact aggregate
    have elsewhere : ∀ day' i', toI32 day'.toNat = .some i' → day ≠ day' →
        aggregateId account i' ≠ aggregateId account i := fun day' i' converts' other same => by
      obtain rfl := (aggregateId_injective same).2
      exact other (BitVec.eq_of_toNat_eq (days.injective converts converts'))
    refine ⟨?_, fun day' i' converts' absent => ?_, fun day' present => ?_, fun id a mem => ?_⟩
    · rw [agents, OrderedMap.get_set_self, AgentTotals, amountsOf_concat, List.sum_append]
      have total : agent.totalOutflow = (amountsOf account es).sum := totals
      simp [amountsOf, total]
    · rw [amountsOn_append, amountsOn_spend, List.append_eq_nil_iff] at absent
      have other : day ≠ day' := fun same => by simp [same] at absent
      rw [aggregates, OrderedMap.get_set_of_ne _ _ (elsewhere day' i' converts' other)]
      exact indexed.none day' i' converts' absent.1
    · rw [amountsOn_append, amountsOn_spend] at present ⊢
      rw [aggregates]
      rcases eq_or_ne day day' with rfl | other
      · rw [if_pos rfl]
        exact ⟨i, _, converts, OrderedMap.get_set_self _ _ _, .spend before amount.toNat sum⟩
      · rw [if_neg other, List.append_nil] at present ⊢
        obtain ⟨i', a, converts', found, aggregate⟩ := indexed.some day' present
        refine ⟨i', a, converts', ?_, aggregate⟩
        rw [OrderedMap.get_set_of_ne _ _ (elsewhere day' i' converts' other), found]
    · rw [aggregates] at mem
      exact indexed.spend_ids mem

/-- Every event, handled. -/
theorem Indexed.handle (days : ConvertsDays toI32) (indexed : Indexed toI32 account es s)
    {e : LogEvent} (recorded : Recorded account (es ++ [e.event]))
    (handled : Subgraph.handle toI32 s e = .some s') :
    Indexed toI32 account (es ++ [e.event]) s' := by
  unfold Subgraph.handle at handled
  cases event : e.event with
  | policyInstalled sender policyHash asset =>
      rw [event] at handled
      obtain rfl := Option.some.inj handled
      exact indexed.policyInstalled recorded.of_append e sender policyHash asset
  | spendRecorded sender target amount total day =>
      rw [event] at handled recorded
      rcases eq_or_ne sender account with rfl | stranger
      · exact indexed.spend days recorded handled
      · exact indexed.stranger stranger handled
  | targetAllowed sender target allowed =>
      rw [event] at handled
      obtain rfl := Option.some.inj handled
      have silent : isSpendOf account (.targetAllowed sender target allowed) = false := rfl
      exact indexed.of_silent silent (fun _ => by rfl) indexed.ids
        (indexed.agent.append silent rfl)
  | policyUninstalled sender =>
      rw [event] at handled
      obtain rfl := Option.some.inj handled
      exact indexed.policyUninstalled sender

/-- The store after any recorded events. -/
theorem indexed_of_index (days : ConvertsDays toI32) {log : List LogEvent}
    (recorded : Recorded account (log.map LogEvent.event)) (ran : index toI32 log = .some s) :
    Indexed toI32 account (log.map LogEvent.event) s := by
  induction log using List.reverseRecOn generalizing s with
  | nil =>
      obtain rfl : Store.empty = s := by simpa [index] using ran
      exact ⟨rfl, fun _ _ _ _ => rfl, fun _ present => absurd rfl present,
        fun id a mem => by simp [Store.empty] at mem⟩
  | append_singleton log e ih =>
      rw [List.map_append, List.map_singleton] at recorded ⊢
      rw [index_concat, Option.bind_eq_some_iff] at ran
      obtain ⟨s₁, ran, handled⟩ := ran
      exact (ih recorded.of_append ran).handle days recorded handled

end Handlers

end Subgraph

end AgentProof
