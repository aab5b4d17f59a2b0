import AgentProof.Contracts.Limits
import AgentProof.Contracts.Transfers
import AgentProof.Sdk.GraphState
import AgentProof.Sdk.Transfers
import AgentProof.Subgraph.Indexing
import Mathlib.Algebra.BigOperators.Intervals

/-!
# The indexed history of an account

The spend of the current day as the provider reads it from the hook and from a
store that any prefix of the hook's events was indexed into.  Amounts only add
up, so the total that a prefix shows is at most what the hook's window says, and
the reconciled spend is the window's, however far the indexing has come.
-/

namespace AgentProof

namespace Subgraph

open AgentPolicyHook (Event Config dayOf encodeInstallData)
open PolicyLib (Window)
open Sdk (addressText)

/-! ## The query -/

section Query

variable {toI32 : Nat → Option Int} {account : Address} {es : List Event} {s : Store}

/-- A filter that one value passes. -/
theorem filter_take_one {α : Type} {l : List α} {p : α → Bool} {x : α} (mem : x ∈ l)
    (passes : p x = true) (only : ∀ y ∈ l, p y = true → y = x) : (l.filter p).take 1 = [x] := by
  have kept : x ∈ l.filter p := List.mem_filter.mpr ⟨mem, passes⟩
  cases filtered : l.filter p with
  | nil =>
      rw [filtered] at kept
      simp at kept
  | cons y rest =>
      have first : y ∈ l.filter p := by rw [filtered]; simp
      obtain ⟨inside, holds⟩ := List.mem_filter.mp first
      rw [List.take_succ_cons, List.take_zero, only y inside holds]

/-- A one-row reply is read for its total. -/
theorem indexedSpend_row (id : Text) (a : DailyAggregate) :
    Sdk.GraphStateProvider.indexedSpend (.obj [("data".toList, .obj [("dailyAggregates".toList,
      .arr [aggregateRow (id, a)])])]) = .ok (.some (a.totalOutflow : Nat)) := by
  have answer : Sdk.GraphStateProvider.bodyAnswer (.obj [("data".toList,
      .obj [("dailyAggregates".toList, .arr [aggregateRow (id, a)])])]) =
        (Json.toBigInt (.some (.str (Js.toDecimal a.totalOutflow)))).toOption := rfl
  refine Sdk.GraphStateProvider.indexedSpend_of_answer (answer.trans ?_)
  rw [Json.toBigInt, Js.bigInt_toDecimal]
  rfl

/-- The reply states what has been recorded on the day so far. -/
theorem indexedSpend_dailySpendReply (days : ConvertsDays toI32) (indexed : Indexed toI32 account es s)
    {day : Uint64} {body : Json}
    (replied : dailySpendReply s (addressText account) day.toNat = .ok body) :
    Sdk.GraphStateProvider.indexedSpend body =
      .ok (.some ((amountsOn account day es).sum : Nat)) := by
  rw [dailySpendReply, guard_eq_ok_iff, Except.ok.injEq] at replied
  obtain ⟨small, rfl⟩ := replied
  have converts := days.exact day.toNat (by omega)
  have only : ∀ a, ∀ row ∈ s.dailyAggregates.entries,
      decide (addressText row.2.account = addressText account ∧ row.2.day = (day.toNat : Int)) = true →
      s.dailyAggregates.get (aggregateId account day.toNat) = .some a →
      row = (aggregateId account day.toNat, a) := by
    rintro a ⟨id, row⟩ mem fits found
    obtain ⟨accounts, onDay⟩ := of_decide_eq_true fits
    have at_id := indexed.ids id row mem
    rw [Sdk.addressText_injective accounts, onDay] at at_id
    rw [at_id] at mem ⊢
    rw [← OrderedMap.get_eq_some_iff, found, Option.some.injEq] at mem
    rw [mem]
  rcases eq_or_ne (amountsOn account day es) [] with empty | present
  · have missing := indexed.none day _ converts empty
    have rows : (s.dailyAggregates.entries.filter fun row =>
        addressText row.2.account = addressText account ∧ row.2.day = (day.toNat : Int)) = [] := by
      rw [List.filter_eq_nil_iff]
      rintro ⟨id, row⟩ mem fits
      obtain ⟨accounts, onDay⟩ := of_decide_eq_true fits
      have at_id := indexed.ids id row mem
      rw [Sdk.addressText_injective accounts, onDay] at at_id
      rw [at_id, ← OrderedMap.get_eq_some_iff, missing] at mem
      simp at mem
    rw [rows, empty]
    rfl
  · obtain ⟨i, a, converts', found, aggregate⟩ := indexed.some day present
    obtain rfl := Option.some.inj (converts.symm.trans converts')
    have passes : decide (addressText a.account = addressText account ∧
        a.day = (day.toNat : Int)) = true := by
      rw [aggregate.account, aggregate.day]
      simp
    have mem : (aggregateId account day.toNat, a) ∈ s.dailyAggregates.entries :=
      (OrderedMap.get_eq_some_iff _).mp found
    have rows : (s.dailyAggregates.entries.filter fun row =>
        addressText row.2.account = addressText account ∧ row.2.day = (day.toNat : Int)).take 1 =
          [(aggregateId account day.toNat, a)] :=
      filter_take_one mem passes fun row mem fits => only a row mem fits found
    rw [rows, List.map_singleton, indexedSpend_row, aggregate.totalOutflow]

end Query

/-! ## End to end -/

/-- All amounts, day by day. -/
theorem sum_amountsOf (account : Address) (es : List Event) :
    (amountsOf account es).sum =
      ∑ day ∈ Finset.range (2 ^ 64), (amountsOn account (BitVec.ofNat 64 day) es).sum := by
  induction es with
  | nil => simp [amountsOf, amountsOn]
  | cons e rest ih =>
      have split : ∀ day, (amountsOn account day (e :: rest)).sum =
          (amountsOn account day [e]).sum + (amountsOn account day rest).sum := fun day => by
        rw [← List.singleton_append, amountsOn_append, List.sum_append]
      simp only [split, Finset.sum_add_distrib]
      rw [← ih, ← List.singleton_append, amountsOf, List.filterMap_append, List.sum_append]
      refine congrArg (· + _) ?_
      rcases own : isSpendOf account e with _ | _
      · have silent : ∀ e' ∈ [e], isSpendOf account e' = false := by simpa using own
        rw [Finset.sum_eq_zero fun day _ => by rw [amountsOn_eq_nil silent, List.sum_nil]]
        have nothing := @amountsOf_of_silent account [] e own
        rw [amountsOf, List.nil_append] at nothing
        rw [nothing]
        rfl
      · cases e with
        | spendRecorded sender target amount total today =>
            obtain rfl : sender = account := by simpa [isSpendOf] using own
            have bound := today.isLt
            rw [Finset.sum_eq_single_of_mem today.toNat (Finset.mem_range.mpr bound)]
            · rw [BitVec.ofNat_toNat, BitVec.setWidth_eq, amountsOn_spend]
              simp
            · intro day mem other
              have elsewhere : today ≠ BitVec.ofNat 64 day := by
                rintro rfl
                rw [BitVec.toNat_ofNat, Nat.mod_eq_of_lt (Finset.mem_range.mp mem)] at other
                exact other rfl
              rw [amountsOn_spend, if_neg elsewhere, List.sum_nil]
        | _ => simp [isSpendOf] at own

/-- What of the window counts today has been recorded today. -/
theorem sum_amountsOn_today {account : Address} {w : World} {es : List Event}
    (tracks : Tracks account w es) (fits : w.timestamp / 86400 < 2 ^ 64) :
    (amountsOn account (dayOf w.timestamp) es).sum =
      ((w.hook.window account).base (dayOf w.timestamp)).toNat := by
  have today : (dayOf w.timestamp).toNat = w.timestamp / 86400 := by
    rw [dayOf, BitVec.toNat_ofNat, Nat.mod_eq_of_lt fits]
  rw [Window.base]
  split_ifs with same
  · rw [← same, tracks.current]
  · have forward := tracks.forward
    rw [← today] at forward
    have after : (w.hook.window account).day < dayOf w.timestamp := by
      rw [BitVec.lt_def]
      exact lt_of_le_of_ne forward fun equal => same (BitVec.eq_of_toNat_eq equal)
    rw [tracks.later _ after]
    rfl

/-- The spend query of a store that is any prefix behind. -/
theorem queryIndexedSpend_of_prefix {toI32 : Nat → Option Int} (days : ConvertsDays toI32)
    {account : Address} {es : List Event} {s : Store} (indexed : Indexed toI32 account es s)
    {day : Uint64} {body : Json}
    (replied : dailySpendReply s (addressText account) day.toNat = .ok body) :
    Sdk.GraphStateProvider.queryIndexedSpend (dailySpendReply s) (addressText account) day.toNat =
      some ((amountsOn account day es).sum : Nat) := by
  have valid := Sdk.normalizeAddress_addressText account
  have lower : Js.toLowerCase (addressText account) = addressText account := by
    simpa [Sdk.normalizeAddress] using valid
  have total := indexedSpend_dailySpendReply days indexed replied
  rw [Sdk.GraphStateProvider.queryIndexedSpend, lower, replied]
  simp only [bind, Except.bind, total]
  rfl

/-- The hook's answer, read for its own day. -/
theorem readOnchainSpend_of_window {account : Address} {window : PolicyLib.Window}
    {options : Sdk.GraphStateProvider.Options} {call : Sdk.ChainCall}
    (chain : options.chain = some call)
    (answers : call options.hook (Sdk.GraphStateProvider.windowCalldata (addressText account)) =
      .ok (Sdk.windowCall window))
    {today : Uint64} (small : window.day.toNat < 2 ^ 53) :
    Sdk.GraphStateProvider.readOnchainSpend options (addressText account) today.toNat =
      some ((window.base today).toNat : Nat) := by
  have reply : Sdk.GraphStateProvider.hookReply options (addressText account) =
      some (.ok (Sdk.windowCall window)) := by
    rw [Sdk.GraphStateProvider.hookReply, chain, Option.map_some, answers]
  have read := @Sdk.readOnchainSpend_windowCall window today.toNat today rfl small
  exact (Sdk.GraphStateProvider.readOnchainSpend_of_reply reply).trans read

open Sdk.GraphStateProvider (Options Cache windowCalldata cachedValue getDailySpend
  getDailySpend_of_reads) in
/-- The reconciled spend of today from a store that is any prefix behind. -/
theorem getDailySpend_of_prefix {toI32 : Nat → Option Int} (days : ConvertsDays toI32)
    {account : Address} {w : World} {es : List Event} (tracks : Tracks account w es)
    {log : List LogEvent} {s : Store} (behind : log.map LogEvent.event <+: es)
    (ran : index toI32 log = some s) {options : Options} {call : Sdk.ChainCall}
    (chain : options.chain = some call)
    (answers : call options.hook (windowCalldata (addressText account)) =
      .ok (Sdk.windowCall (w.hook.window account)))
    {body : Json}
    (replied : dailySpendReply s (addressText account) (w.timestamp / 86400) = .ok body)
    {cache : Cache} {fresh : Bool} {now later : Int}
    (uncached : cachedValue cache (addressText account) (w.timestamp / 86400) fresh now = none) :
    (getDailySpend options (dailySpendReply s) cache (addressText account) (w.timestamp / 86400)
      fresh now later).1 =
        .ok (((w.hook.window account).base (dayOf w.timestamp)).toNat : Nat) := by
  have small : w.timestamp / 86400 < 2 ^ 31 := by
    rw [dailySpendReply, guard_eq_ok_iff] at replied
    omega
  have covered := sum_amountsOn_today tracks (by omega)
  have forward := tracks.forward
  have today : w.timestamp / 86400 = (dayOf w.timestamp).toNat := by
    rw [dayOf, BitVec.toNat_ofNat, Nat.mod_eq_of_lt (by omega)]
  rw [today] at replied uncached ⊢
  obtain ⟨more, rfl⟩ := behind
  have indexed := indexed_of_index days tracks.recorded.of_append ran
  have read := queryIndexedSpend_of_prefix days indexed replied
  have onchain := @readOnchainSpend_of_window account (w.hook.window account) options call chain
    answers (dayOf w.timestamp) (by omega)
  rw [amountsOn_append, List.sum_append] at covered
  rw [getDailySpend_of_reads (Sdk.normalizeAddress_addressText account) uncached read onchain]
  refine congrArg Except.ok ?_
  exact max_eq_right (by omega)

/-- The aggregate of a day once every event is indexed. -/
structure History (account : Address) (amounts : List Nat) (a : DailyAggregate) : Prop where
  totalOutflow : a.totalOutflow = amounts.sum
  /-- The schema's counter is 32 bits wide. -/
  executionCount : a.executionCount.toInt = (amounts.length : Int).bmod (2 ^ 32)
  executionCount_of_lt : amounts.length < 2 ^ 31 → a.executionCount.toInt = amounts.length
  largestOutflow : a.largestOutflow = amounts.foldl max 0

theorem Aggregates.history {account : Address} {day : Int} {amounts : List Nat} {a : DailyAggregate}
    (aggregate : Aggregates account day amounts a) : History account amounts a where
  totalOutflow := aggregate.totalOutflow
  executionCount := by rw [aggregate.executionCount, BitVec.toInt_ofNat']
  executionCount_of_lt few := by
    rw [aggregate.executionCount, BitVec.toInt_ofNat']
    exact Int.bmod_eq_of_le (by omega) (by omega)
  largestOutflow := aggregate.largestOutflow

open Sdk.GraphStateProvider (Options Cache windowCalldata cachedValue getDailySpend) in
/-- The spend history of an account that acts through executions only: the
reconciled spend of today is the hook's after any prefix of the events, and the
whole history is indexed as it was recorded. -/
theorem history_of_run {toI32 : Nat → Option Int} (days : ConvertsDays toI32) {account : Address}
    {tokens : Address → Erc20} {timestamp : Nat} {steps : List Step}
    (direct : ∀ e ∈ (run steps (.deployed tokens timestamp)).2, bypasses account e = false)
    (installed :
      ((run steps (.deployed tokens timestamp)).1.hook.config account).installed = true) :
    let w := (run steps (.deployed tokens timestamp)).1
    let es := eventsOf (run steps (.deployed tokens timestamp)).2
    (∀ (log : List LogEvent) (s : Store) (options : Options) (call : Sdk.ChainCall) (body : Json)
        (cache : Cache) (fresh : Bool) (now later : Int),
      log.map LogEvent.event <+: es → index toI32 log = some s → options.chain = some call →
      call options.hook (windowCalldata (addressText account)) =
        .ok (Sdk.windowCall (w.hook.window account)) →
      dailySpendReply s (addressText account) (w.timestamp / 86400) = .ok body →
      cachedValue cache (addressText account) (w.timestamp / 86400) fresh now = none →
      (getDailySpend options (dailySpendReply s) cache (addressText account)
        (w.timestamp / 86400) fresh now later).1 =
          .ok (((w.hook.window account).base (dayOf w.timestamp)).toNat : Nat)) ∧
    ∀ (log : List LogEvent) (s : Store), log.map LogEvent.event = es →
      index toI32 log = some s →
      (∀ day, amountsOn account day es ≠ [] → ∃ i a, toI32 day.toNat = some i ∧
        s.dailyAggregates.get (aggregateId account i) = some a ∧
        History account (amountsOn account day es) a) ∧
      ∃ agent, s.agents.get (addressText account) = some agent ∧ agent.totalOutflow =
        ∑ day ∈ Finset.range (2 ^ 64), (amountsOn account (BitVec.ofNat 64 day) es).sum := by
  have tracks := tracks_of_run direct
  refine ⟨?_, ?_⟩
  · intro log s options call body cache fresh now later behind ran chain answers replied uncached
    exact getDailySpend_of_prefix days tracks behind ran chain answers replied uncached
  · intro log s whole ran
    have recorded := tracks.recorded
    rw [← whole] at recorded
    have indexed := indexed_of_index days recorded ran
    rw [whole] at indexed
    refine ⟨fun day present => ?_, ?_⟩
    · obtain ⟨i, a, converts, found, aggregate⟩ := indexed.some day present
      exact ⟨i, a, converts, found, aggregate.history⟩
    · have totals := indexed.agent
      cases found : s.agents.get (addressText account) with
      | none =>
          rw [found, AgentTotals, tracks.installed installed] at totals
          simp at totals
      | some agent =>
          rw [found] at totals
          exact ⟨agent, rfl, totals.trans (sum_amountsOf account _)⟩

/-! ## A day with more executions than the counter holds -/

theorem oneSupply_lt : 2 ^ 40 < 2 ^ 256 := by norm_num

def busyTokens : Address → Erc20 := fun _ => .issued sampleAccount (2 ^ 40) oneSupply_lt

def busyConfig : Config := ⟨sampleAsset, 1, 0x10000000000, 0, 0, true⟩

def payOneCalldata : Bytes := Token.encodeCall ExecutionLib.transferSelector
  [(0x22 : Address).setWidth 256, 1]

/-- The account pays one unit. -/
def payOne : Step :=
  .tx (executeToken ⟨sampleAccount, tokenMsgData sampleAsset payOneCalldata⟩ sampleAsset
    payOneCalldata)

def busyInstall : List Step :=
  hookCalls [(sampleAccount, .onInstall (encodeInstallData busyConfig [sampleAsset, 0x22]))]

/-- After the install and `n` payments on the first day. -/
structure Busy (n : Nat) (w : World) (log : List Entry) : Prop where
  config : w.hook.config sampleAccount = busyConfig
  asset : w.hook.allowedTarget sampleAccount sampleAsset = true
  payee : w.hook.allowedTarget sampleAccount 0x22 = true
  timestamp : w.timestamp = 0
  balance : w.balance sampleAsset sampleAccount + n = 2 ^ 40
  window : w.hook.window sampleAccount = ⟨0, BitVec.ofNat 256 n⟩
  amounts : amountsOn sampleAccount 0 (eventsOf log) = List.replicate n 1
  direct : ∀ e ∈ log, bypasses sampleAccount e = false

/-- One more payment. -/
theorem Busy.step {n : Nat} {w : World} {log : List Entry} (busy : Busy n w log)
    (few : n < 2 ^ 32) :
    Busy (n + 1) (payOne.run system w).1 (log ++ (payOne.run system w).2) := by
  have transfer : IsTransfer payOneCalldata 0x22 1 := isTransfer_encodeCall 0x22 1
  have shown : Shows (tokenMsgData sampleAsset payOneCalldata) sampleAsset payOneCalldata :=
    shows_tokenMsgData sampleAsset (by decide)
  have asset_eq : (w.hook.config sampleAccount).asset = sampleAsset := by rw [busy.config]; rfl
  have balance := busy.balance
  have today : dayOf w.timestamp = 0 := by rw [busy.timestamp]; rfl
  have counted : (BitVec.ofNat 256 n).toNat = n := by
    rw [BitVec.toNat_ofNat, Nat.mod_eq_of_lt (by omega)]
  have accepts : Accepts w sampleAccount 0x22 1 := {
    installed := by rw [busy.config]; rfl
    asset := by rw [asset_eq, busy.asset]
    counterparty := busy.payee
    sender := by decide
    nonzero := by decide
    covered := by
      rw [asset_eq]
      change 1 ≤ w.balance sampleAsset sampleAccount
      omega
    floor := by
      rw [busy.config]
      exact Nat.zero_le _
    spend := by
      refine .inr (.inr ?_)
      rw [busy.config, busy.window, today]
      refine ⟨BitVec.le_refl _, BitVec.le_refl _, ?_⟩
      change (BitVec.ofNat 256 n).toNat + 1 ≤ 2 ^ 40
      omega }
  obtain ⟨w', events, ran, recorded, hook, clock, rest⟩ :=
    executeTransfer_run transfer asset_eq shown accepts (by decide) (by decide)
  rw [payOne, Transaction.Step.run, ran]
  change Busy (n + 1) w' (log ++ _)
  have base : (w.hook.window sampleAccount).base (dayOf w.timestamp) = BitVec.ofNat 256 n := by
    rw [busy.window, today]
    rfl
  rw [base, today] at recorded hook
  subst recorded
  refine ⟨by rw [hook]; exact busy.config, by rw [hook]; exact busy.asset,
    by rw [hook]; exact busy.payee, clock.trans busy.timestamp, ?_, ?_, ?_, ?_⟩
  · rw [rest]
    change w.balance sampleAsset sampleAccount - 1 + (n + 1) = 2 ^ 40
    omega
  · rw [hook, BitVec.ofNat_add]
    simp only [Function.update_self]
    rfl
  · rw [eventsOf_append, amountsOn_append, busy.amounts, List.replicate_succ']
    rfl
  · intro e mem
    rcases List.mem_append.mp mem with earlier | last
    · exact busy.direct e earlier
    · rcases List.mem_pair.mp last with rfl | rfl <;> rfl

theorem busy_installed :
    Busy 0 (run busyInstall (.deployed busyTokens 0)).1
      (run busyInstall (.deployed busyTokens 0)).2 where
  config := by decide +kernel
  asset := by decide +kernel
  payee := by decide +kernel
  timestamp := by decide +kernel
  balance := by decide +kernel
  window := by decide +kernel
  amounts := by decide +kernel
  direct := by decide +kernel

theorem busy_run {n : Nat} {w : World} {log : List Entry} {m : Nat}
    (busy : Busy m w log) (total : m + n ≤ 2 ^ 32) :
    Busy (m + n) (run (List.replicate n payOne) w).1
      (log ++ (run (List.replicate n payOne) w).2) := by
  induction n generalizing m w log with
  | zero => simpa [run, Transaction.run] using busy
  | succ n ih =>
      have next := ih (busy.step (by omega)) (by omega)
      rw [List.append_assoc] at next
      rw [show m + (n + 1) = m + 1 + n by omega]
      exact next

/-- The install and a day of `n` payments. -/
def busyDay (n : Nat) : List Step := busyInstall ++ List.replicate n payOne

theorem busy_busyDay {n : Nat} (few : n ≤ 2 ^ 32) :
    Busy n (run (busyDay n) (.deployed busyTokens 0)).1
      (run (busyDay n) (.deployed busyTokens 0)).2 := by
  have busy := busy_run busy_installed ((Nat.zero_add n).trans_le few)
  rw [Nat.zero_add] at busy
  rw [run, busyDay, Transaction.run_append]
  exact busy

/-- The handlers go through when every day converts. -/
theorem index_of_total {toI32 : Nat → Option Int} (total : ∀ day, ∃ i, toI32 day = some i)
    (log : List LogEvent) : ∃ s, index toI32 log = some s := by
  induction log using List.reverseRecOn with
  | nil => exact ⟨.empty, rfl⟩
  | append_singleton log e ih =>
      obtain ⟨s, ran⟩ := ih
      rw [index_concat, ran, Option.bind_some, handle]
      cases e.event with
      | spendRecorded sender target amount dayTotal day =>
          obtain ⟨i, converts⟩ := total day.toNat
          simp only [handleSpendRecorded, converts]
          cases s.agents.get (addressText sender) <;> exact ⟨_, rfl⟩
      | _ => exact ⟨_, rfl⟩

/-- The counter of every day is the number of its executions. -/
def CountsExecutions : Prop :=
  ∀ (toI32 : Nat → Option Int) (account : Address) (tokens : Address → Erc20) (timestamp : Nat)
      (steps : List Step) (log : List LogEvent) (s : Store) (day : Uint64),
    ConvertsDays toI32 →
    (∀ e ∈ (run steps (.deployed tokens timestamp)).2, bypasses account e = false) →
    ((run steps (.deployed tokens timestamp)).1.hook.config account).installed = true →
    log.map LogEvent.event = eventsOf (run steps (.deployed tokens timestamp)).2 →
    index toI32 log = some s →
    amountsOn account day (eventsOf (run steps (.deployed tokens timestamp)).2) ≠ [] →
    ∃ i a, toI32 day.toNat = some i ∧ s.dailyAggregates.get (aggregateId account i) = some a ∧
      a.executionCount.toInt =
        (amountsOn account day (eventsOf (run steps (.deployed tokens timestamp)).2)).length

theorem bmod_of_countsExecutions (counts : CountsExecutions) {n : Nat} (few : n ≤ 2 ^ 32)
    (positive : 0 < n) : (n : Int).bmod (2 ^ 32) = n := by
  have days : ConvertsDays fun day => some (day : Int) :=
    ⟨fun _ _ => rfl, fun {day day' i} converts converts' => by
      exact_mod_cast Option.some.inj (converts.trans converts'.symm)⟩
  have busy := busy_busyDay few
  have recorded := (tracks_of_run busy.direct).recorded
  have counted := counts (fun day => some day) sampleAccount busyTokens 0 (busyDay n)
  generalize run (busyDay n) (.deployed busyTokens 0) = ended at *
  have installed : (ended.1.hook.config sampleAccount).installed = true := by rw [busy.config]; rfl
  have events : ((eventsOf ended.2).map fun event => (⟨event, 0, 0, 0, 0, 0⟩ : LogEvent)).map
      LogEvent.event = eventsOf ended.2 := by simp [Function.comp_def]
  generalize (eventsOf ended.2).map (fun event => (⟨event, 0, 0, 0, 0, 0⟩ : LogEvent)) = log
    at events
  have total : ∀ day : Nat, ∃ i, (fun day : Nat => some (day : Int)) day = some i :=
    fun day => ⟨day, rfl⟩
  obtain ⟨s, ran⟩ := index_of_total total log
  have present : amountsOn sampleAccount 0 (eventsOf ended.2) ≠ [] := by
    rw [busy.amounts]
    exact List.ne_nil_of_length_pos (by simpa using positive)
  obtain ⟨i, a, converts, found, count⟩ := counted log s 0 days busy.direct installed events ran
    present
  rw [← events] at recorded
  have indexed := indexed_of_index days recorded ran
  rw [events] at indexed
  obtain ⟨i', a', converts', found', aggregate⟩ := indexed.some 0 present
  obtain rfl := Option.some.inj (converts.symm.trans converts')
  obtain rfl := Option.some.inj (found.symm.trans found')
  rw [aggregate.executionCount, BitVec.toInt_ofNat', busy.amounts, List.length_replicate] at count
  exact count

theorem executionCount_wraps : ¬ CountsExecutions := by
  intro counts
  have wraps := bmod_of_countsExecutions counts (n := 2 ^ 31) (by norm_num) (by norm_num)
  have negative : ((2 ^ 31 : Nat) : Int).bmod (2 ^ 32) = -2 ^ 31 := by decide
  rw [negative] at wraps
  norm_num at wraps

/-! ## A sample history -/

def sampleToI32 (day : Nat) : Option Int := if day < 2 ^ 31 then some (day : Int) else none

theorem sampleToI32_converts : ConvertsDays sampleToI32 where
  exact day small := if_pos small
  injective {day day' i} converts converts' := by
    unfold sampleToI32 at converts converts'
    split_ifs at converts converts'
    obtain rfl := Option.some.inj converts
    exact_mod_cast (Option.some.inj converts').symm

/-- An install and two days of spending. -/
def sampleHistory : List Step :=
  hookCalls [(sampleAccount, .onInstall (encodeInstallData sampleConfig [sampleAsset, 0x22]))] ++
    sampleSpending

def sampleLog : List LogEvent :=
  (eventsOf (run sampleHistory (.deployed sampleTokens 0)).2).map fun event =>
    ⟨event, 0x400c, 1, 0, 0, 0⟩

/-- A provider whose chain answers with the window. -/
def providerOf (window : Window) : Sdk.GraphStateProvider.Options :=
  ⟨[], some fun _ _ => .ok (Sdk.windowCall window), true, none⟩

/-- The second day's spend is read although its event is not indexed yet. -/
theorem sampleHistory_indexed :
    let w := (run sampleHistory (.deployed sampleTokens 0)).1
    let es := eventsOf (run sampleHistory (.deployed sampleTokens 0)).2
    ∃ s s', index sampleToI32 (sampleLog.take 4) = some s ∧ index sampleToI32 sampleLog = some s' ∧
      (Sdk.GraphStateProvider.getDailySpend (providerOf (w.hook.window sampleAccount))
        (dailySpendReply s) .empty (addressText sampleAccount) (w.timestamp / 86400) false 0 0).1 =
          .ok (((w.hook.window sampleAccount).base (dayOf w.timestamp)).toNat : Nat) ∧
      (∃ i a, sampleToI32 0 = some i ∧
        s'.dailyAggregates.get (aggregateId sampleAccount i) = some a ∧
        History sampleAccount (amountsOn sampleAccount 0 es) a) ∧
      ∃ agent, s'.agents.get (addressText sampleAccount) = some agent := by
  obtain ⟨direct, installed, today, present, lagging, whole⟩ :
      let ended := run sampleHistory (.deployed sampleTokens 0)
      (∀ e ∈ ended.2, bypasses sampleAccount e = false) ∧
        (ended.1.hook.config sampleAccount).installed = true ∧ ended.1.timestamp / 86400 = 1 ∧
        amountsOn sampleAccount 0 (eventsOf ended.2) ≠ [] ∧
        (index sampleToI32 (sampleLog.take 4)).isSome = true ∧
        (index sampleToI32 sampleLog).isSome = true := by
    decide +kernel
  obtain ⟨s, ran⟩ := Option.isSome_iff_exists.mp lagging
  obtain ⟨s', ran'⟩ := Option.isSome_iff_exists.mp whole
  have events : sampleLog.map LogEvent.event =
      eventsOf (run sampleHistory (.deployed sampleTokens 0)).2 := by
    simp [sampleLog, Function.comp_def]
  have history := @history_of_run sampleToI32 sampleToI32_converts sampleAccount sampleTokens 0
    sampleHistory direct installed
  -- from here on the run is not to be computed
  generalize run sampleHistory (.deployed sampleTokens 0) = ended at *
  have prefixed : (sampleLog.take 4).map LogEvent.event <+: eventsOf ended.2 := by
    rw [← events]
    exact (List.take_prefix 4 sampleLog).map _
  have replied : ∃ body, dailySpendReply s (addressText sampleAccount)
      (ended.1.timestamp / 86400) = .ok body := by
    rw [today]
    exact ⟨_, if_neg (by norm_num)⟩
  obtain ⟨body, replied⟩ := replied
  obtain ⟨read, full⟩ := history
  have spent := read (sampleLog.take 4) s (providerOf (ended.1.hook.window sampleAccount)) _ body
    .empty false 0 0 prefixed ran rfl rfl replied rfl
  obtain ⟨days, agent, known, -⟩ := full sampleLog s' events ran'
  exact ⟨s, s', ran, ran', spent, days 0 present, agent, known⟩

end Subgraph

end AgentProof
