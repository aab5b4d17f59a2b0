import AgentProof.Lib.Runs
import AgentProof.Sdk.GraphState
import AgentProof.Sdk.Transfers

/-!
# Overlapping calls of the graph state provider

Any number of `getDailySpend` calls on one provider, interleaved at their
awaits with each other and with executions, on one UTC day.  A call checks the
cache, waits for the subgraph's reply and then for the hook's, and then
reconciles the two and writes the cache in one go.  An execution first raises
the hook's window and later records itself, which drops the cached entry.

What can go wrong is a call that got the hook's reply before the window was
raised and writes the cache after the entry was dropped.
-/

namespace AgentProof

namespace Sdk

namespace GraphStateProvider

open Js PolicyLib

/-- An address as a caller spells it. -/
structure Spelling where
  text : Text
  valid : isAddress text = true

def Spelling.address (account : Spelling) : Address := addressOf account.text

/-- How far a call has come: what it waits for, and the replies it has. -/
inductive Phase
  | querying
  | reading (indexed : Option Int)
  | replied (indexed onchain : Option Int)
  | returned (result : Except JsError Int)
  deriving DecidableEq

structure Call where
  account : Spelling
  dayUtc : Nat
  phase : Phase

/-- The provider with its calls so far, the hook's windows and the clock. -/
structure Running (today : Uint64) where
  cache : Cache
  calls : List Call
  windows : Address → Window
  now : Int
  /-- The hook has recorded nothing for a day to come. -/
  forward : ∀ account, (windows account).day.toNat ≤ today.toNat

inductive Event
  /-- A call is made and runs up to its first await. -/
  | getDailySpend (account : Spelling) (dayUtc : Nat) (fresh : Bool)
  | subgraphReplies (call : Nat) (reply : Except JsError Json)
  | hookReplies (call : Nat)
  /-- The call runs on from the hook's reply to its end. -/
  | resumes (call : Nat)
  | execution (account : Address) (limits : Limits) (amount : Uint256)
  | recordExecution (account : Spelling)
  | tick (ms : Nat)

variable {today : Uint64}

/-- What the hook has recorded for today. -/
def Running.spent (s : Running today) (account : Address) : Nat :=
  ((s.windows account).base today).toNat

def Running.advance (s : Running today) (i : Nat) (call : Call) (phase : Phase) : Running today :=
  { s with calls := s.calls.set i { call with phase := phase } }

theorem forward_of_applySpend (s : Running today) {account : Address} {limits : Limits}
    {amount : Uint256} {next : Window}
    (applied : applySpend (s.windows account) limits amount today = .ok next) (other : Address) :
    (Function.update s.windows account next other).day.toNat ≤ today.toNat := by
  obtain ⟨-, -, -, rfl⟩ := applySpend_eq_ok_iff.mp applied
  rcases eq_or_ne other account with rfl | stranger
  · rw [Function.update_self]
  · rw [Function.update_of_ne stranger]
    exact s.forward other

def step (options : Options) (s : Running today) : Event → Option (Running today)
  | .getDailySpend account dayUtc fresh =>
      let phase : Phase := match cachedValue s.cache account.text dayUtc fresh s.now with
        | some value => .returned (.ok value)
        | none => .querying
      some { s with calls := s.calls ++ [⟨account, dayUtc, phase⟩] }
  | .subgraphReplies i reply => do
      let call ← s.calls[i]?
      match call.phase with
      | .querying =>
          some (s.advance i call
            (.reading (queryIndexedSpend (fun _ _ => reply) call.account.text call.dayUtc)))
      | _ => none
  | .hookReplies i => do
      let call ← s.calls[i]?
      match call.phase with
      | .reading indexed =>
          some (s.advance i call (.replied indexed
            (Sdk.readOnchainSpend (windowCall (s.windows call.account.address)) call.dayUtc)))
      | _ => none
  | .resumes i => do
      let call ← s.calls[i]?
      match call.phase with
      | .replied indexed onchain =>
          match reconcile options call.account.text indexed onchain with
          | .ok value =>
              some { s.advance i call (.returned (.ok value)) with
                cache := s.cache.set (cacheKey call.account.text call.dayUtc)
                  ⟨value, s.now + options.ttl⟩ }
          | .error e => some (s.advance i call (.returned (.error e)))
      | _ => none
  | .execution account limits amount =>
      match applied : applySpend (s.windows account) limits amount today with
      | .ok next =>
          some { s with
            windows := Function.update s.windows account next
            forward := forward_of_applySpend s applied }
      | .error _ => none
  | .recordExecution account =>
      some { s with cache := s.cache.erase (cacheKey account.text today.toNat) }
  | .tick ms => some { s with now := s.now + ms }

/-! ## What a step does -/

section Steps

variable {options : Options} {s s' : Running today} {i : Nat}

theorem step_subgraphReplies {reply : Except JsError Json}
    (stepped : step options s (.subgraphReplies i reply) = some s') :
    ∃ call indexed, s.calls[i]? = some call ∧ call.phase = .querying ∧
      s' = s.advance i call (.reading indexed) := by
  simp only [step, Option.bind_eq_bind, Option.bind_eq_some_iff] at stepped
  obtain ⟨call, at_i, stepped⟩ := stepped
  split at stepped
  · next phase => exact ⟨call, _, at_i, phase, (Option.some.inj stepped).symm⟩
  · simp at stepped

theorem step_hookReplies (stepped : step options s (.hookReplies i) = some s') :
    ∃ call indexed, s.calls[i]? = some call ∧ call.phase = .reading indexed ∧
      s' = s.advance i call (.replied indexed
        (Sdk.readOnchainSpend (windowCall (s.windows call.account.address)) call.dayUtc)) := by
  simp only [step, Option.bind_eq_bind, Option.bind_eq_some_iff] at stepped
  obtain ⟨call, at_i, stepped⟩ := stepped
  split at stepped
  · next indexed phase => exact ⟨call, indexed, at_i, phase, (Option.some.inj stepped).symm⟩
  · simp at stepped

theorem Spelling.normalizeAddress (account : Spelling) :
    normalizeAddress account.text = .ok (addressText account.address) :=
  normalizeAddress_of_isAddress account.valid

/-- A resumed call returns and caches the larger reply. -/
theorem step_resumes (stepped : step options s (.resumes i) = some s') :
    ∃ call indexed onchain, s.calls[i]? = some call ∧ call.phase = .replied indexed onchain ∧
      ((∃ value, largest indexed onchain = some value ∧
        s' = { s.advance i call (.returned (.ok value)) with
          cache := s.cache.set (cacheKey call.account.text call.dayUtc)
            ⟨value, s.now + options.ttl⟩ }) ∨
        largest indexed onchain = none ∧
          s' = s.advance i call (.returned (.error (StateUnavailableError call.account.text)))) := by
  simp only [step, Option.bind_eq_bind, Option.bind_eq_some_iff] at stepped
  obtain ⟨call, at_i, stepped⟩ := stepped
  split at stepped
  · next indexed onchain phase =>
      refine ⟨call, indexed, onchain, at_i, phase, ?_⟩
      rw [reconcile_eq call.account.normalizeAddress] at stepped
      cases found : largest indexed onchain with
      | none =>
          rw [found] at stepped
          exact .inr ⟨rfl, (Option.some.inj stepped).symm⟩
      | some value =>
          rw [found] at stepped
          exact .inl ⟨value, rfl, (Option.some.inj stepped).symm⟩
  · simp at stepped

theorem step_execution {account : Address} {limits : Limits} {amount : Uint256}
    (stepped : step options s (.execution account limits amount) = some s') :
    ∃ next, applySpend (s.windows account) limits amount today = .ok next ∧ s'.cache = s.cache ∧
      s'.calls = s.calls ∧ s'.now = s.now ∧
      s'.windows = Function.update s.windows account next := by
  simp only [step] at stepped
  split at stepped
  · next next applied =>
      obtain rfl := Option.some.inj stepped
      exact ⟨next, applied, rfl, rfl, rfl, rfl⟩
  · simp at stepped

/-- An execution never lowers what is recorded for today. -/
theorem spent_le_of_applySpend {account other : Address} {limits : Limits} {amount : Uint256}
    {next : Window} (applied : applySpend (s.windows account) limits amount today = .ok next)
    (windows : s'.windows = Function.update s.windows account next) :
    s.spent other ≤ s'.spent other := by
  obtain ⟨-, -, within, rfl⟩ := applySpend_eq_ok_iff.mp applied
  have limit := limits.dailyLimit.isLt
  rw [Running.spent, Running.spent, windows]
  rcases eq_or_ne other account with rfl | stranger
  · rw [Function.update_self]
    have raised : (Window.base ⟨today, (s.windows other).base today + amount⟩ today).toNat =
        ((s.windows other).base today).toNat + amount.toNat := by
      rw [Window.base, if_pos rfl, BitVec.toNat_add, Nat.mod_eq_of_lt (by omega)]
    omega
  · rw [Function.update_of_ne stranger]

/-- No step lowers what is recorded for today. -/
theorem spent_le_of_step {event : Event} (stepped : step options s event = some s')
    (account : Address) : s.spent account ≤ s'.spent account := by
  cases event with
  | getDailySpend | recordExecution | tick =>
      obtain rfl := Option.some.inj stepped
      exact le_rfl
  | subgraphReplies i reply =>
      obtain ⟨call, indexed, -, -, rfl⟩ := step_subgraphReplies stepped
      exact le_rfl
  | hookReplies i =>
      obtain ⟨call, indexed, -, -, rfl⟩ := step_hookReplies stepped
      exact le_rfl
  | resumes i =>
      obtain ⟨call, indexed, onchain, -, -, ⟨value, -, rfl⟩ | ⟨-, rfl⟩⟩ := step_resumes stepped
      · exact le_rfl
      · exact le_rfl
  | execution other limits amount =>
      obtain ⟨next, applied, -, -, -, windows⟩ := step_execution stepped
      exact spent_le_of_applySpend applied windows

end Steps

/-- A call that nothing overlaps is the sequential one. -/
theorem run_uninterrupted {options : Options} {s : Running today} {account : Spelling}
    {dayUtc : Nat} {fresh : Bool} {reply : Except JsError Json} {call : ChainCall}
    (chain : options.chain = some call)
    (answers : call options.hook (windowCalldata account.text) =
      .ok (windowCall (s.windows account.address)))
    (uncached : cachedValue s.cache account.text dayUtc fresh s.now = none) :
    ∃ s', Runs.Run (step options) (fun _ _ => True) s
        [.getDailySpend account dayUtc fresh, .subgraphReplies s.calls.length reply,
          .hookReplies s.calls.length, .resumes s.calls.length] s' ∧
      (s'.calls[s.calls.length]?).map Call.phase = some (.returned (getDailySpend options
        (fun _ _ => reply) s.cache account.text dayUtc fresh s.now s.now).1) ∧
      s'.cache = (getDailySpend options (fun _ _ => reply) s.cache account.text dayUtc fresh s.now
        s.now).2 := by
  have answer : hookReply options account.text =
      some (.ok (windowCall (s.windows account.address))) := by
    rw [hookReply, chain, Option.map_some, answers]
  have hook := @readOnchainSpend_of_reply options account.text dayUtc _ answer
  have outcome := @getDailySpend_of_reads options (fun _ _ => reply) s.cache account.text dayUtc
    fresh s.now s.now _ account.normalizeAddress uncached _ _ rfl hook
  rw [outcome]
  have last : ∀ c c', (s.calls ++ [c]).set s.calls.length c' = s.calls ++ [c'] := fun c c' => by
    rw [List.set_append_right _ _ le_rfl, Nat.sub_self, List.set_cons_zero]
  cases larger : largest (queryIndexedSpend (fun _ _ => reply) account.text dayUtc)
      (Sdk.readOnchainSpend (windowCall (s.windows account.address)) dayUtc) with
  | none =>
      refine ⟨{ s with calls := s.calls ++ [⟨account, dayUtc,
        .returned (.error (StateUnavailableError account.text))⟩] }, ?_, ?_, rfl⟩
      · refine Runs.run_of_replay ?_
        simp only [Runs.replay, if_true, step, uncached, List.getElem?_concat_length, last,
          Option.bind_eq_bind, Option.bind_some, Running.advance,
          reconcile_eq account.normalizeAddress, larger]
      · simp
  | some value =>
      refine ⟨{ s with
        calls := s.calls ++ [⟨account, dayUtc, .returned (.ok value)⟩]
        cache := s.cache.set (cacheKey account.text dayUtc) ⟨value, s.now + options.ttl⟩ },
        ?_, ?_, rfl⟩
      · refine Runs.run_of_replay ?_
        simp only [Runs.replay, if_true, step, uncached, List.getElem?_concat_length, last,
          Option.bind_eq_bind, Option.bind_some, Running.advance,
          reconcile_eq account.normalizeAddress, larger]
      · simp

/-! ## What is kept once an execution is recorded -/

/-- The cache key of an account is the same however it is spelled. -/
theorem cacheKey_eq (account : Spelling) (dayUtc : Nat) :
    cacheKey account.text dayUtc =
      addressText account.address ++ ":".toList ++ toDecimal dayUtc := by
  have lower := account.normalizeAddress
  rw [Sdk.normalizeAddress, if_pos account.valid, Except.ok.injEq] at lower
  rw [cacheKey, lower]

theorem cacheKey_injective {account other : Spelling} {dayUtc day : Nat}
    (same : cacheKey account.text dayUtc = cacheKey other.text day) :
    account.address = other.address ∧ dayUtc = day := by
  rw [cacheKey_eq, cacheKey_eq, List.append_assoc, List.append_assoc] at same
  have length : (addressText account.address).length = (addressText other.address).length := by
    simp [addressText_eq]
  obtain ⟨addresses, rest⟩ := List.append_inj same length
  refine ⟨addressText_injective addresses, ?_⟩
  exact_mod_cast toDecimal_injective (List.append_cancel_left rest)

/-- Today's reading of the hook. -/
theorem readOnchainSpend_today (small : today.toNat < 2 ^ 53) (s : Running today)
    (account : Address) :
    Sdk.readOnchainSpend (windowCall (s.windows account)) today.toNat =
      some (s.spent account : Int) :=
  readOnchainSpend_windowCall _ rfl ((s.forward account).trans_lt small)

/-- A reply in hand that both sources gave before `amount` was recorded. -/
def Low (today : Uint64) (account : Address) (amount : Int) (call : Call) : Prop :=
  call.account.address = account ∧ call.dayUtc = today.toNat ∧
    ∃ indexed onchain value, call.phase = .replied indexed onchain ∧
      largest indexed onchain = some value ∧ value < amount

/-- Nothing that could still be read for today states less than `amount`. -/
structure Covers (options : Options) (account : Address) (amount : Int) (s : Running today) :
    Prop where
  spent : amount ≤ s.spent account
  cached : ∀ asked : Spelling, asked.address = account → ∀ entry,
    s.cache.get (cacheKey asked.text today.toNat) = some entry →
      amount ≤ entry.value ∨ entry.expiresAt ≤ s.now
  calls : 0 < options.ttl → ∀ call ∈ s.calls, ¬ Low today account amount call

/-- A call for today that will return, or has returned, at least `amount`. -/
def Settles (today : Uint64) (account : Address) (amount : Int) (call : Call) : Prop :=
  call.account.address = account ∧ call.dayUtc = today.toNat ∧
    match call.phase with
    | .querying | .reading _ => True
    | .replied indexed onchain => ∃ value, largest indexed onchain = some value ∧ amount ≤ value
    | .returned result => ∃ value, result = .ok value ∧ amount ≤ value

section Keeps

variable {options : Options} {account : Address} {amount : Int} {s s' : Running today} {i : Nat}

theorem not_low_of_phase {call : Call} (phase : ∀ indexed onchain, call.phase ≠ .replied indexed onchain) :
    ¬ Low today account amount call := by
  rintro ⟨-, -, indexed, onchain, value, replied, -, -⟩
  exact phase indexed onchain replied

/-- The larger of two replies is no less than the hook's. -/
theorem largest_some (indexed : Option Int) (onchain : Int) :
    ∃ value, largest indexed (some onchain) = some value ∧ onchain ≤ value := by
  cases indexed with
  | none => exact ⟨onchain, rfl, le_rfl⟩
  | some indexed => exact ⟨max indexed onchain, rfl, le_max_right _ _⟩

/-- A call moves on, to a phase that is not low. -/
theorem Covers.advance (covers : Covers options account amount s) {call : Call} {phase : Phase}
    (high : ¬ Low today account amount { call with phase := phase }) :
    Covers options account amount (s.advance i call phase) where
  spent := covers.spent
  cached := covers.cached
  calls live call' mem := by
    rcases List.mem_or_eq_of_mem_set mem with before | rfl
    · exact covers.calls live call' before
    · exact high

theorem Covers.step (small : today.toNat < 2 ^ 53) (covers : Covers options account amount s)
    {event : Event} (stepped : step options s event = some s') :
    Covers options account amount s' := by
  have spent := covers.spent.trans (Int.ofNat_le.mpr (spent_le_of_step stepped account))
  cases event with
  | getDailySpend asked dayUtc fresh =>
      obtain rfl := Option.some.inj stepped
      refine ⟨spent, covers.cached, fun live call mem => ?_⟩
      rcases List.mem_append.mp mem with before | new
      · exact covers.calls live call before
      · rw [List.mem_singleton] at new
        subst new
        refine not_low_of_phase fun indexed onchain => ?_
        cases cachedValue s.cache asked.text dayUtc fresh s.now <;> simp
  | subgraphReplies i reply =>
      obtain ⟨call, indexed, -, -, rfl⟩ := step_subgraphReplies stepped
      exact covers.advance (not_low_of_phase (by simp))
  | hookReplies i =>
      obtain ⟨call, indexed, -, -, rfl⟩ := step_hookReplies stepped
      refine covers.advance ?_
      rintro ⟨own, day, indexed', onchain, value, phase, largest, low⟩
      simp only [Phase.replied.injEq] at phase own day
      obtain ⟨rfl, rfl⟩ := phase
      rw [own, day, readOnchainSpend_today small] at largest
      obtain ⟨value', largest', high⟩ := largest_some indexed (s.spent account)
      rw [largest', Option.some.injEq] at largest
      have covered := covers.spent
      omega
  | resumes i =>
      obtain ⟨call, indexed, onchain, at_i, phase, ⟨value, largest, rfl⟩ | ⟨-, rfl⟩⟩ :=
        step_resumes stepped
      · have moved : Covers options account amount (s.advance i call (.returned (.ok value))) :=
          covers.advance (not_low_of_phase (by simp))
        refine ⟨spent, fun asked own entry found => ?_, moved.calls⟩
        simp only [OrderedMap.get_set] at found
        split_ifs at found with same
        · obtain rfl := Option.some.inj found
          obtain ⟨address, day⟩ := cacheKey_injective same
          rcases lt_or_ge 0 options.ttl with live | dead
          · have high := covers.calls live call (List.mem_of_getElem? at_i)
            refine .inl (not_lt.mp fun low => high ?_)
            exact ⟨address.symm.trans own, day.symm, indexed, onchain, value, phase, largest, low⟩
          · exact .inr (by change s.now + options.ttl ≤ s.now; omega)
        · exact covers.cached asked own entry found
      · exact covers.advance (not_low_of_phase (by simp))
  | execution other limits charged =>
      obtain ⟨next, -, cache, calls, now, -⟩ := step_execution stepped
      exact ⟨spent, by rw [cache, now]; exact covers.cached, by rw [calls]; exact covers.calls⟩
  | recordExecution recorded =>
      obtain rfl := Option.some.inj stepped
      refine ⟨spent, fun asked own entry found => ?_, covers.calls⟩
      rw [OrderedMap.get_erase] at found
      split_ifs at found
      exact covers.cached asked own entry found
  | tick ms =>
      obtain rfl := Option.some.inj stepped
      refine ⟨spent, fun asked own entry found => ?_, covers.calls⟩
      rcases covers.cached asked own entry found with enough | expired
      · exact .inl enough
      · exact .inr (by change entry.expiresAt ≤ s.now + ms; omega)

/-- The call `i` settles. -/
def Watched (account : Address) (amount : Int) (i : Nat) (s : Running today) : Prop :=
  ∃ call, s.calls[i]? = some call ∧ Settles today account amount call

/-- Another call's move is none of `i`'s; its own move must settle. -/
theorem Watched.advance (watched : Watched account amount i s) {j : Nat} {call : Call}
    {phase : Phase} (at_j : s.calls[j]? = some call)
    (moves : Settles today account amount call →
      Settles today account amount { call with phase := phase }) :
    Watched account amount i (s.advance j call phase) := by
  obtain ⟨mine, at_i, settles⟩ := watched
  have inside : i < s.calls.length := (List.getElem?_eq_some_iff.mp at_i).1
  rcases eq_or_ne j i with rfl | other
  · obtain rfl : call = mine := Option.some.inj (at_j.symm.trans at_i)
    exact ⟨_, List.getElem?_set_self inside, moves settles⟩
  · exact ⟨mine, (List.getElem?_set_ne other).trans at_i, settles⟩

theorem Watched.step (small : today.toNat < 2 ^ 53) (covers : Covers options account amount s)
    (watched : Watched account amount i s) {event : Event}
    (stepped : step options s event = some s') : Watched account amount i s' := by
  cases event with
  | getDailySpend asked dayUtc fresh =>
      obtain rfl := Option.some.inj stepped
      obtain ⟨mine, at_i, settles⟩ := watched
      have inside : i < s.calls.length := (List.getElem?_eq_some_iff.mp at_i).1
      exact ⟨mine, (List.getElem?_append_left inside).trans at_i, settles⟩
  | subgraphReplies j reply =>
      obtain ⟨call, indexed, at_j, -, rfl⟩ := step_subgraphReplies stepped
      exact watched.advance at_j fun settles => ⟨settles.1, settles.2.1, trivial⟩
  | hookReplies j =>
      obtain ⟨call, indexed, at_j, -, rfl⟩ := step_hookReplies stepped
      refine watched.advance at_j fun settles => ⟨settles.1, settles.2.1, ?_⟩
      obtain ⟨value, largest, high⟩ := largest_some indexed (s.spent account)
      refine ⟨value, ?_, covers.spent.trans high⟩
      rw [settles.1, settles.2.1, readOnchainSpend_today small]
      exact largest
  | resumes j =>
      obtain ⟨call, indexed, onchain, at_j, phase, ⟨value, largest, rfl⟩ | ⟨none, rfl⟩⟩ :=
        step_resumes stepped
      · have moved : Watched account amount i (s.advance j call (.returned (.ok value))) :=
          watched.advance at_j fun settles => by
            have replies := settles.2.2
            rw [phase] at replies
            obtain ⟨value', largest', high⟩ := replies
            obtain rfl := Option.some.inj (largest.symm.trans largest')
            exact ⟨settles.1, settles.2.1, value, rfl, high⟩
        exact moved
      · refine watched.advance at_j fun settles => ?_
        have replies := settles.2.2
        rw [phase] at replies
        obtain ⟨value', largest', -⟩ := replies
        rw [none] at largest'
        simp at largest'
  | execution other limits charged =>
      obtain ⟨next, -, -, calls, -, -⟩ := step_execution stepped
      rwa [Watched, calls]
  | recordExecution recorded =>
      obtain rfl := Option.some.inj stepped
      exact watched
  | tick ms =>
      obtain rfl := Option.some.inj stepped
      exact watched

end Keeps

/-! ## Every call after a recorded execution -/

/-- A call for today made in `s` or later returns at least `amount`. -/
def YieldsAtLeast (options : Options) (s : Running today) (account : Address) (amount : Int) :
    Prop :=
  ∀ (earlier later : List Event) (asked s₁ s₂ : Running today) (spelled : Spelling) (fresh : Bool)
      (result : Except JsError Int), spelled.address = account →
    Runs.Run (step options) (fun _ _ => True) s earlier asked →
    step options asked (.getDailySpend spelled today.toNat fresh) = some s₁ →
    Runs.Run (step options) (fun _ _ => True) s₁ later s₂ →
    s₂.calls[asked.calls.length]? = some ⟨spelled, today.toNat, .returned result⟩ →
    ∃ value, result = .ok value ∧ amount ≤ value

/-- The calls that are in flight with replies from before the execution. -/
def Overtaken (s : Running today) (account : Address) (call : Call) : Prop :=
  Low today account (s.spent account) call

section Recorded

variable {options : Options} {s s₁ : Running today} {account : Spelling}

theorem yieldsAtLeast_of_covers (small : today.toNat < 2 ^ 53) {account : Address} {amount : Int}
    (covers : Covers options account amount s) : YieldsAtLeast options s account amount := by
  intro earlier later asked s₁ s₂ spelled fresh result own before made after returned
  have keeps : ∀ s event s', Covers options account amount s → True →
      step options s event = some s' → Covers options account amount s' :=
    fun _ _ _ covers _ stepped => covers.step small stepped
  have asking := before.invariant keeps covers
  have started : Watched account amount asked.calls.length s₁ := by
    obtain rfl := Option.some.inj made
    refine ⟨_, List.getElem?_concat_length .., own, rfl, ?_⟩
    unfold cachedValue
    cases found : asked.cache.get (cacheKey spelled.text today.toNat) with
    | none => trivial
    | some entry =>
        by_cases hit : ¬ fresh = true ∧ entry.expiresAt > asked.now
        · simp only [if_pos hit]
          rcases asking.cached spelled own entry found with enough | expired
          · exact ⟨entry.value, rfl, enough⟩
          · exact absurd hit.2 (not_lt.mpr expired)
        · simp only [if_neg hit]
  have keepsBoth : ∀ s event s', Covers options account amount s ∧
      Watched account amount asked.calls.length s → True → step options s event = some s' →
      Covers options account amount s' ∧ Watched account amount asked.calls.length s' :=
    fun _ _ _ both _ stepped => ⟨both.1.step small stepped, both.2.step small both.1 stepped⟩
  obtain ⟨-, call, at_i, settles⟩ := after.invariant keepsBoth ⟨asking.step small made, started⟩
  obtain rfl := Option.some.inj (at_i.symm.trans returned)
  exact settles.2.2

/-- A call that resumes caches the larger reply. -/
theorem resumes_caches {i : Nat} {call : Call} {indexed onchain : Option Int} {value : Int}
    (at_i : s.calls[i]? = some call) (phase : call.phase = .replied indexed onchain)
    (larger : largest indexed onchain = some value) :
    ∃ s', step options s (.resumes i) = some s' ∧ s'.now = s.now ∧
      s'.cache = s.cache.set (cacheKey call.account.text call.dayUtc)
        ⟨value, s.now + options.ttl⟩ := by
  simp only [step, at_i, Option.bind_eq_bind, Option.bind_some, phase,
    reconcile_eq call.account.normalizeAddress, larger]
  exact ⟨_, rfl, rfl, rfl⟩

/-- A cached value is returned at once. -/
theorem getDailySpend_returns {value : Int} {dayUtc : Nat} {fresh : Bool}
    (cached : cachedValue s.cache account.text dayUtc fresh s.now = some value) :
    ∃ s', step options s (.getDailySpend account dayUtc fresh) = some s' ∧
      s'.calls[s.calls.length]? = some ⟨account, dayUtc, .returned (.ok value)⟩ := by
  simp only [step, cached]
  exact ⟨_, rfl, List.getElem?_concat_length ..⟩

/-- Low replies in hand are cached for the next call. -/
theorem not_yieldsAtLeast_of_overtaken (live : 0 < options.ttl) {call : Call}
    (mem : call ∈ s.calls) (overtaken : Overtaken s account.address call)
    (recorded : step options s (.recordExecution account) = some s₁) :
    ¬ YieldsAtLeast options s₁ account.address (s₁.spent account.address) := by
  obtain ⟨own, day, indexed, onchain, value, phase, larger, low⟩ := overtaken
  obtain ⟨i, at_i⟩ := List.getElem?_of_mem mem
  have at_i' : s₁.calls[i]? = some call := by
    obtain rfl := Option.some.inj recorded
    exact at_i
  have low' : value < s₁.spent account.address := by
    obtain rfl := Option.some.inj recorded
    exact low
  have key : cacheKey call.account.text call.dayUtc = cacheKey account.text today.toNat := by
    rw [cacheKey_eq, cacheKey_eq, own, day]
  obtain ⟨s₂, resumed, now, cache⟩ := @resumes_caches today options s₁ i call indexed onchain value
    at_i' phase larger
  have hit : cachedValue s₂.cache account.text today.toNat false s₂.now = some value := by
    rw [cachedValue, cache, key, OrderedMap.get_set_self, now]
    exact if_pos ⟨by simp, by change s₁.now + options.ttl > s₁.now; omega⟩
  obtain ⟨s₃, made, returned⟩ := @getDailySpend_returns today options s₂ account value _ _ hit
  intro yields
  obtain ⟨value', same, high⟩ := yields _ _ _ _ _ account false _ rfl
    (.cons trivial resumed .nil) made .nil returned
  obtain rfl := Except.ok.inj same
  omega

/-- After a recorded execution every call for today returns at least what the
hook had recorded by then, exactly if no call was holding replies that state
less, or nothing is ever cached. -/
theorem recordExecution_yieldsAtLeast_iff (small : today.toNat < 2 ^ 53)
    (recorded : step options s (.recordExecution account) = some s₁) :
    YieldsAtLeast options s₁ account.address (s₁.spent account.address) ↔
      options.ttl ≤ 0 ∨ ∀ call ∈ s.calls, ¬ Overtaken s account.address call := by
  constructor
  · intro yields
    rw [or_iff_not_imp_left, not_le]
    intro live call mem overtaken
    exact not_yieldsAtLeast_of_overtaken live mem overtaken recorded yields
  · intro settled
    obtain rfl := Option.some.inj recorded
    refine yieldsAtLeast_of_covers small ⟨le_rfl, fun asked own entry found => ?_, ?_⟩
    · rw [OrderedMap.get_erase, cacheKey_eq asked, cacheKey_eq account, own, if_pos rfl] at found
      simp at found
    · intro live call mem
      exact settled.resolve_left (not_le.mpr live) call mem

end Recorded

/-! ## An overtaken read -/

/-- A new provider, and a hook that has recorded nothing. -/
def Running.initial (today : Uint64) : Running today :=
  ⟨.empty, [], fun _ => .zero, 0, fun _ => by simp [Window.zero]⟩

def sampleSpelling : Spelling := ⟨addressText 0xacc0, by decide⟩

/-- The subgraph is down, the hook answers a read, and an execution of 5 follows. -/
def overtakingEvents : List Event :=
  [.getDailySpend sampleSpelling 20000 false,
    .subgraphReplies 0 (.error ⟨"TypeError".toList, "fetch failed".toList⟩), .hookReplies 0,
    .execution sampleSpelling.address ⟨100, 100⟩ 5]

/-- The provider reads the chain and keeps values for the default time. -/
def sampleOptions : Options := ⟨[], none, true, none⟩

/-- No recorded execution is followed by a read of less. -/
def NoStaleSpend : Prop :=
  ∀ (today : Uint64) (options : Options) (events : List Event) (s s₁ : Running today)
      (account : Spelling), today.toNat < 2 ^ 53 →
    Runs.Run (step options) (fun _ _ => True) (.initial today) events s →
    step options s (.recordExecution account) = some s₁ →
    YieldsAtLeast options s₁ account.address (s₁.spent account.address)

/-- The read that was under way puts its old value back. -/
theorem overtakenRead_stale : ¬ NoStaleSpend := by
  intro noStale
  have ran : (Runs.replay (step sampleOptions) (fun _ _ => True) (.initial 20000)
      overtakingEvents).any fun s => s.spent sampleSpelling.address = 5 ∧
        (s.calls[0]?).any fun call => call.account.address = sampleSpelling.address ∧
          call.dayUtc = 20000 ∧ call.phase = .replied none (some 0) := by decide +kernel
  obtain ⟨s, replayed, state⟩ := (Option.any_eq_true _ _).mp ran
  simp only [Option.any_eq_true, decide_eq_true_eq] at state
  obtain ⟨spent, call, at_0, own, day, phase⟩ := state
  have overtaken : Overtaken s sampleSpelling.address call := by
    refine ⟨own, day, none, some 0, 0, phase, rfl, ?_⟩
    rw [spent]
    norm_num
  exact not_yieldsAtLeast_of_overtaken (by decide) (List.mem_of_getElem? at_0) overtaken rfl
    (noStale 20000 sampleOptions overtakingEvents s _ sampleSpelling (by decide)
      (Runs.run_of_replay replayed) rfl)

/-- Nothing was under way when the execution of 5 was recorded. -/
theorem recordExecution_yieldsAtLeast_sample :
    ∃ s s₁ : Running 20000, step sampleOptions (.initial 20000)
        (.execution sampleSpelling.address ⟨100, 100⟩ 5) = some s ∧
      step sampleOptions s (.recordExecution sampleSpelling) = some s₁ ∧
      YieldsAtLeast sampleOptions s₁ sampleSpelling.address 5 := by
  have ran : (step sampleOptions (.initial 20000)
      (.execution sampleSpelling.address ⟨100, 100⟩ 5)).any fun s =>
        s.spent sampleSpelling.address = 5 ∧ s.calls.length = 0 := by decide +kernel
  obtain ⟨s, executed, state⟩ := (Option.any_eq_true _ _).mp ran
  obtain ⟨spent, quiet⟩ := of_decide_eq_true state
  refine ⟨s, _, executed, rfl, ?_⟩
  have yields := (@recordExecution_yieldsAtLeast_iff 20000 sampleOptions s _ sampleSpelling
    (by decide) rfl).mpr (.inr fun call mem => ?_)
  · change YieldsAtLeast sampleOptions _ _ ((s.spent sampleSpelling.address : Nat) : Int) at yields
    rw [spent] at yields
    exact yields
  · rw [List.length_eq_zero_iff.mp quiet] at mem
    simp at mem

end GraphStateProvider

end Sdk

end AgentProof
