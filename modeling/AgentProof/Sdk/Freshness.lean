import AgentProof.Lib.Readable
import AgentProof.Lib.TtlCache
import AgentProof.Sdk.EnsIdentity
import AgentProof.Sdk.PoolProvider

/-!
# How old an answer can be

`ENSIdentity` and `UniswapPoolProvider` each keep what they read for `ttlMs`, and
calls of one object run into each other at the reply they wait for.  Both are
caches of `Lib/TtlCache.lean`: a call that runs alone is `Cache.alone`
(`text_eq_alone`, `deepestPool_eq_alone`), and calls that interleave are its runs.
The chain and the subgraph are what they were at each moment.
-/

namespace AgentProof

namespace Sdk

open Js TtlCache

/-! ## Text records -/

/-- The records that are read of a name. -/
inductive EnsRecord
  | policy
  | hook
  | status
  deriving DecidableEq, Repr

def EnsRecord.key : EnsRecord → Text
  | policy => ENS_KEY_POLICY
  | hook => ENS_KEY_HOOK
  | status => ENS_KEY_STATUS

namespace ENSIdentity

def withCache (identity : ENSIdentity) (cache : OrderedMap Text CacheEntry) : ENSIdentity :=
  { identity with cache := cache }

/-- The same object before another state of the chain. -/
def withChain (identity : ENSIdentity) (chain : Text → Text → Except JsError Text) : ENSIdentity :=
  { identity with chain := chain }

/-- A record's entry is under no other record's key. -/
theorem cacheKey_inj {name name' : Text} {record record' : EnsRecord}
    (same : cacheKey name record.key = cacheKey name' record'.key) :
    (name, record) = (name', record') := by
  have bare : ∀ r : EnsRecord, '|' ∉ r.key := by
    intro r
    cases r <;> decide
  have joined : ∀ (n : Text) (r : EnsRecord), cacheKey n r.key = Readable.join '|' [n, r.key] := by
    intro n r
    simp [cacheKey, Readable.join, List.intercalate]
  rw [joined, joined] at same
  obtain ⟨names, keys⟩ := Readable.join_inj (by rfl) (by simpa using bare record)
    (by simpa using bare record') same
  have records : record = record' := by
    have key := (List.cons.inj keys).1
    revert key
    cases record <;> cases record' <;> decide
  rw [names, records]

theorem cached_eq_some_iff {identity : ENSIdentity} {cache : OrderedMap Text CacheEntry}
    {name key value : Text} {now : Int} :
    (identity.withCache cache).cached name key now = some value ↔
      identity.ttlMs > 0 ∧ ∃ entry, cache.get (cacheKey name key) = some entry ∧
        entry.expiresAt > now ∧ entry.value = value := by
  unfold cached withCache
  dsimp only
  split_ifs with kept
  · cases cache.get (cacheKey name key) with
    | none => simp
    | some entry => simp [kept]
  · simp [kept]

theorem remember_of_pos {identity : ENSIdentity} (kept : identity.ttlMs > 0)
    (cache : OrderedMap Text CacheEntry) (name key value : Text) (now : Int) :
    ((identity.withCache cache).remember name key value now).cache =
      cache.set (cacheKey name key) ⟨value, now + identity.ttlMs⟩ :=
  congrArg ENSIdentity.cache (if_pos (show (identity.withCache cache).ttlMs > 0 from kept))

/-- The cache of `text`. -/
def recordCache (identity : ENSIdentity) :
    Cache (OrderedMap Text CacheEntry) (Text × EnsRecord) Text identity.ttlMs where
  read cache of now := (identity.withCache cache).cached of.1 of.2.key now
  write cache of value now := ((identity.withCache cache).remember of.1 of.2.key value now).cache
  read_write {cache of value written of' now found} read := by
    obtain ⟨kept, entry, held, lives, rfl⟩ := cached_eq_some_iff.mp read
    rw [remember_of_pos kept] at held
    by_cases same : cacheKey of'.1 of'.2.key = cacheKey of.1 of.2.key
    · rw [same, OrderedMap.get_set_self] at held
      obtain rfl := Option.some.inj held
      exact .inl ⟨cacheKey_inj same, rfl, lives⟩
    · rw [OrderedMap.get_set_of_ne _ _ same] at held
      exact .inr (cached_eq_some_iff.mpr ⟨kept, entry, held, lives, rfl⟩)

theorem recordCache_empty (identity : ENSIdentity) (of : Text × EnsRecord) (now : Int) :
    identity.recordCache.read .empty of now = none := by
  refine Option.eq_none_iff_forall_ne_some.mpr fun value read => ?_
  have held : (identity.withCache .empty).cached of.1 of.2.key now = some value := read
  obtain ⟨-, entry, absent, -⟩ := cached_eq_some_iff.mp held
  cases absent

/-- What the chain of a moment has for a record. -/
def recordAt (identity : ENSIdentity) (chainAt : Int → Text → Text → Except JsError Text) (u : Int)
    (of : Text × EnsRecord) : Except JsError Text :=
  (identity.withChain (chainAt u)).universalResolve of.1 (encodeText (namehash of.1) of.2.key) >>=
    decodeString

/-- A call of `text` that nothing interrupts, on the chain as it is at `u`. -/
theorem text_eq_alone (identity : ENSIdentity) (chainAt : Int → Text → Text → Except JsError Text)
    (u : Int) (of : Text × EnsRecord) (now later : Int) :
    let read := identity.recordCache.alone identity.cache of now later
      (identity.recordAt chainAt u of)
    (identity.withChain (chainAt u)).text of.1 of.2.key now later =
      (read.1, (identity.withChain (chainAt u)).withCache read.2) := by
  intro read
  have found : (identity.withChain (chainAt u)).cached of.1 of.2.key now =
      identity.recordCache.read identity.cache of now := rfl
  have fetched : (identity.withChain (chainAt u)).universalResolve of.1
      (encodeText (namehash of.1) of.2.key) >>= decodeString = identity.recordAt chainAt u of := rfl
  rw [text, found]
  dsimp only
  rw [fetched]
  unfold read Cache.alone
  cases identity.recordCache.read identity.cache of now with
  | some value => rfl
  | none =>
      cases identity.recordAt chainAt u of with
      | error e => rfl
      | ok value =>
          by_cases kept : identity.ttlMs > 0
          · simp only [Cache.keep, recordCache, remember, withChain, withCache, kept, if_true]
          · simp only [Cache.keep, recordCache, remember, withChain, withCache, kept, if_false]

end ENSIdentity

/-! ## Pools -/

namespace UniswapPoolProvider

open Runs

/-- The cache of `deepestPool`, by pair. -/
def poolCache (ttlMs : Option Int) :
    Cache PoolCache Text (Option PoolState) (ttlMs.getD 60000) where
  read := cachedPool
  write cache key best now := cache.set key ⟨best, now + ttlMs.getD 60000⟩
  read_write {cache key best written key' now found} read := by
    by_cases same : key' = key
    · rw [cachedPool, same, OrderedMap.get_set_self] at read
      dsimp only at read
      split_ifs at read with lives
      exact .inl ⟨same, (Option.some.inj read).symm, lives⟩
    · rw [cachedPool, OrderedMap.get_set_of_ne _ _ same] at read
      exact .inr read

/-- The deepest pool of a pair, as the subgraph of a moment has it. -/
def poolAt (postAt : Int → PostPools) (u : Int) (key : Text) : Except JsError (Option PoolState) :=
  match postAt u (pairTokens key) with
  | .error e => .error e
  | .ok response =>
      if response.errors ≠ [] then
        thrown ("Uniswap subgraph error: ".toList ++ "; ".toList.intercalate response.errors)
      else .ok (response.pools.getD []).head?

/-- A call of `deepestPool` that nothing interrupts, on the subgraph as it is at `u`. -/
theorem deepestPool_eq_alone (postAt : Int → PostPools) (u : Int) (ttlMs : Option Int)
    (cache : PoolCache) (tokenA tokenB : Text) (now later : Int) :
    deepestPool (postAt u) ttlMs cache tokenA tokenB now later =
      (poolCache ttlMs).alone cache (pairKey tokenA tokenB) now later
        (poolAt postAt u (pairKey tokenA tokenB)) := by
  have found : (poolCache ttlMs).read cache (pairKey tokenA tokenB) now =
      cachedPool cache (pairKey tokenA tokenB) now := rfl
  unfold deepestPool Cache.alone poolAt
  dsimp only
  rw [found]
  cases cachedPool cache (pairKey tokenA tokenB) now with
  | some best => rfl
  | none =>
      cases postAt u (pairTokens (pairKey tokenA tokenB)) with
      | error e => rfl
      | ok response =>
          dsimp only
          split_ifs <;> rfl

section Verdicts

variable {postAt : Int → PostPools} {indexedAt : Int → List IndexedPool} {ttlMs : Option Int}

/-- What the subgraph answers at a moment is the deepest pool it has then. -/
theorem deepest_of_poolAt (indexes : ∀ u, Indexes (postAt u) (indexedAt u)) {u : Int} {key : Text}
    {best : Option PoolState} (said : poolAt postAt u key = .ok best) :
    Deepest (indexedAt u) (pairTokens key) best := by
  obtain ⟨rows, answer, deepest⟩ := (indexes u).deepest (pairTokens key)
  rw [poolAt, answer] at said
  simp only [ne_eq, not_true_eq_false, if_false, Option.getD_some, Except.ok.injEq] at said
  exact said ▸ deepest

/-- However calls run into each other, a verdict on a swap is the right one for the pools
that were indexed at one moment of the last `ttlMs` and the delay of a reply. -/
theorem verdict_recent {lag began : Int} {floor : ℚ}
    {events : List (Event Text (Option PoolState) JsError)}
    {s : Readers PoolCache Text (Option PoolState) JsError}
    (indexes : ∀ u, Indexes (postAt u) (indexedAt u)) (life : 0 ≤ ttlMs.getD 60000)
    (run : Run (poolCache ttlMs).step (Replies (poolAt postAt) lag) (.start .empty began) events s)
    {a : Answer Text (Option PoolState) JsError} (mem : a ∈ s.answers) {best : Option PoolState}
    (given : a.result = .ok best) {tokenA tokenB : Text} (asked : a.key = pairKey tokenA tokenB)
    (first : ':' ∉ toLowerCase tokenA) (second : ':' ∉ toLowerCase tokenB)
    {intent : NormalizedIntent} (swap : intent.kind = .swap) (state : PolicyState) :
    ∃ u, u ≤ a.time ∧ a.time ≤ u + (ttlMs.getD 60000 + lag) ∧
      (((PoolLiquidityPolicy floor (some best)).evaluate intent state).decision = .block ↔
        ¬ ∃ p ∈ indexedAt u, p.Joins (toLowerCase tokenA) (toLowerCase tokenB) ∧
          floor ≤ p.state.totalValueLockedUSD) := by
  have fresh : ∀ key now, (poolCache ttlMs).read .empty key now = none := fun _ _ => rfl
  obtain ⟨u, past, near, said⟩ := answered_recent life fresh run mem given
  refine ⟨u, past, near, ?_⟩
  rw [poolLiquidity_blocks_iff (deepest_of_poolAt indexes said) swap floor state, asked]
  simp only [IndexedPool.within_pairTokens _ first second]

end Verdicts

/-! ### A pool that is drained -/

def pooled (tvl : ℚ) : IndexedPool where
  token0 := "0xaa".toList
  token1 := "0xbb".toList
  distinct := by decide
  state := ⟨tvl⟩

/-- Worth 100 until 10, and 1 from then on. -/
def drainingAt (u : Int) : List IndexedPool := if u < 10 then [pooled 100] else [pooled 1]

def postDraining (u : Int) : PostPools := fun tokens =>
  .ok ⟨[], some ((((drainingAt u).filter fun p => p.within tokens).take 5).map IndexedPool.state)⟩

theorem indexes_postDraining (u : Int) : Indexes (postDraining u) (drainingAt u) := by
  intro tokens
  refine ⟨_, List.Perm.refl _, ?_, rfl⟩
  apply List.Pairwise.filter
  unfold drainingAt
  split_ifs <;> exact List.pairwise_singleton _ _

def drainedPair : Text := pairKey "0xAA".toList "0xBB".toList

/-- The first reader's reply, which left before the pool was drained, comes last and replaces
the second's; a third reads it for as long as it lives. -/
def overtaken : List (Event Text (Option PoolState) JsError) :=
  [.ask 0 drainedPair, .ask 5 drainedPair, .reply 1 20 (.ok (some ⟨1⟩)),
    .reply 0 30 (.ok (some ⟨100⟩)), .ask 60000 drainedPair]

def drainedSwap : NormalizedIntent where
  kind := .swap
  target := []
  selector := []
  nativeValue := 0
  outflow := []
  counterparty := none
  notionalUSDC := 0
  summary := []
  raw := ⟨[], [], 0⟩

theorem verdict_recent_draining : ∃ (s : Readers PoolCache Text (Option PoolState) JsError)
    (a : Answer Text (Option PoolState) JsError), a ∈ s.answers ∧ a.time = 60000 ∧
      ((PoolLiquidityPolicy 50 (some (some ⟨100⟩))).evaluate drainedSwap
        ⟨[], 0, 0, 0, []⟩).decision = .allow ∧
      ∃ u, u ≤ a.time ∧ a.time ≤ u + ((none : Option Int).getD 60000 + 30) ∧
        (((PoolLiquidityPolicy 50 (some (some ⟨100⟩))).evaluate drainedSwap
            ⟨[], 0, 0, 0, []⟩).decision = .block ↔
          ¬ ∃ p ∈ drainingAt u, p.Joins (toLowerCase "0xAA".toList) (toLowerCase "0xBB".toList) ∧
            50 ≤ p.state.totalValueLockedUSD) := by
  have slow : Replies (poolAt postDraining) 30
      (⟨OrderedMap.empty.set drainedPair ⟨some ⟨1⟩, 60020⟩, 20,
        [⟨drainedPair, 0⟩], [⟨drainedPair, 20, .ok (some ⟨1⟩)⟩]⟩ :
        Readers PoolCache Text (Option PoolState) JsError)
      (.reply 0 30 (.ok (some ⟨100⟩))) := by
    intro p value waits given
    obtain rfl := Option.some.inj waits
    obtain rfl := Except.ok.inj given
    exact ⟨by decide, 3, by decide, by decide, by decide +kernel⟩
  have quick : Replies (poolAt postDraining) 30
      (⟨.empty, 5, [⟨drainedPair, 0⟩, ⟨drainedPair, 5⟩], []⟩ :
        Readers PoolCache Text (Option PoolState) JsError)
      (.reply 1 20 (.ok (some ⟨1⟩))) := by
    intro p value waits given
    obtain rfl := Option.some.inj waits
    obtain rfl := Except.ok.inj given
    exact ⟨by decide, 15, by decide, by decide, by decide +kernel⟩
  obtain ⟨s, run, told⟩ : ∃ s, Run (poolCache none).step (Replies (poolAt postDraining) 30)
      (.start .empty 0) overtaken s ∧ ⟨drainedPair, 60000, .ok (some ⟨100⟩)⟩ ∈ s.answers :=
    ⟨_, .cons trivial rfl (.cons trivial rfl (.cons quick rfl (.cons slow rfl
      (.cons trivial rfl .nil)))), .tail _ (.tail _ (.head _))⟩
  exact ⟨s, _, told, rfl, by decide +kernel, verdict_recent indexes_postDraining (by decide) run told
    rfl rfl (by decide) (by decide) rfl _⟩

end UniswapPoolProvider

end Sdk

end AgentProof
