import AgentProof.Lib.OrderedMap
import AgentProof.Sdk.Pools

/-!
# The deepest pool of a pair

`state/UniswapPoolProvider.ts`: the pools between two tokens are asked of a
subgraph, whose order is by descending value, and the first is kept for a while.
The subgraph is a parameter; of a row there is the value, as `Number` reads it.
What is kept is the deepest pool indexed for the pair (`Deepest`).
-/

namespace AgentProof

namespace Sdk

open Js

/-- The reply to the pool query: its errors, and the rows of `data.pools`. -/
structure PoolsResponse where
  errors : List Text
  pools : Option (List PoolState)

/-- `http.postJson` for the pool query, by its `tokens`. -/
abbrev PostPools := List Text → Except JsError PoolsResponse

namespace UniswapPoolProvider

structure CachedPool where
  value : Option PoolState
  expiresAt : Int

abbrev PoolCache := OrderedMap Text CachedPool

def pairKey (tokenA tokenB : Text) : Text :=
  let a := toLowerCase tokenA
  let b := toLowerCase tokenB
  [':'].intercalate (if b < a then [b, a] else [a, b])

/-- The variables of the query. -/
def pairTokens (key : Text) : List Text := key.splitOn ':'

/-- The entry that still answers a call. -/
def cachedPool (cache : PoolCache) (key : Text) (now : Int) : Option (Option PoolState) :=
  match cache.get key with
  | some cached => if cached.expiresAt > now then some cached.value else none
  | none => none

/-- `now` is the clock at the cache check and `later` the clock at the cache write. -/
def deepestPool (postJson : PostPools) (ttlMs : Option Int) (cache : PoolCache)
    (tokenA tokenB : Text) (now later : Int) : Except JsError (Option PoolState) × PoolCache :=
  let key := pairKey tokenA tokenB
  match cachedPool cache key now with
  | some value => (.ok value, cache)
  | none =>
      match postJson (pairTokens key) with
      | .error e => (.error e, cache)
      | .ok response =>
          if response.errors ≠ [] then
            (thrown ("Uniswap subgraph error: ".toList ++
              "; ".toList.intercalate response.errors), cache)
          else
            let best := (response.pools.getD []).head?
            (.ok best, cache.set key ⟨best, later + ttlMs.getD 60000⟩)

/-! ## What the subgraph answers -/

/-- A pool of two tokens, whose ids are in lower case. -/
structure IndexedPool where
  token0 : Text
  token1 : Text
  distinct : token0 ≠ token1
  state : PoolState

/-- `token0_in: $tokens, token1_in: $tokens`. -/
def IndexedPool.within (p : IndexedPool) (tokens : List Text) : Bool :=
  p.token0 ∈ tokens ∧ p.token1 ∈ tokens

/-- The pool is one of the pair. -/
def IndexedPool.Joins (p : IndexedPool) (a b : Text) : Prop :=
  p.token0 = a ∧ p.token1 = b ∨ p.token0 = b ∧ p.token1 = a

/-- The subgraph answers the query from what it has indexed: the first five, the deepest first. -/
def Indexes (postJson : PostPools) (indexed : List IndexedPool) : Prop :=
  ∀ tokens, ∃ order : List IndexedPool,
    order.Perm (indexed.filter fun p => p.within tokens) ∧
    order.Pairwise (fun p q => q.state.totalValueLockedUSD ≤ p.state.totalValueLockedUSD) ∧
    postJson tokens = .ok ⟨[], some ((order.take 5).map IndexedPool.state)⟩

/-- The deepest pool indexed between the tokens, if there is one. -/
inductive Deepest (indexed : List IndexedPool) (tokens : List Text) : Option PoolState → Prop
  | none (empty : ∀ p ∈ indexed, p.within tokens = false) : Deepest indexed tokens none
  | some {p : IndexedPool} (mem : p ∈ indexed) (within : p.within tokens = true)
      (deepest : ∀ q ∈ indexed, q.within tokens = true →
        q.state.totalValueLockedUSD ≤ p.state.totalValueLockedUSD) :
      Deepest indexed tokens (some p.state)

/-- What is kept is what the subgraph has indexed. -/
def Agrees (indexed : List IndexedPool) (cache : PoolCache) : Prop :=
  ∀ key cached, cache.get key = some cached → Deepest indexed (pairTokens key) cached.value

section Answers

variable {postJson : PostPools} {indexed : List IndexedPool} {cache : PoolCache}
  {ttlMs : Option Int} {tokenA tokenB : Text} {now later : Int}

theorem Indexes.deepest (indexes : Indexes postJson indexed) (tokens : List Text) :
    ∃ rows, postJson tokens = .ok ⟨[], some rows⟩ ∧ Deepest indexed tokens rows.head? := by
  obtain ⟨order, same, sorted, answer⟩ := indexes tokens
  refine ⟨_, answer, ?_⟩
  have listed {p : IndexedPool} : p ∈ order ↔ p ∈ indexed ∧ p.within tokens = true := by
    rw [same.mem_iff, List.mem_filter]
  cases order with
  | nil =>
      refine .none fun p mem => ?_
      rw [← Bool.not_eq_true]
      intro within
      cases listed.mpr ⟨mem, within⟩
  | cons p rest =>
      obtain ⟨mem, within⟩ := listed.mp List.mem_cons_self
      refine .some mem within fun q mem within => ?_
      rcases List.mem_cons.mp (listed.mpr ⟨mem, within⟩) with rfl | later
      · exact le_rfl
      · exact List.rel_of_pairwise_cons sorted later

/-- A call answers with the deepest pool of the pair, and keeps what it answers. -/
theorem deepestPool_spec (indexes : Indexes postJson indexed) (agrees : Agrees indexed cache) :
    ∃ best, (deepestPool postJson ttlMs cache tokenA tokenB now later).1 = .ok best ∧
      Deepest indexed (pairTokens (pairKey tokenA tokenB)) best ∧
      Agrees indexed (deepestPool postJson ttlMs cache tokenA tokenB now later).2 := by
  unfold deepestPool
  dsimp only
  cases found : cachedPool cache (pairKey tokenA tokenB) now with
  | some value =>
      refine ⟨value, rfl, ?_, agrees⟩
      unfold cachedPool at found
      split at found
      · next cached kept =>
          split_ifs at found
          cases found
          exact agrees _ cached kept
      · cases found
  | none =>
      obtain ⟨rows, answer, deepest⟩ := indexes.deepest (pairTokens (pairKey tokenA tokenB))
      rw [answer]
      refine ⟨rows.head?, rfl, deepest, fun key cached kept => ?_⟩
      simp only [ne_eq, not_true_eq_false, if_false, Option.getD_some, OrderedMap.get_set] at kept
      split_ifs at kept with here
      · cases kept
        rw [here]
        exact deepest
      · exact agrees key cached kept

end Answers

/-! ## The pair of a key -/

section Pairs

variable {a b c : Text}

theorem pairTokens_pairKey (first : ':' ∉ toLowerCase a) (second : ':' ∉ toLowerCase b) :
    pairTokens (pairKey a b) =
      if toLowerCase b < toLowerCase a then [toLowerCase b, toLowerCase a]
      else [toLowerCase a, toLowerCase b] := by
  unfold pairTokens pairKey
  dsimp only
  refine List.splitOn_intercalate ':' ?_ ?_
  · split_ifs <;> simp [first, second]
  · split_ifs <;> exact List.cons_ne_nil _ _

/-- With one token given the key gives the other. -/
theorem pairKey_inj (first : ':' ∉ toLowerCase a) (second : ':' ∉ toLowerCase b)
    (third : ':' ∉ toLowerCase c) :
    pairKey a b = pairKey a c ↔ toLowerCase b = toLowerCase c := by
  constructor
  · intro same
    have tokens := congrArg pairTokens same
    rw [pairTokens_pairKey first second, pairTokens_pairKey first third] at tokens
    split_ifs at tokens with left right right <;> grind
  · intro same
    rw [pairKey, pairKey, same]

/-- The pools the query finds are those of the pair. -/
theorem IndexedPool.within_pairTokens (p : IndexedPool) (first : ':' ∉ toLowerCase a)
    (second : ':' ∉ toLowerCase b) :
    p.within (pairTokens (pairKey a b)) = true ↔ p.Joins (toLowerCase a) (toLowerCase b) := by
  have distinct := p.distinct
  rw [pairTokens_pairKey first second, within, decide_eq_true_iff, Joins]
  split_ifs <;> grind

end Pairs

/-! ## The policy on what was read -/

/-- Of a swap the policy blocks what has no pool of the floor's depth. -/
theorem poolLiquidity_blocks_iff {indexed : List IndexedPool} {tokens : List Text}
    {best : Option PoolState} (deepest : Deepest indexed tokens best) {intent : NormalizedIntent}
    (swap : intent.kind = .swap) (floor : ℚ) (state : PolicyState) :
    ((PoolLiquidityPolicy floor (some best)).evaluate intent state).decision = .block ↔
      ¬ ∃ p ∈ indexed, p.within tokens = true ∧ floor ≤ p.state.totalValueLockedUSD := by
  unfold PoolLiquidityPolicy
  simp only [swap, ne_eq, not_true_eq_false, if_false]
  cases deepest with
  | none empty =>
      refine iff_of_true rfl ?_
      rintro ⟨p, mem, within, -⟩
      rw [empty p mem] at within
      cases within
  | @some p mem within deepest =>
      dsimp only
      split_ifs with deep
      · exact iff_of_false (by decide) (not_not.mpr ⟨p, mem, within, deep⟩)
      · refine iff_of_true rfl ?_
        rintro ⟨q, mem, within, floor⟩
        exact deep (floor.trans (deepest q mem within))

end UniswapPoolProvider

end Sdk

end AgentProof
