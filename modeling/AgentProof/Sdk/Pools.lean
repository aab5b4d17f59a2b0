import AgentProof.Sdk.Policies

/-!
# Pool plausibility

`policies/index.ts`, `PoolLiquidityPolicy`, on what `state/UniswapPoolProvider.ts`
answers.  A policy state has no pool here, so the policy is built for the pool
it is to see: `none` where none was read, and `some none` where none is indexed.
The floor is a number of dollars, as what is locked is.
-/

namespace AgentProof

namespace Sdk

open Js

structure PoolState where
  totalValueLockedUSD : Rat
  deriving DecidableEq, Repr

/-- `Math.round`. -/
def round (value : Rat) : Int := (value + 1 / 2).floor

/-- `toLocaleString('en-US')` of a number: to the nearest thousandth, without the zeros at its
end. -/
def numberToLocaleString (value : Rat) : Text :=
  let thousandths := (|value| * 1000 + 1 / 2).floor.toNat
  let fraction := (padStart 3 '0' (toDecimal (thousandths % 1000 : Nat))).rdropWhile (· = '0')
  (if value < 0 then "-".toList else []) ++ toLocaleString (thousandths / 1000 : Nat) ++
    (if fraction = [] then [] else '.' :: fraction)

def PoolLiquidityPolicy (minTvlUsd : Rat) (pool : Option (Option PoolState)) : Policy where
  id := "poolLiquidity".toList
  formallyVerified := false
  evaluate intent _ :=
    if intent.kind ≠ .swap then pass
    else
      match pool with
      | none => pass
      | some none => {
          decision := .block
          reason := some ("no Uniswap pool is indexed for this pair, so the swap has no venue we " ++
            "can verify").toList
          violation := some {
            policy := "poolLiquidity".toList
            limit := round minTvlUsd
            observed := 0
            provenance := .decoded
            message := "no indexed pool".toList } }
      | some (some pool) =>
          if pool.totalValueLockedUSD ≥ minTvlUsd then pass
          else {
            decision := .block
            reason := some ("the deepest pool for this pair holds about $".toList ++
              toLocaleString (round pool.totalValueLockedUSD) ++ ", under the $".toList ++
              numberToLocaleString minTvlUsd ++ " floor — too thin to trade into".toList)
            violation := some {
              policy := "poolLiquidity".toList
              limit := round minTvlUsd
              observed := round pool.totalValueLockedUSD
              provenance := .decoded
              message := "pool liquidity below the configured floor".toList } }

end Sdk

end AgentProof
