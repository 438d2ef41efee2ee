/-!
How well a pool of things for reuse has served.
-/

namespace RecordPipeline

/-- How often a pool could and could not serve or take back an item. -/
structure PoolCounts where
  hits : Nat := 0
  misses : Nat := 0
  returns : Nat := 0
  drops : Nat := 0
deriving DecidableEq

/-- The part of the requests that were served from the pool, one when there were none. -/
def PoolCounts.hitRate (c : PoolCounts) : Float :=
  if c.hits + c.misses = 0 then 1.0
  else Float.ofNat c.hits / Float.ofNat (c.hits + c.misses)

end RecordPipeline
