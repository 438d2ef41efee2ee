import RecordPipeline.PoolCounts

/-!
The account of a pool of things for reuse. What waits in a pool and what it has served make up what
it held at first and what it has taken back, whatever the things are.
-/

namespace RecordPipeline

namespace PoolCounts

/-- How the counts of a pool belong to the things that wait in it, of which there may be so many as
its capacity says, and to the requests and the returns that there were. -/
structure Account (capacity available requests given : Nat) (c : PoolCounts) : Prop where
  available_le : available ≤ capacity
  waiting : available + c.hits = capacity + c.returns
  requested : c.hits + c.misses = requests
  settled : c.returns + c.drops = given

namespace Account

variable {capacity available requests given : Nat} {c : PoolCounts}

theorem full (capacity : Nat) : Account capacity capacity 0 0 {} where
  available_le := Nat.le_refl capacity
  waiting := rfl
  requested := rfl
  settled := rfl

theorem hit (h : Account capacity (available + 1) requests given c) :
    Account capacity available (requests + 1) given { c with hits := c.hits + 1 } := by
  obtain ⟨most, waiting, requested, settled⟩ := h
  constructor <;> grind only

theorem miss (h : Account capacity available requests given c) :
    Account capacity available (requests + 1) given { c with misses := c.misses + 1 } := by
  obtain ⟨most, waiting, requested, settled⟩ := h
  constructor <;> grind only

theorem returned (h : Account capacity available requests given c) (room : available < capacity) :
    Account capacity (available + 1) requests (given + 1) { c with returns := c.returns + 1 } := by
  obtain ⟨most, waiting, requested, settled⟩ := h
  constructor <;> grind only

theorem dropped (h : Account capacity available requests given c) :
    Account capacity available requests (given + 1) { c with drops := c.drops + 1 } := by
  obtain ⟨most, waiting, requested, settled⟩ := h
  constructor <;> grind only

end Account

end PoolCounts

end RecordPipeline
