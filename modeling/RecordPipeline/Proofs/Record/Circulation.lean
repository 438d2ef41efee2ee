import RecordPipeline.Proofs.PoolAccounts
import RecordPipeline.Proofs.Record.Reuse

/-!
Records that go round between a pool and its users. However they are taken, used and given back, the
counts of the pool tell how many records wait in it, and what it hands out is a blank record of its
layout.
-/

namespace RecordPipeline

/-- The calls on a pool. -/
inductive PoolCall where
  | get
  | create
  | put
deriving DecidableEq

namespace Record

/-- A record of a layout that holds nothing, and that nothing can tell apart from a new one. -/
structure Blank (l : Layout) (r : Record) : Prop where
  layout : r.layout = l
  isEmpty : r.isEmpty = true
  fields : ∀ index, r.get index = []
  text : r.text = []
  metadata : r.metadata = none
  cache : r.cache = []
  alike : Alike r (new l)

theorem Matches.blank {l : Layout} {r : Record} (h : Matches r (new l)) : r.Blank l where
  layout := h.layout
  isEmpty := congrArg RecordSight.isEmpty h.sight_eq
  fields := fun index => congrFun h.get_eq index
  text := h.text_eq
  metadata := h.metadata
  cache := h.cache
  alike := h.alike

end Record

namespace RecordPool

open Record

/-- What can become of a new pool and of the records that it has handed out. Whoever has a record
may use it in any way, and gives it back in whatever state it is then. -/
inductive Circulates (size : Nat) (l : Layout) :
    List PoolCall → RecordPool → List Record → Prop where
  | new : Circulates size l [] (RecordPool.new size l) []
  | get {calls : List PoolCall} {p : RecordPool} {out : List Record}
      (before : Circulates size l calls p out) :
      Circulates size l (calls ++ [.get]) p.get.2 (p.get.1 :: out)
  | create {calls : List PoolCall} {p : RecordPool} {out : List Record}
      (before : Circulates size l calls p out) :
      Circulates size l (calls ++ [.create]) p (p.create :: out)
  | use (left : List Record) {calls : List PoolCall} {p : RecordPool} {right : List Record}
      {r : Record} (before : Circulates size l calls p (left ++ r :: right)) (u : RecordUse) :
      Circulates size l calls p (left ++ (r.use u).1 :: right)
  | put (left : List Record) {calls : List PoolCall} {p : RecordPool} {right : List Record}
      {r : Record} (before : Circulates size l calls p (left ++ r :: right)) :
      Circulates size l (calls ++ [.put]) (p.put r) (left ++ right)

section Calls

variable (p : RecordPool) (r : Record)

/-- A request is a miss exactly if no record waits. -/
theorem counts_get : p.get.2.counts =
    if p.available = 0 then { p.counts with misses := p.counts.misses + 1 }
    else { p.counts with hits := p.counts.hits + 1 } := by
  rw [available]
  cases free : p.free with
  | nil => rw [get_of_nil free, if_pos List.length_nil]
  | cons first rest =>
      rw [get_of_cons free, if_neg]
      exact Nat.succ_ne_zero rest.length

theorem available_get : p.get.2.available = p.available - 1 := by
  rw [available, available]
  cases free : p.free with
  | nil =>
      rw [get_of_nil free]
      simp [free]
  | cons first rest =>
      rw [get_of_cons free]
      simp

theorem capacity_get : p.get.2.capacity = p.capacity := by
  cases free : p.free with
  | nil => rw [get_of_nil free]
  | cons first rest => rw [get_of_cons free]

/-- A record that is given back is dropped exactly if there is no room for it. -/
theorem counts_put : (p.put r).counts =
    if p.available < p.capacity then { p.counts with returns := p.counts.returns + 1 }
    else { p.counts with drops := p.counts.drops + 1 } := by
  rw [put, available]
  split <;> rfl

theorem available_put : (p.put r).available =
    if p.available < p.capacity then p.available + 1 else p.available := by
  rw [put, available, available]
  split
  · exact List.length_append
  · rfl

theorem capacity_put : (p.put r).capacity = p.capacity := by
  rw [put]
  split <;> rfl

end Calls

/-- How the counts of a pool belong to the calls on it and to the records that wait in it. -/
structure Balanced (size : Nat) (calls : List PoolCall) (p : RecordPool) : Prop where
  capacity : p.capacity = max size 1
  available_le : p.available ≤ p.capacity
  waiting : p.available + p.counts.hits = p.capacity + p.counts.returns
  taken : p.counts.hits + p.counts.misses = calls.count .get
  given : p.counts.returns + p.counts.drops = calls.count .put

namespace Balanced

variable {size : Nat} {calls : List PoolCall} {p : RecordPool}

theorem new (size : Nat) (l : Layout) : Balanced size [] (RecordPool.new size l) where
  capacity := rfl
  available_le := Nat.le_of_eq List.length_replicate
  waiting := List.length_replicate
  taken := rfl
  given := rfl

/-- The balance is an account of the pool's counts. -/
theorem iff_account : Balanced size calls p ↔ p.capacity = max size 1 ∧
    p.counts.Account p.capacity p.available (calls.count .get) (calls.count .put) := by
  constructor
  · rintro ⟨capacity, most, waiting, taken, given⟩
    exact ⟨capacity, most, waiting, taken, given⟩
  · rintro ⟨capacity, most, waiting, taken, given⟩
    exact ⟨capacity, most, waiting, taken, given⟩

theorem get (h : Balanced size calls p) : Balanced size (calls ++ [.get]) p.get.2 := by
  obtain ⟨capacity, account⟩ := iff_account.mp h
  have gets : (calls ++ [PoolCall.get]).count .get = calls.count .get + 1 := by simp
  have puts : (calls ++ [PoolCall.get]).count .put = calls.count .put := by simp
  refine iff_account.mpr ⟨(capacity_get p).trans capacity, ?_⟩
  rw [counts_get, available_get, capacity_get, gets, puts]
  cases waits : p.available with
  | zero =>
      rw [waits] at account
      exact account.miss
  | succ left =>
      rw [waits] at account
      exact account.hit

theorem put (h : Balanced size calls p) (r : Record) :
    Balanced size (calls ++ [.put]) (p.put r) := by
  obtain ⟨capacity, account⟩ := iff_account.mp h
  have gets : (calls ++ [PoolCall.put]).count .get = calls.count .get := by simp
  have puts : (calls ++ [PoolCall.put]).count .put = calls.count .put + 1 := by simp
  refine iff_account.mpr ⟨(capacity_put p r).trans capacity, ?_⟩
  rw [counts_put, available_put, capacity_put, gets, puts]
  by_cases room : p.available < p.capacity
  · rw [if_pos room, if_pos room]
    exact account.returned room
  · rw [if_neg room, if_neg room]
    exact account.dropped

theorem create (h : Balanced size calls p) : Balanced size (calls ++ [.create]) p where
  capacity := h.capacity
  available_le := h.available_le
  waiting := h.waiting
  taken := by simpa using h.taken
  given := by simpa using h.given

end Balanced

namespace Circulates

variable {size : Nat} {l : Layout} {calls : List PoolCall} {p : RecordPool} {out : List Record}

/-- The pool has records like new ones only, and a record that it has handed out has become what the
uses of it made of a new one. -/
theorem stocked (run : Circulates size l calls p out) :
    Stocked l p ∧ ∀ r ∈ out, ∃ history, r = made l history := by
  induction run with
  | new => exact ⟨.new size l, nofun⟩
  | get _ ih =>
      obtain ⟨stocked, used⟩ := ih
      exact ⟨stocked.get.2, List.forall_mem_cons.mpr ⟨stocked.get.1.2, used⟩⟩
  | create _ ih =>
      obtain ⟨stocked, used⟩ := ih
      refine ⟨stocked, List.forall_mem_cons.mpr ⟨⟨[], ?_⟩, used⟩⟩
      exact congrArg Record.new stocked.layout
  | @use left _ _ right r _ u ih =>
      obtain ⟨stocked, used⟩ := ih
      refine ⟨stocked, ?_⟩
      intro other member
      rw [List.mem_append, List.mem_cons] at member
      rcases member with before | rfl | behind
      · exact used other (by simp [before])
      · obtain ⟨history, rfl⟩ := used r (by simp)
        exact ⟨history ++ [u], (made_concat l history u).symm⟩
      · exact used other (by simp [behind])
  | @put left _ _ right r _ ih =>
      obtain ⟨stocked, used⟩ := ih
      obtain ⟨history, rfl⟩ := used r (by simp)
      refine ⟨stocked.put history, ?_⟩
      intro other member
      exact used other (by simp only [List.mem_append, List.mem_cons] at member ⊢; tauto)

theorem balanced (run : Circulates size l calls p out) : Balanced size calls p := by
  induction run with
  | new => exact .new size l
  | get _ ih => exact ih.get
  | create _ ih => exact ih.create
  | use _ _ _ ih => exact ih
  | put _ _ ih => exact ih.put _

/-- Whatever calls were made on a pool and whatever was done with its records, its counts tell how
many records wait in it and how often it was called, with records that were made apart from it left
out. The next request is a miss exactly if none waits, the next record that is given back is dropped
exactly if the pool is full, and all that it hands out is blank. -/
theorem pool_keeps_account (run : Circulates size l calls p out) :
    Balanced size calls p ∧
    p.get.2.counts = (if p.available = 0 then { p.counts with misses := p.counts.misses + 1 }
      else { p.counts with hits := p.counts.hits + 1 }) ∧
    (∀ r, (p.put r).counts =
      if p.available = p.capacity then { p.counts with drops := p.counts.drops + 1 }
      else { p.counts with returns := p.counts.returns + 1 }) ∧
    p.get.1.Blank l ∧ p.create.Blank l := by
  obtain ⟨stocked, _⟩ := run.stocked
  have balanced := run.balanced
  refine ⟨balanced, counts_get p, ?_, stocked.get.1.1.blank, ?_⟩
  · intro r
    have most := balanced.available_le
    rw [counts_put]
    by_cases full : p.available = p.capacity
    · rw [if_neg (by omega), if_pos full]
    · rw [if_pos (by omega), if_neg full]
  · rw [RecordPool.create, stocked.layout]
    exact (clear_matches_new (new_overlayConsistent l)).blank

end Circulates

/-- Two records are taken from a pool of one, one is made apart from it, and two of these come back
after use. -/
theorem crowdedPool_keeps_account :
    ∃ p out, Circulates 0 Layout.standard [.get, .get, .create, .put, .put] p out ∧
      p.counts = { hits := 1, misses := 1, returns := 1, drops := 1 } ∧
      Balanced 0 [.get, .get, .create, .put, .put] p ∧ p.get.1.Blank Layout.standard := by
  have taken : Circulates 0 Layout.standard [.get, .get, .create] _ _ := .create (.get (.get .new))
  have used := taken.use [] (.call (.parse [97, 30, 98] none))
  have changed := used.use [] (.call (.set 1 [99]))
  have given := (changed.put []).put []
  obtain ⟨balanced, _, _, blank, _⟩ := given.pool_keeps_account
  exact ⟨_, _, given, by decide, balanced, blank⟩

end RecordPool

end RecordPipeline
