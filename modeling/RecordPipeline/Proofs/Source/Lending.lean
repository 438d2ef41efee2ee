import RecordPipeline.Proofs.PoolAccounts
import RecordPipeline.Source.BufferPool

/-!
Buffers that go round between a pool and its users. A buffer that was taken may be written in, and
frozen into a batch of which slices go on to others. However buffers are taken, filled, shared and
given back, the counts of the pool tell how many wait in it, what it hands out holds no bytes of
before, and the memory of a buffer that waits belongs to nobody else.
-/

namespace RecordPipeline

/-- The calls on a pool of buffers. -/
inductive BufferCall where
  | get
  | put
  | reclaim
deriving DecidableEq

/-- A buffer that holds nothing and has room for so many bytes. -/
structure Buffer.Blank (least : Nat) (b : Buffer) : Prop where
  content : b.content = []
  capacity : least ≤ b.capacity

namespace BufferPool

/-- What a pool hands out: the buffer that has waited longest or, when none waits, a new one. -/
inductive Hands (p : BufferPool) : Buffer → BufferPool → Prop where
  | waiting {b : Buffer} {rest : List Buffer} (free : p.free = b :: rest) :
      Hands p b { p with
        free := rest
        counts := { p.counts with hits := p.counts.hits + 1 } }
  | made (free : p.free = []) :
      Hands p { capacity := p.bufferCapacity } { p with
        counts := { p.counts with misses := p.counts.misses + 1 } }

/-- What a pool makes of a buffer that is given back: it takes it in without its bytes, if the
buffer is large enough and there is room, or drops it. -/
inductive Returns (p : BufferPool) (b : Buffer) : Bool → BufferPool → Prop where
  | taken (large : p.bufferCapacity ≤ b.capacity) (room : p.available < p.size) :
      Returns p b true { p with
        free := p.free ++ [{ b with content := [] }]
        counts := { p.counts with returns := p.counts.returns + 1 } }
  | dropped : Returns p b false p.drop

section Calls

variable (p : BufferPool)

theorem get_hands : Hands p p.get.1 p.get.2 := by
  rw [get]
  split
  case h_1 b rest free => exact .waiting free
  case h_2 free => exact .made free

theorem takes_iff (b : Buffer) :
    p.takes b = true ↔ p.bufferCapacity ≤ b.capacity ∧ p.available < p.size := by
  rw [takes, Bool.and_eq_true, decide_eq_true_iff, decide_eq_true_iff, available]

theorem put_returns (b : Buffer) : Returns p b (p.takes b) (p.put b) := by
  rw [put]
  cases takes : p.takes b with
  | false => exact .dropped
  | true =>
      obtain ⟨large, room⟩ := (p.takes_iff b).mp takes
      exact .taken large room

/-- A frozen buffer is given back like any other or dropped. -/
theorem reclaim_returns (b : FrozenBuffer) :
    Returns p b.buffer (p.reclaim b).1 (p.reclaim b).2 := by
  rw [reclaim]
  split
  · exact p.put_returns b.buffer
  · exact .dropped

/-- A frozen buffer is taken back exactly if nobody else holds it, there is memory to have back, and
the pool would take the buffer that it was. -/
theorem reclaim_iff (b : FrozenBuffer) : (p.reclaim b).1 = true ↔
    b.holders = 1 ∧ 0 < b.buffer.capacity ∧
      p.bufferCapacity ≤ b.buffer.capacity ∧ p.available < p.size := by
  have owned : b.isOwned = true ↔ b.holders = 1 ∧ 0 < b.buffer.capacity := by
    rw [FrozenBuffer.isOwned, Bool.and_eq_true, decide_eq_true_iff, decide_eq_true_iff]
  rw [← p.takes_iff, ← and_assoc, ← owned, reclaim]
  by_cases sole : b.isOwned = true
  · rw [if_pos sole, and_iff_right sole]
  · rw [if_neg sole, iff_false_intro Bool.false_ne_true, false_iff]
    exact fun both => sole both.1

end Calls

section Outcomes

variable {p after : BufferPool} {b : Buffer} {isTaken : Bool}

theorem Hands.available (h : Hands p b after) : after.available = p.available - 1 := by
  cases h with
  | waiting free | made free =>
      rw [BufferPool.available, BufferPool.available, free]
      rfl

theorem Returns.available (h : Returns p b isTaken after) :
    after.available = if isTaken then p.available + 1 else p.available := by
  cases h with
  | taken => exact List.length_append
  | dropped => rfl

/-- A pool has grown exactly if it has taken the buffer in. -/
theorem Returns.grown_iff (h : Returns p b isTaken after) :
    p.available < after.available ↔ isTaken = true := by
  rw [h.available]
  cases isTaken <;> simp

end Outcomes

/-- A pool after calls on it: its counts belong to the calls and to the buffers that wait in it, and
each of these is blank. -/
structure Stocked (size least : Nat) (calls : List BufferCall) (p : BufferPool) : Prop where
  size : p.size = max size 1
  bufferCapacity : p.bufferCapacity = least
  account : p.counts.Account p.size p.available (calls.count .get)
    (calls.count .put + calls.count .reclaim)
  blank : ∀ b ∈ p.free, b.Blank least

namespace Stocked

variable {size least : Nat} {calls : List BufferCall} {p after : BufferPool} {b : Buffer}

theorem new (size least : Nat) : Stocked size least [] (BufferPool.new size least) where
  size := rfl
  bufferCapacity := rfl
  account := by
    have full : (BufferPool.new size least).available = max size 1 := List.length_replicate
    rw [full]
    exact .full (max size 1)
  blank := by
    intro b member
    obtain ⟨_, rfl⟩ := List.mem_replicate.mp member
    exact ⟨rfl, Nat.le_refl least⟩

theorem hands (h : Stocked size least calls p) (handed : Hands p b after) :
    b.Blank least ∧ Stocked size least (calls ++ [.get]) after := by
  obtain ⟨sizeEq, capacityEq, account, blank⟩ := h
  have requests : (calls ++ [BufferCall.get]).count .get = calls.count .get + 1 := by simp
  have given : (calls ++ [BufferCall.get]).count .put + (calls ++ [BufferCall.get]).count .reclaim =
      calls.count .put + calls.count .reclaim := by simp
  cases handed with
  | @waiting _ rest free =>
      have waits : p.available = rest.length + 1 := by rw [available, free, List.length_cons]
      rw [waits] at account
      refine ⟨blank b (by simp [free]), sizeEq, capacityEq, ?_, ?_⟩
      · rw [requests, given]
        exact account.hit
      · intro other member
        exact blank other (free ▸ List.mem_cons_of_mem b member)
  | made free =>
      refine ⟨⟨rfl, Nat.le_of_eq capacityEq.symm⟩, sizeEq, capacityEq, ?_, blank⟩
      rw [requests, given]
      exact account.miss

/-- Both calls that give a buffer back leave the same account. -/
theorem returns (h : Stocked size least calls p) {isTaken : Bool}
    (returned : Returns p b isTaken after) {call : BufferCall} (gives : call ≠ .get) :
    Stocked size least (calls ++ [call]) after := by
  obtain ⟨sizeEq, capacityEq, account, blank⟩ := h
  have requests : (calls ++ [call]).count .get = calls.count .get := by
    rw [List.count_append, List.count_singleton, if_neg (by simpa using gives), Nat.add_zero]
  have given : (calls ++ [call]).count .put + (calls ++ [call]).count .reclaim =
      calls.count .put + calls.count .reclaim + 1 := by
    cases call with
    | get => exact absurd rfl gives
    | put => simp [Nat.add_right_comm]
    | reclaim => simp [Nat.add_assoc]
  have left := returned.available
  cases returned with
  | taken large room =>
      refine ⟨sizeEq, capacityEq, ?_, ?_⟩
      · rw [requests, given, left]
        exact account.returned room
      · intro other member
        rcases List.mem_append.mp member with before | new
        · exact blank other before
        · obtain rfl := List.mem_singleton.mp new
          exact ⟨rfl, capacityEq ▸ large⟩
  | dropped =>
      refine ⟨sizeEq, capacityEq, ?_, blank⟩
      rw [requests, given]
      exact account.dropped

end Stocked

end BufferPool

/-- A buffer, or a slice of a frozen one, with the memory that it lies in. -/
structure Placed where
  memory : Nat
  buffer : Buffer

/-- How many of them lie in some memory. -/
def Placed.uses (xs : List Placed) (memory : Nat) : Nat := (xs.map Placed.memory).count memory

/-- A pool of buffers with all that is held of their memory. -/
structure Lending where
  pool : BufferPool
  /-- The memory of the buffers that wait in the pool, in their order. -/
  waiting : List Nat
  /-- The buffers that somebody may write in. -/
  held : List Placed
  /-- The slices of frozen buffers that somebody may read. -/
  slices : List Placed

namespace Lending

/-- Nobody has anything to do with some memory. -/
def Unused (s : Lending) (memory : Nat) : Prop :=
  s.waiting.count memory + Placed.uses s.held memory + Placed.uses s.slices memory = 0

/-- A slice as the pool is given it, which can tell how many slices of its memory there are. -/
def frozen (s : Lending) (x : Placed) : FrozenBuffer :=
  { buffer := x.buffer, holders := Placed.uses s.slices x.memory }

/-- After the pool was given a buffer. The memory of the buffer waits if the pool has grown. -/
def given (s : Lending) (pool : BufferPool) (memory : Nat) : Lending :=
  { s with
    pool
    waiting := if s.pool.available < pool.available then s.waiting ++ [memory] else s.waiting }

end Lending

/-- What can become of a new pool and of all that goes out from it, with the calls on the pool.
Buffers come from the pool or from elsewhere and may get any content and capacity, and so may the
slices that others share. A buffer is given back by its only owner, but a slice by anyone who holds
it, while others may read the same memory. -/
inductive Lends (size least : Nat) : List BufferCall → Lending → Prop where
  | new : Lends size least [] {
      pool := .new size least
      waiting := List.range (max size 1)
      held := []
      slices := [] }
  | take {calls : List BufferCall} {s : Lending} {memory : Nat} {rest : List Nat}
      (before : Lends size least calls s) (first : s.waiting = memory :: rest) :
      Lends size least (calls ++ [.get]) { s with
        pool := s.pool.get.2
        waiting := rest
        held := ⟨memory, s.pool.get.1⟩ :: s.held }
  | make {calls : List BufferCall} {s : Lending} (before : Lends size least calls s)
      (memory : Nat) (empty : s.waiting = []) (unused : s.Unused memory) :
      Lends size least (calls ++ [.get]) { s with
        pool := s.pool.get.2
        held := ⟨memory, s.pool.get.1⟩ :: s.held }
  | bring {calls : List BufferCall} {s : Lending} (before : Lends size least calls s)
      (x : Placed) (unused : s.Unused x.memory) :
      Lends size least calls { s with held := x :: s.held }
  | write {calls : List BufferCall} {s : Lending} {x : Placed} {rest : List Placed}
      (before : Lends size least calls s) (own : s.held.Perm (x :: rest)) (b : Buffer) :
      Lends size least calls { s with held := { x with buffer := b } :: rest }
  | discard {calls : List BufferCall} {s : Lending} {x : Placed} {rest : List Placed}
      (before : Lends size least calls s) (own : s.held.Perm (x :: rest)) :
      Lends size least calls { s with held := rest }
  | put {calls : List BufferCall} {s : Lending} {x : Placed} {rest : List Placed}
      (before : Lends size least calls s) (own : s.held.Perm (x :: rest)) :
      Lends size least (calls ++ [.put])
        { s.given (s.pool.put x.buffer) x.memory with held := rest }
  | freeze {calls : List BufferCall} {s : Lending} {x : Placed} {rest : List Placed}
      (before : Lends size least calls s) (own : s.held.Perm (x :: rest)) :
      Lends size least calls { s with held := rest, slices := x :: s.slices }
  | share {calls : List BufferCall} {s : Lending} {x : Placed}
      (before : Lends size least calls s) (whole : x ∈ s.slices) (b : Buffer) :
      Lends size least calls { s with slices := { x with buffer := b } :: s.slices }
  | release {calls : List BufferCall} {s : Lending} {x : Placed} {rest : List Placed}
      (before : Lends size least calls s) (own : s.slices.Perm (x :: rest)) :
      Lends size least calls { s with slices := rest }
  | reclaim {calls : List BufferCall} {s : Lending} {x : Placed} {rest : List Placed}
      (before : Lends size least calls s) (own : s.slices.Perm (x :: rest)) :
      Lends size least (calls ++ [.reclaim])
        { s.given (s.pool.reclaim (s.frozen x)).2 x.memory with slices := rest }

namespace Placed

theorem uses_cons (x : Placed) (xs : List Placed) (memory : Nat) :
    uses (x :: xs) memory = uses xs memory + if x.memory = memory then 1 else 0 := by
  rw [uses, uses, List.map_cons, List.count_cons]
  simp only [beq_iff_eq]

theorem uses_perm {xs ys : List Placed} (same : xs.Perm ys) (memory : Nat) :
    uses xs memory = uses ys memory :=
  (same.map Placed.memory).count_eq memory

theorem uses_pos_of_mem {xs : List Placed} {x : Placed} (member : x ∈ xs) :
    0 < uses xs x.memory :=
  List.count_pos_iff.mpr (List.mem_map_of_mem member)

end Placed

namespace Lending

variable {s : Lending}

theorem given_waiting {pool : BufferPool} {b : Buffer} {isTaken : Bool} (memory : Nat)
    (returned : s.pool.Returns b isTaken pool) :
    (s.given pool memory).waiting = if isTaken then s.waiting ++ [memory] else s.waiting := by
  rw [given]
  simp only [returned.grown_iff]

theorem count_given_le {pool : BufferPool} {b : Buffer} {isTaken : Bool} (back memory : Nat)
    (returned : s.pool.Returns b isTaken pool) : (s.given pool back).waiting.count memory ≤
      s.waiting.count memory + if isTaken = true then if back = memory then 1 else 0 else 0 := by
  rw [given_waiting back returned]
  cases isTaken with
  | true => simp [List.count_singleton]
  | false => simp

theorem given_lined {pool : BufferPool} {b : Buffer} {isTaken : Bool}
    (lined : s.waiting.length = s.pool.available) (memory : Nat)
    (returned : s.pool.Returns b isTaken pool) :
    (s.given pool memory).waiting.length = pool.available := by
  rw [given_waiting memory returned, returned.available]
  cases isTaken with
  | true => exact List.length_append.trans (congrArg (· + 1) lined)
  | false => exact lined

/-- No memory is in two places: what waits in the pool belongs to nobody else, and what somebody may
write in is read by nobody. -/
structure Apart (s : Lending) : Prop where
  lined : s.waiting.length = s.pool.available
  waiting : s.waiting.Nodup
  held : (s.held.map Placed.memory).Nodup
  held_waiting : ∀ x ∈ s.held, x.memory ∉ s.waiting
  slices_waiting : ∀ x ∈ s.slices, x.memory ∉ s.waiting
  slices_held : ∀ x ∈ s.slices, ∀ y ∈ s.held, y.memory ≠ x.memory

/-- What some memory is used for: to wait in the pool, to be written in, or to be read, by however
many. -/
def owners (s : Lending) (memory : Nat) : Nat :=
  s.waiting.count memory + Placed.uses s.held memory + min 1 (Placed.uses s.slices memory)

section Steps

variable {x : Placed} {rest : List Placed} {memory : Nat}

theorem owners_of_unused (once : s.owners memory ≤ 1) (unused : s.Unused x.memory)
    (pool : BufferPool) : ({ s with pool, held := x :: s.held } : Lending).owners memory ≤ 1 := by
  simp only [owners, Placed.uses_cons] at once ⊢
  split
  case isTrue same =>
    subst same
    rw [Unused] at unused
    omega
  case isFalse => exact once

theorem owners_put (once : s.owners memory ≤ 1) (own : s.held.Perm (x :: rest)) :
    ({ s.given (s.pool.put x.buffer) x.memory with held := rest } : Lending).owners memory ≤ 1 := by
  have waiting := count_given_le x.memory memory (s.pool.put_returns x.buffer)
  simp only [owners, Placed.uses_perm own, Placed.uses_cons] at once ⊢
  change _ + _ + min 1 (Placed.uses s.slices memory) ≤ 1
  split at waiting <;> omega

theorem owners_share (once : s.owners memory ≤ 1) (whole : x ∈ s.slices) (b : Buffer) :
    ({ s with slices := { x with buffer := b } :: s.slices } : Lending).owners memory ≤ 1 := by
  have read := Placed.uses_pos_of_mem whole
  simp only [owners, Placed.uses_cons] at once ⊢
  split
  case isTrue same =>
    subst same
    omega
  case isFalse => exact once

/-- A slice that is taken back was the last one of its memory, and any other leaves the pool as it
is. -/
theorem owners_reclaim (once : s.owners memory ≤ 1) (own : s.slices.Perm (x :: rest)) :
    ({ s.given (s.pool.reclaim (s.frozen x)).2 x.memory with slices := rest } : Lending).owners
      memory ≤ 1 := by
  have waiting := count_given_le x.memory memory (s.pool.reclaim_returns (s.frozen x))
  simp only [owners, Placed.uses_perm own, Placed.uses_cons] at once ⊢
  change _ + Placed.uses s.held memory + _ ≤ 1
  split at waiting
  case isTrue taken =>
    have last : Placed.uses s.slices x.memory = 1 :=
      ((s.pool.reclaim_iff (s.frozen x)).mp taken).1
    rw [Placed.uses_perm own, Placed.uses_cons, if_pos rfl] at last
    split at waiting
    case isTrue same =>
      subst same
      rw [if_pos rfl] at once
      omega
    case isFalse => omega
  case isFalse => omega

theorem not_mem_waiting (once : s.owners memory ≤ 1)
    (used : 0 < Placed.uses s.held memory + Placed.uses s.slices memory) :
    memory ∉ s.waiting := by
  intro waits
  have counted := List.count_pos_iff.mpr waits
  rw [owners] at once
  omega

end Steps

theorem apart_of_owners (lined : s.waiting.length = s.pool.available)
    (once : ∀ memory, s.owners memory ≤ 1) : s.Apart where
  lined := lined
  waiting := by
    rw [List.nodup_iff_count]
    intro memory
    have single := once memory
    rw [owners] at single
    omega
  held := by
    rw [List.nodup_iff_count]
    intro memory
    have single := once memory
    rw [owners, Placed.uses] at single
    omega
  held_waiting := fun x member =>
    not_mem_waiting (once x.memory) (Nat.add_pos_left (Placed.uses_pos_of_mem member) _)
  slices_waiting := fun x member =>
    not_mem_waiting (once x.memory) (Nat.add_pos_right _ (Placed.uses_pos_of_mem member))
  slices_held := by
    intro x read y written same
    have single := once x.memory
    have reading := Placed.uses_pos_of_mem read
    have writing := Placed.uses_pos_of_mem written
    rw [same] at writing
    rw [owners] at single
    omega

end Lending

namespace Lends

variable {size least : Nat} {calls : List BufferCall} {s : Lending}

theorem stocked (run : Lends size least calls s) : s.pool.Stocked size least calls := by
  induction run with
  | new => exact .new size least
  | take _ _ ih => exact (ih.hands (BufferPool.get_hands _)).2
  | make _ _ _ _ ih => exact (ih.hands (BufferPool.get_hands _)).2
  | put _ _ ih => exact ih.returns (BufferPool.put_returns _ _) nofun
  | reclaim _ _ ih => exact ih.returns (BufferPool.reclaim_returns _ _) nofun
  | bring _ _ _ ih | write _ _ _ ih | share _ _ _ ih => exact ih
  | discard _ _ ih | freeze _ _ ih | release _ _ ih => exact ih

/-- The memory of every buffer that waits in the pool is known. -/
theorem lined (run : Lends size least calls s) : s.waiting.length = s.pool.available := by
  induction run with
  | new => exact List.length_range.trans List.length_replicate.symm
  | @take _ s _ rest _ first ih =>
      rw [(BufferPool.get_hands s.pool).available, ← ih, first]
      rfl
  | @make _ s _ _ empty _ ih =>
      rw [(BufferPool.get_hands s.pool).available, ← ih, empty]
      rfl
  | put _ _ ih => exact Lending.given_lined ih _ (BufferPool.put_returns _ _)
  | reclaim _ _ ih => exact Lending.given_lined ih _ (BufferPool.reclaim_returns _ _)
  | bring _ _ _ ih | write _ _ _ ih | share _ _ _ ih => exact ih
  | discard _ _ ih | freeze _ _ ih | release _ _ ih => exact ih

/-- At any time memory waits in the pool, or one owner may write in it, or slices of it are read. -/
theorem owners_le_one (run : Lends size least calls s) (memory : Nat) : s.owners memory ≤ 1 := by
  induction run with
  | new =>
      have distinct : (List.range (max size 1)).Nodup := List.nodup_range
      simpa [Lending.owners, Placed.uses] using List.nodup_iff_count.mp distinct memory
  | take _ first ih =>
      simp only [Lending.owners, first, List.count_cons, beq_iff_eq] at ih
      simp only [Lending.owners, Placed.uses_cons]
      omega
  | make _ _ _ unused ih => exact Lending.owners_of_unused ih unused _
  | bring _ _ unused ih => exact Lending.owners_of_unused ih unused _
  | put _ own ih => exact Lending.owners_put ih own
  | share _ whole b ih => exact Lending.owners_share ih whole b
  | reclaim _ own ih => exact Lending.owners_reclaim ih own
  | write _ own _ ih =>
      simp only [Lending.owners, Placed.uses_perm own, Placed.uses_cons] at ih ⊢
      exact ih
  | discard _ own ih | freeze _ own ih | release _ own ih =>
      simp only [Lending.owners, Placed.uses_perm own, Placed.uses_cons] at ih ⊢
      omega

theorem apart (run : Lends size least calls s) : s.Apart :=
  Lending.apart_of_owners run.lined run.owners_le_one

/-- Whatever calls were made on a pool, and whatever was done with the buffers that went out from it
or came from elsewhere, its counts tell how many buffers wait in it and how often it was called, and
each buffer that waits or is handed out holds nothing and is large enough. It hands out one that
waits if it can, and takes one back exactly if that is large enough, there is room, and nobody else
holds it, which is what the answer says. So no memory waits in it that somebody still has. -/
theorem pool_lends_unshared_buffers (run : Lends size least calls s) :
    s.pool.Stocked size least calls ∧ s.Apart ∧
    s.pool.Hands s.pool.get.1 s.pool.get.2 ∧ s.pool.get.1.Blank least ∧
    (∀ b, s.pool.Returns b (decide (least ≤ b.capacity ∧ s.pool.available < s.pool.size))
      (s.pool.put b)) ∧
    (∀ b, s.pool.Returns b.buffer (s.pool.reclaim b).1 (s.pool.reclaim b).2 ∧
      ((s.pool.reclaim b).1 = true ↔ b.holders = 1 ∧ 0 < b.buffer.capacity ∧
        least ≤ b.buffer.capacity ∧ s.pool.available < s.pool.size)) := by
  have stocked := run.stocked
  have handed := s.pool.get_hands
  refine ⟨stocked, run.apart, handed, (stocked.hands handed).1, ?_, ?_⟩
  · intro b
    have takes : s.pool.takes b =
        decide (least ≤ b.capacity ∧ s.pool.available < s.pool.size) := by
      rw [Bool.eq_iff_iff, s.pool.takes_iff, decide_eq_true_iff, stocked.bufferCapacity]
    exact takes ▸ s.pool.put_returns b
  · intro b
    refine ⟨s.pool.reclaim_returns b, ?_⟩
    rw [s.pool.reclaim_iff, stocked.bufferCapacity]

/-- A batch comes back while one of its lines is still read, then a batch that nobody else holds,
and a buffer from elsewhere when the pool is full. The line keeps its memory all the time. -/
theorem readLine_keeps_memory :
    ∃ s, Lends 0 4 [.get, .reclaim, .get, .reclaim, .put, .get] s ∧
      s.slices = [⟨0, { content := [97], capacity := 1 }⟩] ∧ s.held.map Placed.memory = [1] ∧
      s.pool.counts = { hits := 2, misses := 1, returns := 1, drops := 2 } ∧
      s.pool.Stocked 0 4 [.get, .reclaim, .get, .reclaim, .put, .get] ∧ s.Apart := by
  have taken : Lends 0 4 [.get] _ := .take .new rfl
  have written := taken.write (.refl _) { content := [97, 10], capacity := 4 }
  have frozen := written.freeze (.refl _)
  have shared := frozen.share List.mem_cons_self { content := [97], capacity := 1 }
  have refused := shared.reclaim (List.Perm.swap _ _ _)
  have made := refused.make 1 rfl rfl
  have back := (made.freeze (.refl _)).reclaim (List.Perm.refl _)
  have brought := back.bring ⟨2, { content := [98], capacity := 9 }⟩ rfl
  have given := brought.put (.refl _)
  have again := given.take rfl
  obtain ⟨stocked, apart, _⟩ := again.pool_lends_unshared_buffers
  exact ⟨_, again, rfl, rfl, rfl, stocked, apart⟩

end Lends

end RecordPipeline
