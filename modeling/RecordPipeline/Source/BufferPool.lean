import RecordPipeline.Bytes
import RecordPipeline.PoolCounts
import RecordPipeline.Text.Quoted

/-!
A pool of byte buffers for reuse. It starts full. A buffer that was frozen to be shared can be taken
back when nobody else holds it, and no buffer is taken back that has become too small.
-/

namespace RecordPipeline

structure Buffer where
  content : Bytes := []
  /-- How many bytes fit without more memory. -/
  capacity : Nat

namespace Buffer

/-- Adds bytes at the end. A buffer that is too small at least doubles. -/
def write (b : Buffer) (bytes : Bytes) : Buffer :=
  let needed := b.content.length + bytes.length
  { content := b.content ++ bytes
    capacity := if needed ≤ b.capacity then b.capacity else max 8 (max needed (2 * b.capacity)) }

end Buffer

/-- A buffer that is only read from now on, with the number of those who hold it. -/
structure FrozenBuffer where
  buffer : Buffer
  holders : Nat := 1

/-- Whether the memory can be had back. Without memory there is nothing to have back. -/
def FrozenBuffer.isOwned (b : FrozenBuffer) : Bool := b.holders = 1 && 0 < b.buffer.capacity

structure BufferPool where
  size : Nat
  bufferCapacity : Nat
  /-- The buffers that can be taken, the next one first. -/
  free : List Buffer
  counts : PoolCounts := {}

namespace BufferPool

/-- A full pool of at least one buffer. -/
def new (size bufferCapacity : Nat) : BufferPool :=
  { size := max size 1, bufferCapacity
    free := List.replicate (max size 1) { capacity := bufferCapacity } }

def available (p : BufferPool) : Nat := p.free.length

def get (p : BufferPool) : Buffer × BufferPool :=
  match p.free with
  | b :: rest => (b, { p with free := rest, counts := { p.counts with hits := p.counts.hits + 1 } })
  | [] =>
    ({ capacity := p.bufferCapacity },
      { p with counts := { p.counts with misses := p.counts.misses + 1 } })

def drop (p : BufferPool) : BufferPool :=
  { p with counts := { p.counts with drops := p.counts.drops + 1 } }

/-- Whether a buffer would be taken back now. -/
def takes (p : BufferPool) (b : Buffer) : Bool :=
  p.bufferCapacity ≤ b.capacity && p.free.length < p.size

def put (p : BufferPool) (b : Buffer) : BufferPool :=
  if p.takes b then
    { p with
      free := p.free ++ [{ b with content := [] }]
      counts := { p.counts with returns := p.counts.returns + 1 } }
  else p.drop

/-- Takes back a frozen buffer if it can, and tells whether it did. -/
def reclaim (p : BufferPool) (b : FrozenBuffer) : Bool × BufferPool :=
  if b.isOwned then (p.takes b.buffer, p.put b.buffer) else (false, p.drop)

def debug (p : BufferPool) : String :=
  Text.labelled "BufferPool" [
    ("available", toString p.available), ("capacity", toString p.size),
    ("buffer_capacity", toString p.bufferCapacity)]

end BufferPool

end RecordPipeline
