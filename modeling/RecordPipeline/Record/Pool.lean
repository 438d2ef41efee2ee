import RecordPipeline.PoolCounts
import RecordPipeline.Record.Basic

/-!
A pool of records for reuse. It starts full; a record that is taken from an empty pool is made new,
and a record that is given back to a full pool is dropped.
-/

namespace RecordPipeline

structure RecordPool where
  layout : Layout
  capacity : Nat
  /-- The records that can be taken, the next one first. -/
  free : List Record
  counts : PoolCounts := {}

namespace RecordPool

/-- A pool that holds as many records as it can, at least one. -/
def new (size : Nat) (layout : Layout) : RecordPool :=
  { layout, capacity := max size 1, free := List.replicate (max size 1) (Record.new layout) }

def available (p : RecordPool) : Nat := p.free.length

def get (p : RecordPool) : Record × RecordPool :=
  match p.free with
  | r :: rest => (r, { p with free := rest, counts := { p.counts with hits := p.counts.hits + 1 } })
  | [] =>
    (Record.new p.layout, { p with counts := { p.counts with misses := p.counts.misses + 1 } })

/-- Clears a record and takes it back. -/
def put (p : RecordPool) (r : Record) : RecordPool :=
  if p.free.length < p.capacity then
    { p with
      free := p.free ++ [r.clear]
      counts := { p.counts with returns := p.counts.returns + 1 } }
  else { p with counts := { p.counts with drops := p.counts.drops + 1 } }

/-- A new record that the pool does not count. -/
def create (p : RecordPool) : Record := Record.new p.layout

def debug (p : RecordPool) : String :=
  Text.labelled "RecordPool" [
    ("available", toString p.available), ("capacity", toString p.capacity)]

end RecordPool

end RecordPipeline
