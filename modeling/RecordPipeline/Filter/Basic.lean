import RecordPipeline.Filter.Error
import RecordPipeline.Metric.Bag
import RecordPipeline.Record.Basic

/-!
Filters. What a filter does with one record is an activity: it hands records on one at a time, sees
each of them again as the stages behind left it, and at the end leaves a record and a result. A
filter may have a state of its own, which a record finds as the one before it left it. All filters
of a chain have states of one type, which may be a sum of many; those of most have no state at all.
-/

namespace RecordPipeline

inductive Activity (τ : Type := Unit) where
  /-- The end: the record as it is left, the result, increments of the filter's own counters, and
  its new state. -/
  | done (record : Record) (result : Except FilterError Unit) (noted : List (String × Nat))
      (state : τ)
  /-- A record is handed on, and comes back from there. -/
  | emit (record : Record) (next : Record → Activity τ)

/-- A place that records are handed to. It may change a record and keeps a state of its own. -/
abbrev Stage (σ : Type) := Record → σ → Record × σ

namespace Activity

/-- Hands the record on once and leaves it as it comes back. -/
def pass (r : Record) (noted : List (String × Nat)) : Activity :=
  .emit r fun r => .done r (.ok ()) noted ()

/-- Leaves the record with an error. -/
def fail (r : Record) (e : FilterError) : Activity := .done r (.error e) [] ()

/-- How an activity went, with the number of records that were handed on. -/
structure Outcome (τ : Type := Unit) where
  record : Record
  result : Except FilterError Unit
  noted : List (String × Nat)
  emitted : Nat
  state : τ := by exact ()

def run {σ τ : Type} (stage : Stage σ) : Activity τ → σ → Outcome τ × σ
  | .done record result noted state, s => ({ record, result, noted, emitted := 0, state }, s)
  | .emit record next, s =>
    let (back, s) := stage record s
    let (o, s) := run stage (next back) s
    ({ o with emitted := o.emitted + 1 }, s)

end Activity

structure Filter (τ : Type := Unit) where
  name : String
  /-- A filter may say that it takes no part in a chain. -/
  enabled : Bool := true
  /-- The filter's own counters before the first record. -/
  initial : Bag := {}
  /-- The filter's state before the first record. -/
  state : τ := by exact ()
  process : τ → Record → Activity τ

end RecordPipeline
