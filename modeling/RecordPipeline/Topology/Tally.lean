import RecordPipeline.Metric.Collected
import RecordPipeline.Record.FieldMap

/-!
What a running pipeline counts. Invalid records are also counted by the field that was missing,
for each field that the layout has.
-/

namespace RecordPipeline

structure PipelineTally where
  batches : Nat := 0
  bytes : Nat := 0
  records : Nat := 0
  malformed : Nat := 0
  invalid : Nat := 0
  invalidByField : List Nat := []
  /-- Records from which no output came. -/
  dropped : Nat := 0
  emitted : Nat := 0
  /-- Outputs for queues that nobody reads any more. -/
  undelivered : Nat := 0
  /-- How often an output had to wait for a full queue. -/
  backpressure : Nat := 0
deriving DecidableEq

namespace PipelineTally

def new (maxFields : Nat) : PipelineTally := { invalidByField := List.replicate maxFields 0 }

def addBatch (t : PipelineTally) (size : Nat) : PipelineTally :=
  { t with batches := t.batches + 1, bytes := t.bytes + size }

def addRecord (t : PipelineTally) : PipelineTally := { t with records := t.records + 1 }

def addMalformed (t : PipelineTally) : PipelineTally := { t with malformed := t.malformed + 1 }

/-- A field that the layout does not have counts only in the total. -/
def addInvalid (t : PipelineTally) (field : Nat) : PipelineTally :=
  { t with invalid := t.invalid + 1, invalidByField := t.invalidByField.modify field (· + 1) }

def addDropped (t : PipelineTally) : PipelineTally := { t with dropped := t.dropped + 1 }

def addEmitted (t : PipelineTally) : PipelineTally := { t with emitted := t.emitted + 1 }

def addUndelivered (t : PipelineTally) : PipelineTally :=
  { t with undelivered := t.undelivered + 1 }

def addBackpressure (t : PipelineTally) : PipelineTally :=
  { t with backpressure := t.backpressure + 1 }

def invalidCount (t : PipelineTally) (field : Nat) : Nat := t.invalidByField.getD field 0

/-- The fields that were missing, in order, by their names or else by their numbers. -/
def invalidByName (t : PipelineTally) (fields : FieldMap) : List (String × Nat) :=
  t.invalidByField.zipIdx.filterMap fun (count, index) =>
    if count = 0 then none else some ((fields.nameOf? index).getD s!"#{index}", count)

def counts (t : PipelineTally) (filterErrors : Nat) : PipelineCounts where
  batches := UInt64.ofNat t.batches
  bytes := UInt64.ofNat t.bytes
  records := UInt64.ofNat t.records
  malformed := UInt64.ofNat t.malformed
  invalid := UInt64.ofNat t.invalid
  filterErrors := UInt64.ofNat filterErrors
  dropped := UInt64.ofNat t.dropped
  emitted := UInt64.ofNat t.emitted
  backpressure := UInt64.ofNat t.backpressure

end PipelineTally

end RecordPipeline
