import RecordPipeline.Metric.Stats

/-!
What a source counts.
-/

namespace RecordPipeline

structure SourceCounts where
  batches : Nat := 0
  bytes : Nat := 0
  reads : Nat := 0
  errors : Nat := 0
deriving DecidableEq

namespace SourceCounts

def addBatch (c : SourceCounts) (size : Nat) : SourceCounts :=
  { c with batches := c.batches + 1, bytes := c.bytes + size }

def stats (c : SourceCounts) : Stats where
  processed := UInt64.ofNat c.batches
  errors := UInt64.ofNat c.errors
  bag := .of [("bytes", .counter (UInt64.ofNat c.bytes)),
    ("reads", .counter (UInt64.ofNat c.reads))]

end SourceCounts

end RecordPipeline
