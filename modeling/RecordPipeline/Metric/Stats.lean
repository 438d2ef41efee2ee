import RecordPipeline.Metric.Bag

/-!
What a component has done: the records it processed, kept back and failed on, and its own samples.
-/

namespace RecordPipeline

structure Stats where
  processed : UInt64 := 0
  filtered : UInt64 := 0
  errors : UInt64 := 0
  bag : Bag := {}

namespace Stats

def merge (a b : Stats) : Except MetricMisuse Stats := do
  return {
    processed := Sample.addSaturating a.processed b.processed
    filtered := Sample.addSaturating a.filtered b.filtered
    errors := Sample.addSaturating a.errors b.errors
    bag := ← a.bag.merge b.bag }

def merged (all : List Stats) : Except MetricMisuse Stats := all.foldlM merge {}

end Stats

end RecordPipeline
