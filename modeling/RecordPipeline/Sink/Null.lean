import RecordPipeline.Metric.Stats
import RecordPipeline.Output

/-!
Sinks that keep nothing of what they receive but its count, and one that keeps all of it.
-/

namespace RecordPipeline

/-- Counts outputs and their bytes. -/
structure NullSink where
  received : Nat := 0
  bytes : Nat := 0

namespace NullSink

/-- How many bytes an output holds. -/
def weigh (o : Output) : Nat := o.fields.foldl (fun n f => n + f.length) (o.raw.getD []).length

def accept (s : NullSink) (o : Output) : NullSink :=
  { received := s.received + 1, bytes := s.bytes + weigh o }

def stats (s : NullSink) : Stats where
  processed := UInt64.ofNat s.received
  bag := .of [("bytes", .counter (UInt64.ofNat s.bytes))]

end NullSink

/-- Counts outputs. -/
structure DiscardSink where
  name : String := "discard"
  received : Nat := 0

namespace DiscardSink

def accept (s : DiscardSink) (_ : Output) : DiscardSink := { s with received := s.received + 1 }

def stats (s : DiscardSink) : Stats where
  processed := UInt64.ofNat s.received

end DiscardSink

/-- Keeps every output, in the order in which they come. -/
structure CaptureSink where
  name : String := "capture"
  mode : OutputMode := .raw
  supportsSharding : Bool := true
  outputs : List Output := []

namespace CaptureSink

def accept (s : CaptureSink) (o : Output) : CaptureSink := { s with outputs := s.outputs ++ [o] }

def stats (s : CaptureSink) : Stats where
  processed := UInt64.ofNat s.outputs.length

end CaptureSink

end RecordPipeline
