import RecordPipeline.Environment
import RecordPipeline.ErrorLog
import RecordPipeline.Metric.Stats
import RecordPipeline.Sink.LineFormat

/-!
The sink that prints lines. Lines wait in a buffer until it is large or no more of them are there.
-/

namespace RecordPipeline

structure StdoutSink where
  format : LineFormat := {}
  buffer : Bytes := []
  written : Nat := 0
  bytes : Nat := 0
  flushes : Nat := 0
  errors : Nat := 0
  log : ErrorLog := { interval := ErrorLog.standardInterval }

namespace StdoutSink

/-- The length at which the buffer is printed although more lines wait. -/
def flushLength : Nat := 64 * 1024

/-- Prints the buffer. What cannot be printed is lost. -/
def flush (s : StdoutSink) (e : Environment) : StdoutSink × Environment :=
  if s.buffer = [] then (s, e)
  else match e.print s.buffer with
    | (.ok (), e) =>
      ({ s with buffer := [], flushes := s.flushes + 1, bytes := s.bytes + s.buffer.length }, e)
    | (.error cause, e) =>
      let log := s.log.report e.now "stdout write failed" cause.message
      ({ s with buffer := [], errors := s.errors + 1, log }, e)

def accept (s : StdoutSink) (o : Output) (isLast : Bool) (e : Environment) :
    StdoutSink × Environment :=
  let s := { s with buffer := s.buffer ++ s.format.line o, written := s.written + 1 }
  if flushLength ≤ s.buffer.length || isLast then s.flush e else (s, e)

def stats (s : StdoutSink) : Stats where
  processed := UInt64.ofNat s.written
  errors := UInt64.ofNat s.errors
  bag := .of [("bytes", .counter (UInt64.ofNat s.bytes)),
    ("flushes", .counter (UInt64.ofNat s.flushes))]

end StdoutSink

end RecordPipeline
