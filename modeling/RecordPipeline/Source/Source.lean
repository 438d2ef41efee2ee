import RecordPipeline.Environment
import RecordPipeline.Source.Input

/-!
Sources of every kind, as a pipeline runs them: one run sends batches and has a result.
-/

namespace RecordPipeline

/-- A source that holds its batches. It may send them even when it was stopped before. -/
structure ListSource where
  batches : List Batch
  failure : Option ComponentError := none
  ignoresStop : Bool := false
  sent : Nat := 0

namespace ListSource

def name : String := "vec"

def run (s : ListSource) (isStopped : Bool) :
    List Batch × Except ComponentError Unit × ListSource :=
  let sent := if isStopped && !s.ignoresStop then [] else s.batches
  let result := match s.failure with
    | some e => .error e
    | none => .ok ()
  (sent, result, { s with batches := [], sent := s.sent + sent.length })

def stats (s : ListSource) : Stats where
  processed := UInt64.ofNat s.sent

end ListSource

inductive Source where
  /-- Sends nothing. -/
  | noop
  | list (s : ListSource)
  | reader (s : ReaderSource)

namespace Source

def name : Source → String
  | .noop => "noop"
  | .list _ => ListSource.name
  | .reader s => s.name

def stats : Source → Stats
  | .noop => {}
  | .list s => s.stats
  | .reader s => s.reader.stats

/-- One run in which all batches are received and given back. -/
def run (s : Source) (isStopped : Bool) (e : Environment) :
    List Batch × Except ComponentError Unit × Source :=
  match s with
  | .noop => ([], .ok (), .noop)
  | .list s =>
    let (sent, result, s) := s.run isStopped
    (sent, result, .list s)
  | .reader s =>
    let s := if isStopped then { s with reader := s.reader.stop } else s
    let (sent, result, s) := s.run e.files e.stdin
    (sent, result, .reader (s.release sent))

end Source

end RecordPipeline
