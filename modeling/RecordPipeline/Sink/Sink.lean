import RecordPipeline.Sink.File
import RecordPipeline.Sink.Null
import RecordPipeline.Sink.Stdout

/-!
Sinks of every kind, as a pipeline runs them: they start, take outputs one by one, and close.
-/

namespace RecordPipeline

/-- What a step of a sink of files meets in its environment besides the files. -/
def FileTurn.of (e : Environment) : FileTurn := { now := e.now, flush := e.flush }

inductive Sink where
  | null (s : NullSink)
  | discard (s : DiscardSink)
  | capture (s : CaptureSink)
  | stdout (s : StdoutSink)
  | file (s : FileSink)

namespace Sink

/-- The instance of a sink that a configuration describes. -/
def ofConfig (c : SinkConfig) (number : Nat) : Sink :=
  match c with
  | .null => .null {}
  | .stdout c => .stdout { format := ⟨c.output, Bytes.ofString c.delimiter⟩ }
  | .file c => .file { config := c, instanceNumber := number }

/-- All instances of a sink, at least one. -/
def allOfConfig (c : SinkConfig) (count : Nat) : List Sink :=
  (List.range (max count 1)).map (ofConfig c)

def name : Sink → String
  | .null _ => "null"
  | .discard s => s.name
  | .capture s => s.name
  | .stdout _ => "stdout"
  | .file _ => "file"

def mode : Sink → OutputMode
  | .null _ | .discard _ => .raw
  | .capture s => s.mode
  | .stdout s => s.format.mode
  | .file s => s.format.mode

def supportsSharding : Sink → Bool
  | .stdout _ => false
  | .capture s => s.supportsSharding
  | _ => true

def stats : Sink → Stats × Sink
  | .null s => (s.stats, .null s)
  | .discard s => (s.stats, .discard s)
  | .capture s => (s.stats, .capture s)
  | .stdout s => (s.stats, .stdout s)
  | .file s => let (stats, s) := s.stats; (stats, .file s)

/-- A sink at work on the files around it. -/
def fileWork (s : FileSink) (e : Environment) : Sink × Environment × List UploadRequest :=
  let (s, files, requests) := s.work e.files (.of e)
  (.file s, { e with files }, requests)

def start (s : Sink) (e : Environment) : Sink × Environment :=
  match s with
  | .file s => let (s, e, _) := fileWork s.start e; (s, e)
  | s => (s, e)

/-- Takes an output, with the requests that come of it. A sink may use that no more outputs wait. -/
def accept (s : Sink) (o : Output) (isLast : Bool) (e : Environment) :
    Sink × Environment × List UploadRequest :=
  match s with
  | .null s => (.null (s.accept o), e, [])
  | .discard s => (.discard (s.accept o), e, [])
  | .capture s => (.capture (s.accept o), e, [])
  | .stdout s => let (s, e) := s.accept o isLast e; (.stdout s, e, [])
  | .file s => fileWork (s.accept o) e

def close (s : Sink) (e : Environment) : Sink × Environment × List UploadRequest :=
  match s with
  | .stdout s => let (s, e) := s.flush e; (.stdout s, e, [])
  | .file s => fileWork s.close e
  | s => (s, e, [])

/-- Takes outputs that are all there from the start. -/
def acceptAll : Sink → List Output → Environment → Sink × Environment × List UploadRequest
  | s, [], e => (s, e, [])
  | s, o :: rest, e =>
    let (s, e, requests) := s.accept o rest.isEmpty e
    let (s, e, more) := acceptAll s rest e
    (s, e, requests ++ more)

/-- One run over outputs that are all there from the start. -/
def run (s : Sink) (outputs : List Output) (e : Environment) :
    Sink × Environment × List UploadRequest :=
  let (s, e) := s.start e
  let (s, e, requests) := s.acceptAll outputs e
  let (s, e, last) := s.close e
  (s, e, requests ++ last)

/-- The errors that the sink has logged. -/
def logged : Sink → List LoggedError
  | .stdout s => s.log.logged
  | .file s => s.log.logged
  | _ => []

end Sink

end RecordPipeline
