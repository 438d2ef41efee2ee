import RecordPipeline.Config.Basic
import RecordPipeline.FileSystem.Basic
import RecordPipeline.Source.Reader

/-!
Sources that read: standard input, a file, or a stream that is given to them and can be read once.
-/

namespace RecordPipeline

inductive ReaderInput where
  | stdin
  | file (path : String)
  | stream (events : ByteStream)

structure ReaderSource where
  input : ReaderInput
  reader : Reader
  /-- Whether a stream that can be read once has been read. -/
  isConsumed : Bool := false

namespace ReaderSource

def ofConfig (c : SourceConfig) : ReaderSource where
  input := match c with
    | .stdin _ => .stdin
    | .file path _ => .file path
  reader := Reader.new c.reading.batchBytes c.reading.bufferPool

def name (s : ReaderSource) : String :=
  match s.input with
  | .stdin => "stdin"
  | .file _ => "file"
  | .stream _ => "reader"

def debug (s : ReaderSource) : String :=
  match s.input with
  | .stdin => "Stdin"
  | .file path => "File(" ++ Text.quoted path ++ ")"
  | .stream _ => "Reader"

/-- What every batch of a file carries. -/
def fileMetadata (path : String) (modified : Option Nat) : Metadata :=
  (Metadata.sourcePath, path) ::
    match modified with
    | some seconds => [(Metadata.sourceTime, toString seconds)]
    | none => []

/-- What there is to read, with the name of it and the metadata of its batches. A directory can be
opened but not read. -/
def opened (s : ReaderSource) (files : FileSystem) (stdin : Bytes) :
    Except ComponentError (ByteStream × String × Option Metadata) :=
  match s.input with
  | .stdin => .ok ([.chunk stdin], "stdin", none)
  | .file path =>
    match files.find path with
    | .error e => .error (.io ("opening " ++ path) e)
    | .ok .directory => .ok ([.failed .isDirectory], path, some (fileMetadata path none))
    | .ok (.file content modified) =>
      .ok ([.chunk content], path, some (fileMetadata path modified))
  | .stream events =>
    if s.isConsumed then .error (.failed "reader source already consumed")
    else .ok (events, "reader", none)

/-- One run of the source: the batches sent, the result, and the source afterwards. -/
def run (s : ReaderSource) (files : FileSystem) (stdin : Bytes) (isOpen : Bool := true)
    (stopAt : Option Nat := none) : List Batch × Except ComponentError Unit × ReaderSource :=
  match s.opened files stdin with
  | .error e => ([], .error e, s)
  | .ok (stream, context, metadata) =>
    let (r, _) := s.reader.run context metadata stream isOpen stopAt
    (r.sent, r.result?.getD (.ok ()), { s with reader := r.reader, isConsumed := true })

/-- Takes back batches that nobody holds any more. -/
def release (s : ReaderSource) (batches : List Batch) : ReaderSource :=
  { s with reader := batches.foldl Reader.release s.reader }

end ReaderSource

end RecordPipeline
