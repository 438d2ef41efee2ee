import RecordPipeline.Config.Basic
import RecordPipeline.ErrorLog
import RecordPipeline.FileSystem.Basic
import RecordPipeline.Sink.LineFormat
import RecordPipeline.Text
import RecordPipeline.Upload.Request

/-!
The sink that writes numbered files. A file is written under a name of its own and gets its final
name when it is finished, after a number of records or at the end. Numbers whose names are taken are
passed over. The sink takes one step at a time, and each step does at most one thing to the files,
so that several sinks can work in one directory.
-/

namespace RecordPipeline

structure OpenFile where
  partPath : String
  path : String
  records : Nat := 0
deriving DecidableEq

/-- What the sink does next. -/
inductive FileTask where
  | makeDirectory
  /-- Waits for a record or the end. -/
  | ready
  /-- Looks whether the final name of the next number is free. -/
  | probe (o : Output)
  /-- Makes the file that is to become the given path. -/
  | create (path : String) (o : Output)
  | write (file : OpenFile) (o : Output)
  | finish (file : OpenFile)
  /-- Tells of a finished file. -/
  | announce (request : UploadRequest)
deriving DecidableEq

/-- What a step meets besides the files: the time, and how a finished file fails to be written. -/
structure FileTurn where
  now : Nat := 0
  flush : Option WriteFailure := none

structure FileSink where
  config : FileSinkConfig
  instanceNumber : Nat := 0
  task : FileTask := .makeDirectory
  /-- The next number to look at. -/
  sequence : Nat := 0
  current : Option OpenFile := none
  written : Nat := 0
  bytes : Nat := 0
  finished : Nat := 0
  dropped : Nat := 0
  errors : Nat := 0
  bag : Bag := {}
  log : ErrorLog := { interval := ErrorLog.standardInterval }

namespace FileSink

def format (s : FileSink) : LineFormat := ⟨s.config.output, Bytes.ofString s.config.delimiter⟩

def fileName (s : FileSink) (number : Nat) : String :=
  s!"{s.config.name}-{s.instanceNumber}-" ++ Text.padded 6 number ++ ".log"

/-- The final path of the file with a number. -/
def pathOf (s : FileSink) (number : Nat) : String := Path.join s.config.dir (s.fileName number)

/-- The path of a file while it is written. -/
def partPathOf (path : String) : String := path ++ ".part"

def fail (s : FileSink) (now : Nat) (message action path : String) (e : IoError) : FileSink :=
  { s with
    errors := s.errors + 1
    log := s.log.report now message (s!"failed to {action} {path}: " ++ e.message) }

/-- Begins a run: the directory is made, and numbers are looked at from zero. -/
def start (s : FileSink) : FileSink := { s with task := .makeDirectory, sequence := 0 }

/-- Takes a record. -/
def accept (s : FileSink) (o : Output) : FileSink :=
  match s.current with
  | some file => { s with task := .write file o }
  | none => { s with task := .probe o }

/-- At the end, the file that is open is finished. -/
def close (s : FileSink) : FileSink :=
  match s.current with
  | some file => { s with task := .finish file, current := none }
  | none => s

/-- After a record, finishes the file if it holds as many as it may. -/
def afterRecord (s : FileSink) (file : OpenFile) : FileSink :=
  if 0 < s.config.maxRecords ∧ s.config.maxRecords ≤ file.records then
    { s with task := .finish file, current := none }
  else { s with task := .ready, current := some file }

/-- One step, with the request that it makes. -/
def step (s : FileSink) (fs : FileSystem) (turn : FileTurn := {}) :
    FileSink × FileSystem × Option UploadRequest :=
  match s.task with
  | .makeDirectory =>
    let s := { s with task := .ready }
    match fs.makeDirectories s.config.dir with
    | .ok fs => (s, fs, none)
    | .error e =>
      (s.fail turn.now "file sink cannot create directory" "create directory" s.config.dir e, fs,
        none)
  | .ready => (s, fs, none)
  | .probe o =>
    let path := s.pathOf s.sequence
    let s := { s with sequence := s.sequence + 1 }
    if fs.has path then (s, fs, none) else ({ s with task := .create path o }, fs, none)
  | .create path o =>
    let partPath := partPathOf path
    match fs.create partPath with
    | .ok fs => ({ s with task := .write { partPath, path } o }, fs, none)
    | .error .alreadyExists => ({ s with task := .probe o }, fs, none)
    | .error e =>
      let s := s.fail turn.now "file sink open failed" "open" partPath e
      ({ s with task := .ready, dropped := s.dropped + 1 }, fs, none)
  | .write file o =>
    let line := s.format.line o
    match fs.append file.partPath line with
    | .ok fs =>
      let s := { s with written := s.written + 1, bytes := s.bytes + line.length }
      (s.afterRecord { file with records := file.records + 1 }, fs, none)
    | .error e =>
      let s := s.fail turn.now "file sink write failed" "write" file.partPath e
      (s.afterRecord file, fs, none)
  | .finish file =>
    let s := { s with task := .ready }
    match turn.flush with
    | some failure =>
      (s.fail turn.now "file sink flush failed" "finish" file.partPath failure.cause,
        fs.cut file.partPath failure.room, none)
    | none =>
      if file.records = 0 then (s, (fs.remove file.partPath).toOption.getD fs, none)
      else match fs.rename file.partPath file.path with
        | .ok fs =>
          let request : UploadRequest := { path := file.path, records := file.records }
          let bag := s.bag.count "files" 1
          let observed :=
            (bag.insert "file_records" (.histogram [Float.ofNat file.records])).toOption
          let s := { s with finished := s.finished + 1, bag := observed.getD bag }
          ({ s with task := .announce request }, fs, none)
        | .error e => (s.fail turn.now "file sink rename failed" "finish" file.partPath e, fs, none)
  | .announce request => ({ s with task := .ready }, fs, some request)

/-- Steps until the sink waits again, at most so many, with the requests that they make. -/
def settle (turn : FileTurn) :
    Nat → FileSink → FileSystem → FileSink × FileSystem × List UploadRequest
  | 0, s, fs => (s, fs, [])
  | n + 1, s, fs =>
    if s.task = .ready then (s, fs, [])
    else
      let (s, fs, request) := s.step fs turn
      let (s, fs, more) := settle turn n s fs
      (s, fs, request.toList ++ more)

/-- Settles. Each name that is taken costs two steps at most, and the others are few. -/
def work (s : FileSink) (fs : FileSystem) (turn : FileTurn := {}) :
    FileSink × FileSystem × List UploadRequest :=
  settle turn (2 * fs.length + 8) s fs

/-- The stats. Observations are told once. -/
def stats (s : FileSink) : Stats × FileSink :=
  let (all, kept) := s.bag.snapshot
  ({ processed := UInt64.ofNat s.written
     errors := UInt64.ofNat s.errors
     bag := (all.put "bytes" (.counter (UInt64.ofNat s.bytes))).put "dropped"
       (.counter (UInt64.ofNat s.dropped)) },
    { s with bag := kept })

end FileSink

end RecordPipeline
