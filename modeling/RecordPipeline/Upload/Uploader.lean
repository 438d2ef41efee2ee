import RecordPipeline.ComponentError
import RecordPipeline.ErrorLog
import RecordPipeline.FileSystem.Basic
import RecordPipeline.Config.Basic
import RecordPipeline.Upload.Request

/-!
Uploaders: what becomes of finished files. One moves them into a directory, under a name that is
free there; the other only counts them.
-/

namespace RecordPipeline

/-- What the move of a file meets besides the files: the time, and what the system refuses for
reasons that the files do not show, such as want of space or of rights to them. -/
structure MoveTurn where
  now : Nat := 0
  rename : Option IoError := none
  copy : Option CopyRefusal := none
  remove : Option IoError := none
deriving DecidableEq

structure MoveUploader where
  destination : String
  isStopped : Bool := false
  moved : Nat := 0
  records : Nat := 0
  errors : Nat := 0
  log : ErrorLog := { interval := ErrorLog.standardInterval }

namespace MoveUploader

/-- A name with a number before its extension. -/
def numbered (name : String) (n : Nat) : String :=
  match Path.stem name with
  | (front, some ending) => s!"{front}.{n}.{ending}"
  | (front, none) => s!"{front}.{n}"

/-- The first name from a number on that is free, looking at most so many times. -/
def freeNumbered? (fs : FileSystem) (dir name : String) : Nat → Nat → Option String
  | 0, _ => none
  | tries + 1, n =>
    let path := Path.join dir (numbered name n)
    if fs.has path then freeNumbered? fs dir name tries (n + 1) else some path

/-- A free path for a name in a directory: the name itself or the name with a number. There are
fewer taken names than there are files. -/
def freePath (fs : FileSystem) (dir name : String) : String :=
  let path := Path.join dir name
  if fs.has path then (freeNumbered? fs dir name (fs.length + 1) 1).getD path else path

/-- Makes the destination. -/
def start (u : MoveUploader) (fs : FileSystem) : Except ComponentError FileSystem :=
  (fs.makeDirectories u.destination).mapError fun e => .io ("creating " ++ u.destination) e

/-- Gives a file another path. Where it cannot be renamed it is copied, and then removed. -/
def moveFile (fs : FileSystem) (source target : String) (turn : MoveTurn) :
    Except IoError Unit × FileSystem :=
  match unlessRefused turn.rename (fs.rename source target) with
  | .ok fs => (.ok (), fs)
  | .error _ =>
    match fs.copy source target turn.copy with
    | (.error e, fs) => (.error e, fs)
    | (.ok (), fs) =>
      match unlessRefused turn.remove (fs.remove source) with
      | .ok fs => (.ok (), fs)
      | .error e => (.error e, fs)

def accept (u : MoveUploader) (fs : FileSystem) (request : UploadRequest)
    (turn : MoveTurn := {}) : MoveUploader × FileSystem :=
  match Path.fileName? request.path with
  | none => ({ u with errors := u.errors + 1 }, fs)
  | some name =>
    match moveFile fs request.path (freePath fs u.destination name) turn with
    | (.ok (), fs) =>
      ({ u with moved := u.moved + 1, records := u.records + request.records }, fs)
    | (.error e, fs) =>
      let log := u.log.report turn.now "move upload failed" e.message
      ({ u with errors := u.errors + 1, log }, fs)

/-- One run over all requests that wait, each with what it meets at its turn. A stopped uploader
leaves them where they are. -/
def run (u : MoveUploader) (fs : FileSystem) (requests : List (UploadRequest × MoveTurn)) :
    Except ComponentError Unit × MoveUploader × FileSystem :=
  match u.start fs with
  | .error e => (.error e, u, fs)
  | .ok fs =>
    (.ok (), if u.isStopped then (u, fs)
      else requests.foldl (fun (u, fs) (request, turn) => u.accept fs request turn) (u, fs))

def stats (u : MoveUploader) : Stats where
  processed := UInt64.ofNat u.moved
  errors := UInt64.ofNat u.errors
  bag := .of [("records", .counter (UInt64.ofNat u.records))]

end MoveUploader

inductive Uploader where
  /-- Leaves every file where it is. -/
  | noop (received : Nat)
  | move (u : MoveUploader)

namespace Uploader

def ofConfig : Option UploaderConfig → Uploader
  | none => .noop 0
  | some (.move destination) => .move { destination }

def name : Uploader → String
  | .noop _ => "noop"
  | .move _ => "move"

def stats : Uploader → Stats
  | .noop received => { processed := UInt64.ofNat received }
  | .move u => u.stats

/-- Only an uploader that moves files heeds a stop. -/
def stop : Uploader → Uploader
  | .noop received => .noop received
  | .move u => .move { u with isStopped := true }

def isStopped : Uploader → Bool
  | .noop _ => false
  | .move u => u.isStopped

def start (u : Uploader) (fs : FileSystem) : Except ComponentError FileSystem :=
  match u with
  | .noop _ => .ok fs
  | .move u => u.start fs

def accept (u : Uploader) (fs : FileSystem) (request : UploadRequest) (turn : MoveTurn := {}) :
    Uploader × FileSystem :=
  match u with
  | .noop received => (.noop (received + 1), fs)
  | .move u => let (u, fs) := u.accept fs request turn; (.move u, fs)

end Uploader

end RecordPipeline
