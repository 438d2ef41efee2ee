import RecordPipeline.Command.Execute
import RecordPipeline.FileSystem.Changes

/-!
The program. It takes up what the arguments make it touch, carries the command out on that, and
writes back what has changed. Reports and errors go to standard error.
-/

namespace RecordPipeline.Main

/-- Takes up one file or directory with what stands above it, as far as it is there. -/
def takeUpOne (files : FileSystem) (path : String) : IO FileSystem := do
  let found := (← IO.currentDir) / path
  if ← found.isDir then return files.place (path ++ "/") [] none
  if !(← found.pathExists) then return files
  let modified := (← found.metadata).modified.sec.toNat
  let content ← try IO.FS.readBinFile found catch _ => pure .empty
  return files.place path content.toList (some modified)

/-- Takes up a path. Of a directory, the entries are taken up too. -/
def takeUp (files : FileSystem) (path : String) : IO FileSystem := do
  if path = "" then return files
  let files ← takeUpOne files path
  let found := (← IO.currentDir) / path
  if !(← found.isDir) then return files
  let entries ← found.readDir
  entries.foldlM (fun files entry => takeUpOne files (Path.join path entry.fileName)) files

/-- Writes one change back. -/
def writeBack (name : String) (content : Option Bytes) : IO Unit := do
  let target := (← IO.currentDir) / name
  match content with
  | some bytes =>
    if let some dir := target.parent then IO.FS.createDirAll dir
    IO.FS.writeBinFile target ⟨bytes.toArray⟩
  | none =>
    if Path.namesDirectory name then IO.FS.createDirAll target else IO.FS.removeFile target

partial def readAll (input : IO.FS.Stream) (before : ByteArray) : IO ByteArray := do
  let chunk ← input.read 65536
  if chunk.isEmpty then return before else readAll input (before ++ chunk)

/-- The number of processors, or one where they are not told. -/
def processors : IO Nat := do
  let told ← try IO.FS.lines "/proc/cpuinfo" catch _ => pure #[]
  return max 1 (told.filter (·.startsWith "processor")).size

end RecordPipeline.Main

open RecordPipeline Main in
def main (args : List String) : IO UInt32 := do
  let files ← (Command.configPaths args).foldlM takeUp []
  let files ← (Command.reach args files).foldlM takeUp files
  let stdin ← if Command.readsInput args files then readAll (← IO.getStdin) .empty else pure .empty
  let outcome := Command.execute args (← processors) { files, stdin := stdin.toList }
  let output ← IO.getStdout
  output.write ⟨outcome.environment.printed.toArray⟩
  output.flush
  for (name, content) in files.changes outcome.environment.files do writeBack name content
  for line in outcome.report do IO.eprintln line
  IO.eprint outcome.errorText
  return UInt32.ofNat outcome.code
