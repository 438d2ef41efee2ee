import RecordPipeline.Bytes
import RecordPipeline.FileSystem.Error
import RecordPipeline.FileSystem.Path
import RecordPipeline.Table

/-!
File systems: files and directories by place. Every operation takes paths as they are written and
either changes the whole system at once or fails and changes nothing. Only a copy can fail midway.
-/

namespace RecordPipeline

/-- The names on the way from the working directory, or from the root, which is named by a slash. -/
abbrev Place := List String

/-- A file keeps the time of its last change in seconds, where that is known. -/
inductive FileNode where
  | file (content : Bytes) (modified : Option Nat)
  | directory
deriving DecidableEq

abbrev FileSystem := Table Place FileNode

/-- How the system refuses a copy, for reasons that the files do not show. -/
inductive CopyRefusal where
  /-- Before the new file is made. -/
  | atOnce (cause : IoError)
  /-- After so many bytes at most were written to it. -/
  | midway (written : Nat) (cause : IoError)
deriving DecidableEq

namespace FileSystem

def isBase (p : Place) : Bool := p.isEmpty || p == ["/"]

/-- What is at a place. The working directory and the root are always there. -/
def node? (fs : FileSystem) (p : Place) : Option FileNode :=
  if isBase p then some .directory else fs.get? p

def parent (p : Place) : Place := if isBase p then p else p.dropLast

/-- How many bytes a name may have. -/
def nameLimit : Nat := 255

/-- Follows names through directories. -/
def walk (fs : FileSystem) : Place → List String → Except IoError Place
  | here, [] => .ok here
  | here, name :: rest =>
    if name = ".." then walk fs (parent here) rest
    else if nameLimit < name.utf8ByteSize then .error .nameTooLong
    else match fs.node? (here ++ [name]) with
      | none => .error .notFound
      | some (.file ..) => .error .notDirectory
      | some .directory => walk fs (here ++ [name]) rest

/-- The place of the last of some names, which need not be there itself. -/
def locateParts (fs : FileSystem) (start : Place) (names : List String) : Except IoError Place := do
  let here ← walk fs start names.dropLast
  match names.getLast? with
  | none => return here
  | some name =>
    if name = ".." then return parent here
    else if nameLimit < name.utf8ByteSize then throw .nameTooLong
    else return here ++ [name]

def startOf (path : String) : Place := if Path.isAbsolute path then ["/"] else []

/-- The place of a path. Only the directories on the way must be there. -/
def locate (fs : FileSystem) (path : String) : Except IoError Place :=
  if path = "" then .error .notFound else fs.locateParts (startOf path) (Path.parts path)

def find (fs : FileSystem) (path : String) : Except IoError FileNode := do
  match fs.node? (← fs.locate path) with
  | none => throw .notFound
  | some (.file content modified) =>
    if Path.namesDirectory path then throw .notDirectory else return .file content modified
  | some .directory => return .directory

def has (fs : FileSystem) (path : String) : Bool := (fs.find path).isOk

def read (fs : FileSystem) (path : String) : Except IoError Bytes := do
  match ← fs.find path with
  | .file content _ => return content
  | .directory => throw .isDirectory

/-- Makes a new empty file. -/
def create (fs : FileSystem) (path : String) : Except IoError FileSystem := do
  let place ← fs.locate path
  if Path.namesDirectory path then throw .isDirectory
  match fs.node? place with
  | some _ => throw .alreadyExists
  | none => return fs.put place (.file [] none)

/-- Writes at the end of a file. -/
def append (fs : FileSystem) (path : String) (bytes : Bytes) : Except IoError FileSystem := do
  let place ← fs.locate path
  match fs.node? place with
  | none => throw .notFound
  | some .directory => throw .isDirectory
  | some (.file content _) => return fs.put place (.file (content ++ bytes) none)

/-- Leaves a first part of a file. -/
def cut (fs : FileSystem) (path : String) (size : Nat) : FileSystem :=
  match fs.locate path with
  | .error _ => fs
  | .ok place =>
    match fs.node? place with
    | some (.file content _) => fs.put place (.file (content.take size) none)
    | _ => fs

/-- Makes a file that holds the bytes, or gives them to a file in place of what it holds. -/
def write (fs : FileSystem) (path : String) (bytes : Bytes) : Except IoError FileSystem := do
  let place ← fs.locate path
  if Path.namesDirectory path then throw .isDirectory
  match fs.node? place with
  | some .directory => throw .isDirectory
  | _ => return fs.put place (.file bytes none)

def remove (fs : FileSystem) (path : String) : Except IoError FileSystem := do
  let place ← fs.locate path
  match fs.node? place with
  | none => throw .notFound
  | some .directory => throw .isDirectory
  | some (.file ..) => return fs.erase place

/-- Makes the directory of some names; the directory above it must be there. -/
def makeDirectoryAt (fs : FileSystem) (start : Place) (names : List String) :
    Except IoError FileSystem := do
  let place ← fs.locateParts start names
  match fs.node? place with
  | some _ => throw .alreadyExists
  | none => return fs.put place .directory

def isDirectoryAt (fs : FileSystem) (start : Place) (names : List String) : Bool :=
  match fs.locateParts start names with
  | .ok place => fs.node? place == some .directory
  | .error _ => false

/-- Makes a directory with those above it that are missing. The names are given from the last. -/
def makeDirectoriesAt (fs : FileSystem) (start : Place) : List String → Except IoError FileSystem
  | [] => .ok fs
  | name :: above =>
    let names := (name :: above).reverse
    let orThere (fs : FileSystem) (e : IoError) : Except IoError FileSystem :=
      if fs.isDirectoryAt start names then .ok fs else .error e
    match fs.makeDirectoryAt start names with
    | .ok fs => .ok fs
    | .error .notFound => do
      let fs ← makeDirectoriesAt fs start above
      match fs.makeDirectoryAt start names with
      | .ok fs => return fs
      | .error e => orThere fs e
    | .error e => orThere fs e

def makeDirectories (fs : FileSystem) (path : String) : Except IoError FileSystem :=
  fs.makeDirectoriesAt (startOf path) (Path.parts path).reverse

/-- Whether one place lies inside of another. -/
def isInside (inner outer : Place) : Bool := outer.isPrefixOf inner && outer.length < inner.length

/-- Moves all that is at a place and inside of it. -/
def moveTree (fs : FileSystem) (source target : Place) : FileSystem :=
  fs.map fun entry =>
    if source.isPrefixOf entry.1 then (target ++ entry.1.drop source.length, entry.2) else entry

/-- Gives a file or directory another path. A file takes the place of a file that is there. -/
def rename (fs : FileSystem) (source target : String) : Except IoError FileSystem := do
  let old ← fs.locate source
  let new ← fs.locate target
  if Path.endsInDots source || Path.endsInDots target then throw .busy
  match fs.node? old with
  | none => throw .notFound
  | some (.file content modified) =>
    if Path.namesDirectory source || Path.namesDirectory target then throw .notDirectory
    match fs.node? new with
    | some .directory => throw .isDirectory
    | _ => return if old = new then fs else (fs.erase old).put new (.file content modified)
  | some .directory =>
    if isBase old then throw .busy
    if old = new then return fs
    if isInside new old then throw .badArgument
    match fs.node? new with
    | some (.file ..) => throw .notDirectory
    | some .directory =>
      if isBase new || fs.any (fun entry => isInside entry.1 new) then throw .notEmpty
      return moveTree (fs.erase new) old new
    | none => return fs.moveTree old new

/-- Copies a file to another path, or a first part of it if the copy is refused midway. -/
def copy (fs : FileSystem) (source target : String) (refusal : Option CopyRefusal) :
    Except IoError Unit × FileSystem :=
  match fs.find source with
  | .error e => (.error e, fs)
  | .ok .directory => (.error .notRegularFile, fs)
  | .ok (.file content _) =>
    let written (part : Bytes) (result : Except IoError Unit) : Except IoError Unit × FileSystem :=
      match fs.write target part with
      | .ok fs => (result, fs)
      | .error e => (.error e, fs)
    match refusal with
    | none => written content (.ok ())
    | some (.atOnce cause) => (.error cause, fs)
    | some (.midway size cause) => written (content.take size) (.error cause)

end FileSystem

end RecordPipeline
