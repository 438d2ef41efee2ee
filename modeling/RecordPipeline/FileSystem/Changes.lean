import RecordPipeline.FileSystem.Basic

/-!
File systems as lists of names, and what has changed from one to another. Directories are listed
only when they are empty, under names that end in a slash.
-/

namespace RecordPipeline.FileSystem

/-- Puts a file under a name, or a directory if the name ends in a slash. Directories on the way are
made. -/
def place (fs : FileSystem) (name : String) (content : Bytes) (modified : Option Nat) :
    FileSystem :=
  let start := startOf name
  let names := Path.parts name
  let made (names : List String) : FileSystem :=
    (fs.makeDirectoriesAt start names.reverse).toOption.getD fs
  if Path.namesDirectory name then made names
  else Table.put (start ++ names) (.file content modified) (made names.dropLast)

/-- The file system of the named files and directories, all last changed at one time. -/
def ofNamed (entries : List (String × Bytes)) (modified : Option Nat) : FileSystem :=
  entries.foldl (fun fs (name, content) => place fs name content modified) []

def isEmptyDirectory (fs : FileSystem) (p : Place) : Bool :=
  fs.get? p == some .directory && !fs.any fun entry => isInside entry.1 p

def nameOf (p : Place) : String := String.intercalate "/" p

/-- The files with their contents, and the empty directories. -/
def listing (fs : FileSystem) : Table String (Option Bytes) :=
  fs.filterMap fun (p, node) => match node with
    | .file content _ => some (nameOf p, some content)
    | .directory => if fs.isEmptyDirectory p then some (nameOf p ++ "/", none) else none

/-- The entries that are new or differ, and those that are gone, without content. A directory that
is not empty any more is not gone. -/
def changes (old new : FileSystem) : Table String (Option Bytes) :=
  let before := old.listing
  let after := new.listing
  let directories := new.map fun entry => nameOf entry.1 ++ "/"
  (after.filter fun entry => before.get? entry.1 ≠ some entry.2)
    ++ (before.filter fun entry => !after.has entry.1 && !directories.contains entry.1).map
      fun entry => (entry.1, none)

end RecordPipeline.FileSystem
