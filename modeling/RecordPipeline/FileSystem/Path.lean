/-!
Paths. A path names its parts between slashes; empty parts and single dots in it mean nothing.
-/

namespace RecordPipeline.Path

/-- The texts between the slashes. There is always one more of them than there are slashes. -/
def splitSlash : List Char → List (List Char)
  | [] => [[]]
  | c :: rest =>
    if c = '/' then [] :: splitSlash rest
    else match splitSlash rest with
      | [] => [[c]]
      | piece :: pieces => (c :: piece) :: pieces

def parts (path : String) : List String :=
  ((splitSlash path.toList).map String.ofList).filter fun part => part ≠ "" && part ≠ "."

def isAbsolute (path : String) : Bool := path.toList.head? == some '/'

/-- Whether the path ends as only the path of a directory may end. -/
def namesDirectory (path : String) : Bool :=
  match (splitSlash path.toList).getLast? with
  | some [] | some ['.'] => true
  | _ => false

/-- Whether the last part is a dot or two, so that it names a directory from within. -/
def endsInDots (path : String) : Bool :=
  match ((splitSlash path.toList).filter fun part => !part.isEmpty).getLast? with
  | some ['.'] | some ['.', '.'] => true
  | _ => false

/-- The path of a name in a directory. An absolute name stays as it is. -/
def join (dir name : String) : String :=
  if isAbsolute name || dir = "" then name
  else if dir.toList.getLast? == some '/' then dir ++ name
  else dir ++ "/" ++ name

/-- The last part of a path, unless it stands for another directory. -/
def fileName? (path : String) : Option String :=
  match (parts path).getLast? with
  | none | some ".." => none
  | some name => some name

/-- A name in two parts around its last dot. A name with no dot but at its start is one part. -/
def stem (name : String) : String × Option String :=
  let reversed := name.toList.reverse
  let ending := reversed.takeWhile (· ≠ '.')
  match reversed.drop (ending.length + 1) with
  | [] => (name, none)
  | front => (String.ofList front.reverse, some (String.ofList ending.reverse))

end RecordPipeline.Path
