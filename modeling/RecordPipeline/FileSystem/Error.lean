/-!
The ways in which reading and writing can fail, with the words of the system.
-/

namespace RecordPipeline

inductive IoError where
  | notFound
  | alreadyExists
  | notDirectory
  | isDirectory
  | notEmpty
  | noSpace
  | nameTooLong
  | busy
  | badArgument
  | notRegularFile
  | notText
  | interrupted
  | other (text : String)
deriving DecidableEq

def IoError.message : IoError → String
  | .notFound => "No such file or directory (os error 2)"
  | .alreadyExists => "File exists (os error 17)"
  | .notDirectory => "Not a directory (os error 20)"
  | .isDirectory => "Is a directory (os error 21)"
  | .notEmpty => "Directory not empty (os error 39)"
  | .noSpace => "No space left on device (os error 28)"
  | .nameTooLong => "File name too long (os error 36)"
  | .busy => "Device or resource busy (os error 16)"
  | .badArgument => "Invalid argument (os error 22)"
  | .notRegularFile =>
    "the source path is neither a regular file nor a symlink to a regular file"
  | .notText => "stream did not contain valid UTF-8"
  | .interrupted => "interrupted"
  | .other text => text

/-- How writing fails: after a first part of the bytes, which may be none or all of them. -/
structure WriteFailure where
  /-- So many bytes are written at most. -/
  room : Nat := 0
  cause : IoError := .noSpace
deriving DecidableEq

/-- What an operation gives, unless the system refuses it for a reason of its own. -/
def unlessRefused {α : Type} (refusal : Option IoError) (result : Except IoError α) :
    Except IoError α :=
  match refusal with
  | some e => .error e
  | none => result

theorem unlessRefused_eq_ok_iff {α : Type} {refusal : Option IoError} {result : Except IoError α}
    {a : α} : unlessRefused refusal result = .ok a ↔ refusal = none ∧ result = .ok a := by
  cases refusal <;> simp [unlessRefused]

end RecordPipeline
