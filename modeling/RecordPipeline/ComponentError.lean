import RecordPipeline.FileSystem.Error

/-!
The ways in which a part of a running pipeline can fail.
-/

namespace RecordPipeline

inductive ComponentError where
  | io (context : String) (cause : IoError)
  | failed (reason : String)
  | panicked (component reason : String)
deriving DecidableEq

namespace ComponentError

def message : ComponentError → String
  | .io context cause => context ++ ": " ++ cause.message
  | .failed reason => reason
  | .panicked component reason => s!"{component} worker panicked: {reason}"

/-- The message, followed by that of the error behind it. -/
def causes (e : ComponentError) : List String :=
  match e with
  | .io _ cause => [e.message, cause.message]
  | _ => [e.message]

end ComponentError

end RecordPipeline
