/-!
The errors of commands: what could not be done, and the errors that were the cause, each the cause
of the one before.
-/

namespace RecordPipeline

structure CommandError where
  message : String
  causes : List String := []
deriving DecidableEq

namespace CommandError

/-- A cause, with its further lines under its first. -/
def indented (first rest : String) (cause : String) : String :=
  first ++ String.intercalate ("\n" ++ rest) (cause.splitOn "\n")

/-- The error with its causes, which are numbered when there are several. -/
def report (e : CommandError) : String :=
  let causes := match e.causes with
    | [] => ""
    | [cause] => "\n\nCaused by:\n" ++ indented "    " "    " cause
    | causes => "\n\nCaused by:" ++ String.join (causes.zipIdx.map fun (cause, n) =>
        let number := toString n
        let space := String.ofList (List.replicate (5 - number.length) ' ')
        "\n" ++ indented (space ++ number ++ ": ") "       " cause)
  "Error: " ++ e.message ++ causes ++ "\n"

end CommandError

end RecordPipeline
