import RecordPipeline.FileSystem.Basic

/-!
What a pipeline finds around it: files, the bytes on its standard input, the place where it prints,
and the time.
-/

namespace RecordPipeline

structure Environment where
  files : FileSystem := []
  stdin : Bytes := []
  /-- All that was printed, in order. -/
  printed : Bytes := []
  /-- How printing fails, as long as it does. -/
  failure : Option WriteFailure := none
  /-- How finished files fail to be written, as long as they do. -/
  flush : Option WriteFailure := none
  /-- The time, in nanoseconds. -/
  now : Nat := 0

namespace Environment

/-- Prints bytes, or a first part of them if printing fails. -/
def print (e : Environment) (bytes : Bytes) : Except IoError Unit × Environment :=
  match e.failure with
  | none => (.ok (), { e with printed := e.printed ++ bytes })
  | some failure =>
    (.error failure.cause, { e with printed := e.printed ++ bytes.take failure.room })

theorem print_of_none {e : Environment} (works : e.failure = none) (bytes : Bytes) :
    e.print bytes = (.ok (), { e with printed := e.printed ++ bytes }) := by
  simp only [print, works]

theorem print_of_some {e : Environment} {failure : WriteFailure}
    (fails : e.failure = some failure) (bytes : Bytes) :
    e.print bytes =
      (.error failure.cause, { e with printed := e.printed ++ bytes.take failure.room }) := by
  simp only [print, fails]

end Environment

end RecordPipeline
