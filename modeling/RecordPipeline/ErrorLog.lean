import RecordPipeline.Time

/-!
Error logs of limited rate. Within an interval after an error was logged, errors are only counted;
the next one that is logged tells how many were kept back.
-/

namespace RecordPipeline

structure LoggedError where
  message : String
  error : String
  /-- Errors kept back since the one logged before. -/
  suppressed : Nat
  /-- All errors so far, this one included. -/
  total : Nat
deriving DecidableEq

/-- Times are in nanoseconds. -/
structure ErrorLog where
  interval : Nat
  last : Option Nat := none
  pending : Nat := 0
  total : Nat := 0
  /-- What was logged, in order. -/
  logged : List LoggedError := []

namespace ErrorLog

/-- The interval of the logs that sinks and uploaders keep. -/
def standardInterval : Nat := 10 * Time.second

/-- Whether an error at this time is only counted. -/
def isQuiet (l : ErrorLog) (now : Nat) : Bool :=
  match l.last with
  | some before => now - before < l.interval
  | none => false

def report (l : ErrorLog) (now : Nat) (message error : String) : ErrorLog :=
  let total := l.total + 1
  if l.isQuiet now then { l with pending := l.pending + 1, total }
  else { l with
    last := some now
    pending := 0
    total
    logged := l.logged ++ [{ message, error, suppressed := l.pending, total }] }

end ErrorLog

end RecordPipeline
