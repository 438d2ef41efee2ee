/-!
What becomes of a record when a filter fails on it.
-/

namespace RecordPipeline

inductive OnError where
  | drop
  | forward
deriving DecidableEq, Inhabited

namespace OnError

def name : OnError → String
  | .drop => "drop"
  | .forward => "forward"

def debug : OnError → String
  | .drop => "Drop"
  | .forward => "Forward"

end OnError

end RecordPipeline
