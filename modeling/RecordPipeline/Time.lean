/-!
Times. All times and lengths of time are whole numbers of nanoseconds.
-/

namespace RecordPipeline.Time

def second : Nat := 1000000000

end RecordPipeline.Time
