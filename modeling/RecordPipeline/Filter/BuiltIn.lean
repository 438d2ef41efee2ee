import RecordPipeline.Filter.Drop
import RecordPipeline.Filter.SetField
import RecordPipeline.Filter.Split

/-!
The filters that every pipeline knows.
-/

namespace RecordPipeline

inductive BuiltIn where
  /-- Hands every record on as it is. -/
  | noop
  | setField (f : SetField)
  | drop (f : DropRule)
  | split (f : Split)

namespace BuiltIn

def name : BuiltIn → String
  | .noop => "noop"
  | .setField _ => "set_field"
  | .drop _ => "drop"
  | .split _ => "split"

def process : BuiltIn → Record → Activity
  | .noop => fun r => .pass r []
  | .setField f => f.process
  | .drop f => f.process
  | .split f => f.process

/-- The counters that are reported even when nothing has been counted. -/
def initial : BuiltIn → Bag
  | .setField _ => .of [("written", .counter 0)]
  | .drop _ => .of [("matched", .counter 0)]
  | .noop | .split _ => {}

def filter (f : BuiltIn) : Filter where
  name := f.name
  initial := f.initial
  process := fun _ => f.process

/-- A built-in filter has no state of its own. -/
theorem process_filter (f : BuiltIn) (state : Unit) (r : Record) :
    f.filter.process state r = f.process r := rfl

end BuiltIn

end RecordPipeline
