import RecordPipeline.Filter.Basic

/-!
The filter that replaces a field by a fixed value.
-/

namespace RecordPipeline

structure SetField where
  field : Nat
  value : Bytes
  onlyIfEmpty : Bool := false

namespace SetField

def applies (f : SetField) (r : Record) : Bool := !f.onlyIfEmpty || (r.get f.field).isEmpty

def process (f : SetField) (r : Record) : Activity :=
  if f.applies r then
    match r.set f.field f.value with
    | .ok r => .pass r [("written", 1)]
    | .error e => .fail r (.record e)
  else .pass r []

end SetField

end RecordPipeline
