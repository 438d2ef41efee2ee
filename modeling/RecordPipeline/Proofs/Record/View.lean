import RecordPipeline.Record.Basic

/-!
What a record stands for. The view of a record is the fields of the line that it holds and a finite
map of the values put over them; it knows nothing of offsets and slots. The calls that change a
record change its view by rules of their own.
-/

namespace RecordPipeline

structure RecordView where
  /-- The fields of the line that was parsed last; none when there is no such line. -/
  fields : List Bytes := []
  metadata : Option Metadata := none
  /-- The replaced fields and their values. -/
  replaced : Table Nat Bytes := []

/-- A call that may change a record. -/
inductive RecordCall where
  | parse (line : Bytes) (metadata : Option Metadata)
  | set (index : Nat) (value : Bytes)
  | clear
  /-- The record is given up for a copy of it. -/
  | duplicate
  /-- The cache is used, and holds these entries afterwards. -/
  | remember (cache : Cache)

namespace RecordView

/-- The last value put over the field if there is one, else the parsed field, else nothing. -/
def get (v : RecordView) (index : Nat) : Bytes :=
  match v.replaced.get? index with
  | some value => value
  | none => v.fields.getD index []

/-- A line that is not empty and has fewer separators than the layout has fields takes the place of
all that was there; any other leaves nothing. -/
def parse (l : Layout) (line : Bytes) (metadata : Option Metadata) :
    RecordView × Except RecordError Unit :=
  if line = [] then ({}, .error .empty)
  else if line.count l.separator < l.maxFields then
    ({ fields := Bytes.splitOn l.separator line, metadata }, .ok ())
  else ({}, .error (.tooManyFields l.maxFields))

/-- A field of the layout takes a value, unless it would be one more than can be replaced. -/
def set (l : Layout) (v : RecordView) (index : Nat) (value : Bytes) :
    RecordView × Except RecordError Unit :=
  if l.maxFields ≤ index then (v, .error (.fieldOutOfRange index l.maxFields))
  else if v.replaced.get? index = none ∧ Record.overlayLimit ≤ v.replaced.length then
    (v, .error (.overlayFull Record.overlayLimit))
  else ({ v with replaced := v.replaced.put index value }, .ok ())

def perform (l : Layout) (v : RecordView) : RecordCall → RecordView × Except RecordError Unit
  | .parse line metadata => parse l line metadata
  | .set index value => v.set l index value
  | .clear => ({}, .ok ())
  | .duplicate | .remember _ => (v, .ok ())

/-- The view after calls, and the answers to them. -/
def performAll (l : Layout) (v : RecordView) :
    List RecordCall → RecordView × List (Except RecordError Unit)
  | [] => (v, [])
  | call :: calls =>
    let (v, answer) := v.perform l call
    let (v, answers) := v.performAll l calls
    (v, answer :: answers)

end RecordView

namespace Record

/-- A call on a record. A field that cannot be replaced leaves the record as it is. -/
def perform (r : Record) : RecordCall → Record × Except RecordError Unit
  | .parse line metadata => r.parse line metadata
  | .set index value =>
    match r.set index value with
    | .ok r => (r, .ok ())
    | .error e => (r, .error e)
  | .clear => (r.clear, .ok ())
  | .duplicate => (r.duplicate, .ok ())
  | .remember cache => ({ r with cache }, .ok ())

/-- The record after calls, and the answers to them. -/
def performAll (r : Record) : List RecordCall → Record × List (Except RecordError Unit)
  | [] => (r, [])
  | call :: calls =>
    let (r, answer) := r.perform call
    let (r, answers) := r.performAll calls
    (r, answer :: answers)

/-- The record that calls make of a new one. -/
def reached (l : Layout) (calls : List RecordCall) : Record := ((new l).performAll calls).1

/-- The replaced fields, in the order of their slots. -/
def modified (r : Record) : List Nat := Table.keys r.values

/-- How many fields a record has to write: all that were parsed, and all up to the last one that was
replaced. -/
def width (r : Record) : Nat := r.modified.foldl (fun n index => max n (index + 1)) r.fieldCount

end Record

end RecordPipeline
