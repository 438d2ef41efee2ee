import RecordPipeline.Record.Cache
import RecordPipeline.Record.Layout
import RecordPipeline.Record.Metadata
import RecordPipeline.Text.Quoted

/-!
A record is one parsed line under an overlay of replaced fields. The line is never written to: the
end offsets of its fields are found once, when it is parsed, and a replaced field takes one of at
most 255 slots, found through a table from field indices to slots.
-/

namespace RecordPipeline

structure Record where
  layout : Layout
  /-- The line as it was parsed. -/
  buffer : Bytes
  /-- The offset behind the last byte of each parsed field. -/
  ends : List Nat
  /-- For each field its slot, counted from one; zero where the field is not replaced. A slot is
  one byte. The table is made for all fields of the layout when the first field is replaced. -/
  slots : List UInt8
  /-- The replaced fields and their values, in the order of their slots. -/
  values : List (Nat × Bytes)
  /-- The largest replaced index, when there is one. -/
  lastModified : Nat
  metadata : Option Metadata
  cache : Cache
deriving DecidableEq

namespace Record

/-- How many distinct fields of one record can be replaced. -/
def overlayLimit : Nat := 255

def new (layout : Layout) : Record :=
  { layout, buffer := [], ends := [], slots := [], values := [], lastModified := 0,
    metadata := none, cache := [] }

/-- Back to the state of a new record. The table of slots stays, with no slot in it. -/
def clear (r : Record) : Record :=
  { r with
    slots := r.values.foldl (fun slots entry => slots.set entry.1 0) r.slots
    values := []
    lastModified := 0
    ends := []
    buffer := []
    metadata := none
    cache := [] }

/-- The offsets of the separator in the line. -/
def separatorOffsets (separator : UInt8) (line : Bytes) : List Nat :=
  (line.zipIdx.filter fun p => p.1 = separator).map (·.2)

/-- The end offsets of the fields of a line. -/
def fieldEnds (separator : UInt8) (line : Bytes) : List Nat :=
  separatorOffsets separator line ++ [line.length]

/-- Puts a line into the record in place of all that it held. A line that is refused leaves the
record cleared. -/
def parse (r : Record) (line : Bytes) (metadata : Option Metadata) :
    Record × Except RecordError Unit :=
  if line = [] then (r.clear, .error .empty)
  else
    let ends := fieldEnds r.layout.separator line
    if r.layout.maxFields < ends.length then
      (r.clear, .error (.tooManyFields r.layout.maxFields))
    else ({ r.clear with ends, buffer := line, metadata }, .ok ())

def startOf (r : Record) (index : Nat) : Nat :=
  if index = 0 then 0 else r.ends.getD (index - 1) 0 + 1

/-- The field as it was parsed. A field that the line does not have reads as empty. -/
def original (r : Record) (index : Nat) : Bytes :=
  match r.ends[index]? with
  | some stop => r.buffer.slice (r.startOf index) stop
  | none => []

/-- The slot of a replaced field. -/
def slot (r : Record) (index : Nat) : Nat := (r.slots.getD index 0).toNat

/-- The field's replacement if it has one, else the field as it was parsed. -/
def get (r : Record) (index : Nat) : Bytes :=
  match r.slot index with
  | 0 => r.original index
  | k + 1 => (r.values.getD k (0, [])).2

/-- The field's value as bytes of its own, which can outlive the record. -/
def getBytes (r : Record) (index : Nat) : Bytes :=
  match r.slot index with
  | k + 1 => (r.values.getD k (0, [])).2
  | 0 =>
    match r.ends[index]? with
    | some stop => r.buffer.slice (r.startOf index) stop
    | none => []

/-- Bytes of their own are the bytes that the field reads as. -/
theorem getBytes_eq_get (r : Record) (index : Nat) : r.getBytes index = r.get index := by
  unfold getBytes get
  cases r.slot index with
  | zero => rfl
  | succ k => rfl

/-- Gives a field that is not replaced the next slot. -/
def takeSlot (r : Record) (index : Nat) (value : Bytes) : Record :=
  let slots := if r.slots = [] then List.replicate r.layout.maxFields 0 else r.slots
  { r with
    slots := slots.set index (UInt8.ofNat (r.values.length + 1))
    values := r.values ++ [(index, value)]
    lastModified := if r.values = [] ∨ r.lastModified < index then index else r.lastModified }

/-- Replaces a field. A field that was replaced before keeps its slot. -/
def set (r : Record) (index : Nat) (value : Bytes) : Except RecordError Record :=
  if r.layout.maxFields ≤ index then .error (.fieldOutOfRange index r.layout.maxFields)
  else
    match r.slot index with
    | k + 1 => .ok { r with values := r.values.set k (index, value) }
    | 0 =>
      if overlayLimit ≤ r.values.length then .error (.overlayFull overlayLimit)
      else .ok (r.takeSlot index value)

def fieldCount (r : Record) : Nat := r.ends.length

def modifiedCount (r : Record) : Nat := r.values.length

def isModified (r : Record) : Bool := !r.values.isEmpty

def isEmpty (r : Record) : Bool := r.ends.isEmpty && r.values.isEmpty

/-- Writes the record as a line behind what is there. An unmodified record is the parsed line;
otherwise the fields up to the last replaced one are written out and the rest of the line is kept as
it was. -/
def appendText (r : Record) (out : Array UInt8) : Array UInt8 :=
  if r.values = [] then out ++ r.buffer
  else
    let out := (List.range (r.lastModified + 1)).foldl (fun (out : Array UInt8) index =>
      (if 0 < index then out.push r.layout.separator else out) ++ r.get index) out
    if r.lastModified + 1 < r.ends.length then
      out.push r.layout.separator ++ r.buffer.drop (r.ends.getD r.lastModified 0 + 1)
    else out

/-- The record as a line of its own. -/
def text (r : Record) : Bytes :=
  if r.values = [] then r.buffer else (r.appendText #[]).toList

/-- A copy to go its own way. It starts with nothing in its cache. -/
def duplicate (r : Record) : Record := { r with cache := [] }

def meta? (r : Record) (key : String) : Option String := r.metadata.bind (·.get? key)

def debug (r : Record) : String :=
  Text.labelled "Record" [
    ("buffer", Text.quotedBytes r.buffer),
    ("fields", toString r.ends.length),
    ("modified", toString r.values.length),
    ("metadata", match r.metadata with
      | some m => "Some(" ++ toString m.length ++ ")"
      | none => "None")]

end Record

end RecordPipeline
