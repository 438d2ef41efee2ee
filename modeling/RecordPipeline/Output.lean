import RecordPipeline.Record.Basic

/-!
What a sink receives of a record: the values of chosen fields, the whole record as a line, or both.
-/

namespace RecordPipeline

inductive OutputMode where
  | fields
  | raw
  | both
deriving DecidableEq, Inhabited

namespace OutputMode

def needsFields : OutputMode → Bool
  | .fields | .both => true
  | .raw => false

def needsRaw : OutputMode → Bool
  | .raw | .both => true
  | .fields => false

/-- The smallest mode that has what both modes need. -/
def union (a b : OutputMode) : OutputMode :=
  match a.needsFields || b.needsFields, a.needsRaw || b.needsRaw with
  | true, true => .both
  | true, false => .fields
  | false, _ => .raw

def name : OutputMode → String
  | .fields => "fields"
  | .raw => "raw"
  | .both => "both"

def debug : OutputMode → String
  | .fields => "Fields"
  | .raw => "Raw"
  | .both => "Both"

end OutputMode

structure Output where
  fields : List Bytes := []
  raw : Option Bytes := none
deriving DecidableEq

/-- Which fields of a record become its output, in which order, and in which mode. -/
structure Projection where
  fields : List Nat
  mode : OutputMode
deriving DecidableEq

def Projection.project (p : Projection) (r : Record) : Output where
  fields := if p.mode.needsFields then p.fields.map r.get else []
  raw := if p.mode.needsRaw then some r.text else none

end RecordPipeline
