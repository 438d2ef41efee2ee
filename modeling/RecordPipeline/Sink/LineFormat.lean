import RecordPipeline.Output

/-!
Outputs as lines: the fields with a delimiter between them, the raw text, or both.
-/

namespace RecordPipeline

structure LineFormat where
  mode : OutputMode := .raw
  delimiter : Bytes := Bytes.ofString "\t"

namespace LineFormat

/-- The line of an output, with its newline. A raw text that is missing is empty. -/
def line (f : LineFormat) (o : Output) : Bytes :=
  let fields := Bytes.joinWith f.delimiter o.fields
  let raw := o.raw.getD []
  match f.mode with
  | .fields => fields ++ [newline]
  | .raw => raw ++ [newline]
  | .both => fields ++ f.delimiter ++ raw ++ [newline]

/-- Writes bytes behind what is there, and counts them. -/
def put (out : Bytes × Nat) (bs : Bytes) : Bytes × Nat := (out.1 ++ bs, out.2 + bs.length)

def writeFields (f : LineFormat) (out : Bytes × Nat) : List Bytes → Bytes × Nat
  | [] => out
  | field :: rest =>
    rest.foldl (fun out field => put (put out f.delimiter) field) (put out field)

/-- Writes the line of an output part by part, and tells how many bytes this took. -/
def write (f : LineFormat) (out : Bytes) (o : Output) : Bytes × Nat :=
  let written := if f.mode.needsFields then f.writeFields (out, 0) o.fields else (out, 0)
  let written := if f.mode.needsRaw then
      let written := if f.mode.needsFields then put written f.delimiter else written
      match o.raw with
      | some raw => put written raw
      | none => written
    else written
  put written [newline]

end LineFormat

end RecordPipeline
