import RecordPipeline.Bytes
import RecordPipeline.Record.Metadata

/-!
Batches of lines. A source hands on whole lines in batches; a line ends before its newline, and
one carriage return at its end is not part of it. The lines of a batch can also be read one at a
time, from a position that moves on behind each of them.
-/

namespace RecordPipeline

structure Batch where
  data : Bytes
  metadata : Option Metadata := none
deriving DecidableEq

/-- The pieces between newlines, without the empty piece behind a final newline. -/
def lineSegments (data : Bytes) : List Bytes :=
  let pieces := Bytes.splitOn newline data
  if pieces.getLast? = some [] then pieces.dropLast else pieces

/-- A line without the one carriage return at its end. -/
def trimReturn (line : Bytes) : Bytes :=
  if line.getLast? = some carriageReturn then line.dropLast else line

def lines (data : Bytes) : List Bytes := (lineSegments data).map trimReturn

def Batch.lines (b : Batch) : List Bytes := RecordPipeline.lines b.data

/-- A position in some data, from which the next line is read. -/
structure LineReader where
  data : Bytes
  position : Nat := 0
deriving DecidableEq

namespace LineReader

/-- The next line, and the reader behind its newline or at the end of the data. -/
def next? (r : LineReader) : Option (Bytes × LineReader) :=
  let rest := r.data.drop r.position
  if rest = [] then none
  else
    let (line, consumed) := match rest.findIdx? (· = newline) with
      | some length => (rest.take length, length + 1)
      | none => (rest, rest.length)
    some (trimReturn line, { r with position := r.position + consumed })

end LineReader

end RecordPipeline
