import RecordPipeline.Batch
import RecordPipeline.Source.Counts

/-!
A source that holds its data. It cuts the data into batches of whole lines; a batch is longer than
asked for only when its first line is.
-/

namespace RecordPipeline

/-- How many bytes the whole lines at the front of some bytes have. -/
def wholeLines (bs : Bytes) : Nat := (bs.reverse.dropWhile (· ≠ newline)).length

structure MemorySource where
  data : Bytes
  /-- The length that batches should have, at least one byte. -/
  batchBytes : Nat := 64 * 1024
  /-- How many times the data is sent. -/
  times : Nat := 1
  metadata : Option Metadata := none
  counts : SourceCounts := {}

namespace MemorySource

def name : String := "memory"

/-- The length of the batch at the front of the data. -/
def batchLength (size : Nat) (data : Bytes) : Nat :=
  if data.length ≤ size then data.length
  else match wholeLines (data.take size) with
    | 0 => size + ((data.drop size).takeWhile (· ≠ newline)).length + 1
    | n + 1 => n + 1

theorem batchLength_pos (size : Nat) {data : Bytes} (h : data ≠ []) :
    0 < batchLength size data := by
  have := List.length_pos_iff.2 h
  unfold batchLength
  split
  · exact this
  · split <;> omega

/-- The batches of the data, in order. -/
def cut (size : Nat) (data : Bytes) : List Bytes :=
  if h : data = [] then []
  else
    have := batchLength_pos size h
    have := List.length_pos_iff.2 h
    data.take (batchLength size data) :: cut size (data.drop (batchLength size data))
termination_by data.length
decreasing_by
  simp only [List.length_drop]
  omega

def batches (s : MemorySource) : List Batch :=
  let once := (cut (max s.batchBytes 1) s.data).map fun data => { data, metadata := s.metadata }
  if once.isEmpty then [] else (List.replicate s.times once).flatten

/-- Sends the batches, unless the source was stopped before or nobody receives them. -/
def run (s : MemorySource) (isStopped isOpen : Bool) : List Batch × MemorySource :=
  if isStopped || !isOpen then ([], s)
  else
    let sent := s.batches
    (sent, { s with counts := sent.foldl (fun c b => c.addBatch b.data.length) s.counts })

end MemorySource

end RecordPipeline
