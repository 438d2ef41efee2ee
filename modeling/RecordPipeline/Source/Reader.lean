import RecordPipeline.Batch
import RecordPipeline.ComponentError
import RecordPipeline.Source.BufferPool
import RecordPipeline.Source.ByteStream
import RecordPipeline.Source.Counts
import RecordPipeline.Source.Memory

/-!
Reading a byte stream in batches of whole lines. A batch ends with the read that completes a line;
what follows its last newline is carried over to the next batch. The reader takes one step at a
time, so that a request to stop can come between any two of them: it is looked at before each batch.
-/

namespace RecordPipeline

structure Reader where
  /-- The length that batches should have, at least one byte. -/
  batchBytes : Nat
  pool : BufferPool
  counts : SourceCounts := {}
  isStopped : Bool := false

namespace Reader

def new (batchBytes poolSize : Nat) : Reader :=
  { batchBytes := max batchBytes 1, pool := BufferPool.new poolSize (max batchBytes 1) }

def stop (r : Reader) : Reader := { r with isStopped := true }

def stats (r : Reader) : Stats :=
  let s := r.counts.stats
  { s with bag := s.bag.put "buffer_hit_rate" (.gauge r.pool.counts.hitRate) }

/-- Takes back the buffer of a batch that nobody holds any more. A buffer in which a batch was read
is not smaller than the pool asks. -/
def release (r : Reader) (b : Batch) : Reader :=
  let buffer : Buffer := { content := b.data, capacity := max r.batchBytes b.data.length }
  { r with pool := (r.pool.reclaim { buffer }).2 }

/-- Why reading for a batch has come to an end. -/
inductive Ending where
  | line
  | endOfStream
  | failure (e : IoError)
deriving DecidableEq

inductive Phase where
  /-- Between two batches, with the start of a line that is carried over. -/
  | between (carry : Bytes)
  /-- About to read, after what is in the buffer. -/
  | reading (buffer : Bytes)
  /-- About to hand on what is in the buffer. -/
  | filled (buffer : Bytes) (ending : Ending)
  | finished (result : Except ComponentError Unit)

/-- A reader at work, with the batches that it has sent so far. -/
structure Run where
  reader : Reader
  /-- What the errors of the run call the stream. -/
  context : String
  metadata : Option Metadata := none
  phase : Phase := .between []
  sent : List Batch := []

namespace Run

/-- The least number of bytes that is asked for in place of none. -/
def longRead : Nat := 8 * 1024

/-- How many bytes the next step asks for, if it is a read. -/
def wanted? (r : Run) : Option Nat :=
  match r.phase with
  | .reading buffer =>
    match r.reader.batchBytes - buffer.length with
    | 0 => some (min r.reader.batchBytes longRead)
    | room => some room
  | _ => none

/-- The step that takes the result of a read. -/
def receive (r : Run) (result : ReadResult) : Run :=
  match r.phase with
  | .reading buffer =>
    let counts := { r.reader.counts with reads := r.reader.counts.reads + 1 }
    let read (counts : SourceCounts) (phase : Phase) : Run :=
      { r with reader := { r.reader with counts }, phase }
    match result with
    | .bytes [] => read counts (.filled buffer .endOfStream)
    | .bytes bs =>
      if newline ∈ bs then read counts (.filled (buffer ++ bs) .line)
      else read counts (.reading (buffer ++ bs))
    | .interrupted => read counts (.reading buffer)
    | .failed e =>
      read { counts with errors := counts.errors + 1 } (.filled buffer (.failure e))
  | _ => r

/-- The whole lines of the buffer, and what is carried over. At the end of the stream and at a
failure all is handed on. -/
def divide (buffer : Bytes) : Ending → Bytes × Bytes
  | .line => buffer.splitAt (wholeLines buffer)
  | _ => (buffer, [])

/-- What comes after a batch. -/
def after (context : String) (carry : Bytes) : Ending → Phase
  | .line => .between carry
  | .endOfStream => .finished (.ok ())
  | .failure e => .finished (.error (.io ("reading " ++ context) e))

/-- A step without a read: to begin a batch unless the reader is stopped, or to hand one on. A
batch that nobody receives ends the run. -/
def proceed (isOpen : Bool) (r : Run) : Run :=
  match r.phase with
  | .between carry =>
    if r.reader.isStopped then { r with phase := .finished (.ok ()) }
    else { r with reader := { r.reader with pool := r.reader.pool.get.2 }, phase := .reading carry }
  | .filled buffer ending =>
    let (data, carry) := divide buffer ending
    if data = [] then
      let pool := r.reader.pool.put { capacity := r.reader.batchBytes }
      { r with reader := { r.reader with pool }, phase := after r.context carry ending }
    else if isOpen then
      { r with
        reader := { r.reader with counts := r.reader.counts.addBatch data.length }
        phase := after r.context carry ending
        sent := r.sent ++ [{ data, metadata := r.metadata }] }
    else { r with phase := .finished (.ok ()) }
  | .reading _ | .finished _ => r

/-- One step, on a stream. -/
def advance {σ : Type} [Readable σ] (isOpen : Bool) (r : Run) (stream : σ) : Run × σ :=
  match r.wanted? with
  | some n =>
    let (result, stream) := Readable.read n stream
    (r.receive result, stream)
  | none => (r.proceed isOpen, stream)

def result? (r : Run) : Option (Except ComponentError Unit) :=
  match r.phase with
  | .finished result => some result
  | _ => none

/-- So many steps, or fewer if the run ends. A request to stop comes while a read of a given number
is under way. -/
def steps {σ : Type} [Readable σ] (isOpen : Bool) (stopAt : Option Nat) :
    Nat → Run → σ → Run × σ
  | 0, r, stream => (r, stream)
  | n + 1, r, stream =>
    if r.result?.isSome then (r, stream)
    else
      let (r, stream) := r.advance isOpen stream
      let r := if stopAt = some r.reader.counts.reads then { r with reader := r.reader.stop } else r
      steps isOpen stopAt n r stream

end Run

/-- Reads a finite stream to its end. Each read makes the stream lighter, and there are at most two
other steps for each read. -/
def run (r : Reader) (context : String) (metadata : Option Metadata) (stream : ByteStream)
    (isOpen : Bool := true) (stopAt : Option Nat := none) : Run × ByteStream :=
  Run.steps isOpen stopAt (3 * stream.weight + 6) { reader := r, context, metadata } stream

end Reader

end RecordPipeline
