import RecordPipeline.Topology.Flow

/-!
One order of events that takes a flow from its start to its end: one batch after the other, each
processed by the first worker, with the sinks reading whenever a queue is full and after each batch.
A patient sink reads only what has to wait for it, or when nothing else is left to do.
-/

namespace RecordPipeline

/-- Which sinks return before the source sends anything, and which of them are patient. -/
structure Temper where
  quitters : List Nat := []
  patient : List Nat := []

namespace Flow

/-- The flow after an event if that can happen now, else the flow as it is. -/
def fired (t : Topology) (e : FlowEvent) (f : Flow) : Flow := (f.fire t e).getD f

def firedAll (t : Topology) (es : List FlowEvent) (f : Flow) : Flow :=
  es.foldl (fun f e => f.fired t e) f

def outboxLength (f : Flow) (i : Nat) : Nat :=
  match f.sinks[i]? with
  | some s => s.outbox.length
  | none => 0

/-- A sink announces what is in its outbox, and the uploader takes it up. -/
def handOver (t : Topology) (i : Nat) (f : Flow) : Flow :=
  (List.replicate (f.outboxLength i) [.announce i, .upload]).foldl (fun f es => f.firedAll t es) f

/-- A sink receives what is in its queue. -/
def serve (t : Topology) (f : Flow) (i : Nat) : Flow :=
  (f.queues.getD (t.queueOf i) []).foldl (fun f _ => handOver t i (f.fired t (.receive i))) f

def serveAll (t : Topology) (sinks : List Nat) (f : Flow) : Flow := sinks.foldl (serve t) f

def sinkNumbers (f : Flow) : List Nat := List.range f.sinks.length

def eagerSinks (temper : Temper) (f : Flow) : List Nat :=
  f.sinkNumbers.filter fun i => !temper.patient.contains i

def isFull (t : Topology) (f : Flow) : Bool := f.queues.any fun q => t.sinkQueueSize ≤ q.length

def isWaiting (f : Flow) : Bool := f.workers.any fun
  | .busy _ _ _ isWaiting => isWaiting
  | _ => false

/-- The first worker delivers one output. -/
def deliverOne (t : Topology) (temper : Temper) (f : Flow) : Flow :=
  let f := if f.isFull t then serveAll t (f.eagerSinks temper) f else f
  let f := f.fired t (.deliver 0)
  if f.isWaiting then (serveAll t f.sinkNumbers f).fired t (.deliver 0) else f

def pending (f : Flow) : List (Nat × Output) :=
  match f.workers.head? with
  | some (.busy _ _ outbox _) => outbox
  | _ => []

def processOne (t : Topology) (temper : Temper) (f : Flow) : Flow :=
  let f := f.fired t (.processLine 0)
  f.pending.foldl (fun f _ => f.deliverOne t temper) f

def processBatch (t : Topology) (temper : Temper) (f : Flow) (b : Batch) : Flow :=
  let f := f.firedAll t [.send, .take 0]
  let f := b.lines.foldl (fun f _ => f.processOne t temper) f
  serveAll t (f.eagerSinks temper) (f.fired t (.release 0))

/-- A sink reads what is left, closes and returns. -/
def finishSink (t : Topology) (f : Flow) (i : Nat) : Flow :=
  (handOver t i ((serve t f i).fired t (.close i))).fired t (.sinkReturns i)

/-- All events from the first batch to the end of the drain. A stopped uploader returns first. -/
def runToEnd (t : Topology) (temper : Temper) (result : Except ComponentError Unit) (f : Flow) :
    Flow :=
  let f := if f.uploader.isStopped then f.fired t .uploaderReturns else f
  let f := f.feed.foldl (processBatch t temper) f
  let f := f.firedAll t [.drain, .sourceReturns result, .join]
  let f := f.firedAll t ((List.range f.workers.length).map .workerReturns ++ [.join])
  let f := f.sinkNumbers.foldl (finishSink t) f
  let f := f.fired t .join
  let f := f.uploads.foldl (fun f _ => f.fired t .upload) f
  f.firedAll t [.uploaderReturns, .join]

/-- The uploader starts. One that cannot start returns at once. -/
def startUploader (t : Topology) (f : Flow) : Flow :=
  match f.uploader.start f.environment.files with
  | .ok files => { f with environment := { f.environment with files } }
  | .error _ => f.fired t .uploaderReturns

/-- A sink starts, unless it has returned. -/
def startSink (f : Flow) (i : Nat) : Flow :=
  match f.sinks[i]? with
  | some s =>
    if s.hasReturned then f
    else
      let (sink, environment) := s.sink.start f.environment
      { f with environment }.setSink i { s with sink }
  | none => f

/-- The uploader and the sinks start, apart from the sinks that return before that. -/
def begin (t : Topology) (temper : Temper) (f : Flow) : Flow :=
  let f := temper.quitters.foldl (fun f i => f.fired t (.sinkReturns i)) (f.startUploader t)
  f.sinkNumbers.foldl startSink f

end Flow

end RecordPipeline
