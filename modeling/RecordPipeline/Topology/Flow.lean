import RecordPipeline.Topology.Basic
import RecordPipeline.Topology.Tally

/-!
The flow of records through a topology, event by event. Queues are bounded; every worker, sink and
the uploader goes its own way, and an event that cannot happen now has no outcome. The flow drains
in order: the source queue closes after the source has returned, the sink queues after the filter
workers, and the upload queue after the sinks.
-/

namespace RecordPipeline

inductive FilterWorker where
  /-- Waits for a batch. -/
  | idle
  /-- Has a batch with lines still to be processed, and the outputs of the line before that are not
  delivered yet, each with its queue. -/
  | busy (batch : Batch) (lines : List Bytes) (outbox : List (Nat × Output)) (isWaiting : Bool)
  | returned

structure SinkWorker where
  sink : Sink
  /-- Requests that are not in the upload queue yet. -/
  outbox : List UploadRequest := []
  isClosed : Bool := false
  hasReturned : Bool := false

/-- How far the drain has come. -/
inductive DrainStage where
  | notDraining
  | sourceAwaited
  | workersAwaited
  | sinksAwaited
  | uploaderAwaited
  | drained
deriving DecidableEq

structure Flow where
  /-- The batches that the source has not sent yet. -/
  feed : List Batch
  /-- What the source has returned, once it has. -/
  sourceResult : Option (Except ComponentError Unit) := none
  input : List Batch := []
  workers : List FilterWorker
  queues : List (List Output)
  sinks : List SinkWorker
  uploads : List UploadRequest := []
  uploader : Uploader
  uploaderReturned : Bool := false
  stage : DrainStage := .notDraining
  /-- The failure of the source that the drain has come upon. -/
  error : Option ComponentError := none
  tally : PipelineTally
  filters : List FilterTally
  /-- How many batches were given back to the source. -/
  released : Nat := 0
  environment : Environment

inductive FlowEvent where
  /-- The source puts its next batch into the source queue. -/
  | send
  /-- The source returns, with whatever it has not sent left behind. -/
  | sourceReturns (result : Except ComponentError Unit)
  | take (worker : Nat)
  | processLine (worker : Nat)
  /-- A worker puts an output into its queue. One for which there is no room waits first. -/
  | deliver (worker : Nat)
  /-- A worker gives its batch back. -/
  | release (worker : Nat)
  | workerReturns (worker : Nat)
  | receive (sink : Nat)
  | announce (sink : Nat)
  | close (sink : Nat)
  /-- A sink returns at its end, or earlier. -/
  | sinkReturns (sink : Nat)
  | upload
  | uploaderReturns
  /-- The drain begins. -/
  | drain
  /-- The drain goes on after all that it waited for have returned. -/
  | join

/-- What comes of one line: the counts of the pipeline and of the filters, and the outputs with
their queues. -/
structure LineOutcome where
  tally : PipelineTally
  filters : List FilterTally
  outputs : List (Nat × Output)

namespace Topology

/-- The stage at the end of the chain. -/
def terminal (t : Topology) : Stage (List (Nat × Output)) := fun r outputs =>
  (r, outputs ++ [(t.dispatcher.select r, t.projection.project r)])

/-- Takes one line through the parser, the check and the chain. -/
def processLine (t : Topology) (tally : PipelineTally) (filters : List FilterTally)
    (metadata : Option Metadata) (line : Bytes) : LineOutcome :=
  match (Record.new t.layout).parse line metadata with
  | (_, .error _) => ⟨tally.addMalformed, filters, []⟩
  | (r, .ok ()) =>
    let tally := tally.addRecord
    match t.validator.bind (·.offending? r) with
    | some field => ⟨tally.addInvalid field, filters, []⟩
    | none =>
      let (_, filters, outputs) := t.chain.run t.terminal r (filters, [])
      ⟨if outputs.isEmpty then tally.addDropped else tally, filters, outputs⟩

/-- The queue that a sink reads. All sinks share one unless outputs are sharded. -/
def queueOf (t : Topology) (sink : Nat) : Nat := sink % t.dispatcher.queues

end Topology

namespace Flow

/-- The flow of a topology before anything has happened, with what the source will send. -/
def ofTopology (t : Topology) (feed : List Batch) (environment : Environment) : Flow where
  feed
  workers := List.replicate t.workers .idle
  queues := List.replicate t.dispatcher.queues []
  sinks := t.sinks.map fun sink => { sink }
  uploader := t.uploader
  tally := PipelineTally.new t.layout.maxFields
  filters := t.chain.start
  environment

/-- Whether a queue of outputs still has a sink that reads it. -/
def hasReader (t : Topology) (f : Flow) (queue : Nat) : Bool :=
  f.sinks.zipIdx.any fun (s, i) => t.queueOf i = queue && !s.hasReturned

def isInputClosed (f : Flow) : Bool := f.stage ≠ .notDraining && f.stage ≠ .sourceAwaited

def areQueuesClosed (f : Flow) : Bool := f.isInputClosed && f.stage ≠ .workersAwaited

def setWorker (f : Flow) (i : Nat) (w : FilterWorker) : Flow :=
  { f with workers := f.workers.set i w }

def setSink (f : Flow) (i : Nat) (s : SinkWorker) : Flow := { f with sinks := f.sinks.set i s }

def setQueue (f : Flow) (i : Nat) (q : List Output) : Flow := { f with queues := f.queues.set i q }

def send (t : Topology) (f : Flow) : Option Flow :=
  match f.feed with
  | b :: rest =>
    if f.sourceResult.isSome || t.inputQueueSize ≤ f.input.length then none
    else some { f with feed := rest, input := f.input ++ [b] }
  | [] => none

def take (f : Flow) (i : Nat) : Option Flow :=
  match f.workers[i]?, f.input with
  | some .idle, b :: rest =>
    some ({ f with input := rest, tally := f.tally.addBatch b.data.length }.setWorker i
      (.busy b b.lines [] false))
  | _, _ => none

def processLine (t : Topology) (f : Flow) (i : Nat) : Option Flow :=
  match f.workers[i]? with
  | some (.busy b (line :: lines) [] _) =>
    let o := t.processLine f.tally f.filters b.metadata line
    some ({ f with tally := o.tally, filters := o.filters }.setWorker i
      (.busy b lines o.outputs false))
  | _ => none

def deliver (t : Topology) (f : Flow) (i : Nat) : Option Flow :=
  match f.workers[i]? with
  | some (.busy b lines ((queue, o) :: outbox) isWaiting) =>
    let items := f.queues.getD queue []
    let rest := FilterWorker.busy b lines outbox false
    if !f.hasReader t queue then
      some ({ f with tally := f.tally.addUndelivered }.setWorker i rest)
    else if items.length < t.sinkQueueSize then
      some (({ f with tally := f.tally.addEmitted }.setWorker i rest).setQueue queue (items ++ [o]))
    else if isWaiting then none
    else some ({ f with tally := f.tally.addBackpressure }.setWorker i
      (.busy b lines ((queue, o) :: outbox) true))
  | _ => none

def release (f : Flow) (i : Nat) : Option Flow :=
  match f.workers[i]? with
  | some (.busy _ [] [] _) => some ({ f with released := f.released + 1 }.setWorker i .idle)
  | _ => none

def workerReturns (f : Flow) (i : Nat) : Option Flow :=
  match f.workers[i]? with
  | some .idle =>
    if f.isInputClosed && f.input.isEmpty then some (f.setWorker i .returned) else none
  | _ => none

def receive (t : Topology) (f : Flow) (i : Nat) : Option Flow :=
  match f.sinks[i]?, f.queues.getD (t.queueOf i) [] with
  | some s, o :: rest =>
    if s.hasReturned || !s.outbox.isEmpty then none
    else
      let (sink, environment, outbox) := s.sink.accept o rest.isEmpty f.environment
      some (({ f with environment }.setSink i { s with sink, outbox }).setQueue (t.queueOf i) rest)
  | _, _ => none

/-- Puts a request into the upload queue, or drops it when the uploader has returned. -/
def announce (t : Topology) (f : Flow) (i : Nat) : Option Flow :=
  match f.sinks[i]? with
  | some s =>
    match s.outbox with
    | request :: outbox =>
      if s.hasReturned then none
      else if f.uploaderReturned then some (f.setSink i { s with outbox })
      else if f.uploads.length < t.uploadQueueSize then
        some ({ f with uploads := f.uploads ++ [request] }.setSink i { s with outbox })
      else none
    | [] => none
  | none => none

def close (t : Topology) (f : Flow) (i : Nat) : Option Flow :=
  match f.sinks[i]? with
  | some s =>
    if s.hasReturned || s.isClosed || !s.outbox.isEmpty || !f.areQueuesClosed
        || !(f.queues.getD (t.queueOf i) []).isEmpty then none
    else
      let (sink, environment, outbox) := s.sink.close f.environment
      some ({ f with environment }.setSink i { s with sink, outbox, isClosed := true })
  | none => none

def sinkReturns (f : Flow) (i : Nat) : Option Flow :=
  match f.sinks[i]? with
  | some s => if s.hasReturned then none else some (f.setSink i { s with hasReturned := true })
  | none => none

/-- What the uploader makes of a request and of the files. -/
def uploadNext (f : Flow) (request : UploadRequest) : Uploader × FileSystem :=
  f.uploader.accept f.environment.files request { now := f.environment.now }

/-- The uploader takes up a request, unless it has returned or was stopped. -/
def upload (f : Flow) : Option Flow :=
  match f.uploads with
  | request :: uploads =>
    if f.uploaderReturned || f.uploader.isStopped then none
    else
      let (uploader, files) := f.uploadNext request
      some { f with uploads, uploader, environment := { f.environment with files } }
  | [] => none

def hasWorkerLeft (f : Flow) : Bool := f.workers.any fun
  | .returned => false
  | _ => true

def join (f : Flow) : Option Flow :=
  match f.stage with
  | .notDraining | .drained => none
  | .sourceAwaited =>
    match f.sourceResult with
    | some (.ok ()) => some { f with stage := .workersAwaited }
    | some (.error e) => some { f with stage := .workersAwaited, error := some e }
    | none => none
  | .workersAwaited => if f.hasWorkerLeft then none else some { f with stage := .sinksAwaited }
  | .sinksAwaited =>
    if f.sinks.all (·.hasReturned) then some { f with stage := .uploaderAwaited } else none
  | .uploaderAwaited => if f.uploaderReturned then some { f with stage := .drained } else none

/-- What an event makes of the flow, if it can happen. -/
def fire (t : Topology) (f : Flow) : FlowEvent → Option Flow
  | .send => f.send t
  | .sourceReturns result =>
    if f.sourceResult.isSome then none else some { f with sourceResult := some result }
  | .take i => f.take i
  | .processLine i => f.processLine t i
  | .deliver i => f.deliver t i
  | .release i => f.release i
  | .workerReturns i => f.workerReturns i
  | .receive i => f.receive t i
  | .announce i => f.announce t i
  | .close i => f.close t i
  | .sinkReturns i => f.sinkReturns i
  | .upload => f.upload
  | .uploaderReturns =>
    if f.uploaderReturned then none else some { f with uploaderReturned := true }
  | .drain => if f.stage = .notDraining then some { f with stage := .sourceAwaited } else none
  | .join => f.join

/-- The flows that events can lead to. -/
inductive Reaches (t : Topology) : Flow → Flow → Prop where
  | refl (f : Flow) : Reaches t f f
  | step {f g h : Flow} (e : FlowEvent) (fired : fire t f e = some g) (rest : Reaches t g h) :
      Reaches t f h

end Flow

end RecordPipeline
