import RecordPipeline.Chain.Basic
import RecordPipeline.Shard.Dispatcher
import RecordPipeline.Sink.Sink
import RecordPipeline.Source.Source
import RecordPipeline.Upload.Uploader

/-!
Topologies: how one source, the filter workers, the sinks and one uploader are wired together with
bounded queues. Only a wiring that fits together makes a topology.
-/

namespace RecordPipeline

inductive TopologyState where
  | constructed
  | started
  | draining
  | terminated
deriving DecidableEq

namespace TopologyState

def name : TopologyState → String
  | .constructed => "constructed"
  | .started => "started"
  | .draining => "draining"
  | .terminated => "terminated"

def debug : TopologyState → String
  | .constructed => "Constructed"
  | .started => "Started"
  | .draining => "Draining"
  | .terminated => "Terminated"

end TopologyState

inductive TopologyError where
  | noSink
  | invalidSize (name : String)
  | unknownField (role field : String)
  | missingOutputFields (sink : String)
  | shardingUnsupported (sink : String)
  | invalidState (operation : String) (state : TopologyState)
  | source (e : ComponentError)
deriving DecidableEq

namespace TopologyError

def message : TopologyError → String
  | .noSink => "topology requires at least one sink"
  | .invalidSize name => s!"{name} must be at least 1"
  | .unknownField role field => s!"unknown {role} field '{field}'"
  | .missingOutputFields sink => s!"sink '{sink}' needs output fields but none are configured"
  | .shardingUnsupported sink => s!"sink '{sink}' does not support sharding"
  | .invalidState operation state => s!"cannot {operation} a topology in state " ++ state.name
  | .source e => "source failed: " ++ e.message

/-- The message, followed by those of the errors behind it. -/
def causes (e : TopologyError) : List String :=
  match e with
  | .source cause => e.message :: cause.causes
  | _ => [e.message]

end TopologyError

/-- The parts of a pipeline before anything is known about how they fit. -/
structure Wiring where
  source : Source
  sinks : List Sink
  uploader : Uploader := .noop 0
  chain : Chain := { filters := [] }
  layout : Layout := Layout.standard
  fields : FieldMap := FieldMap.empty
  validator : Option Validator := none
  outputFields : List String := []
  shardField : Option String := none
  shardRules : ShardRules := []
  inputQueueSize : Nat := 64
  sinkQueueSize : Nat := 10000
  uploadQueueSize : Nat := 64
  workers : Nat := 1

/-- A pipeline that fits together. -/
structure Topology where
  source : Source
  sinks : List Sink
  uploader : Uploader
  chain : Chain
  layout : Layout
  fields : FieldMap
  validator : Option Validator
  projection : Projection
  dispatcher : Dispatcher
  inputQueueSize : Nat
  sinkQueueSize : Nat
  uploadQueueSize : Nat
  workers : Nat

namespace Wiring

/-- The first size that is zero. -/
def emptySize? (w : Wiring) : Option String :=
  ([("input_queue_size", w.inputQueueSize), ("sink_queue_size", w.sinkQueueSize),
    ("upload_queue_size", w.uploadQueueSize), ("filter_workers", w.workers)].find?
      fun entry => entry.2 = 0).map (·.1)

def resolve (w : Wiring) (role name : String) : Except TopologyError Nat :=
  match w.fields.indexOf? name with
  | some index => .ok index
  | none => .error (.unknownField role name)

/-- What the sinks need of a record, all together. -/
def mode (w : Wiring) : OutputMode :=
  match w.sinks.map Sink.mode with
  | [] => .raw
  | first :: rest => rest.foldl OutputMode.union first

def dispatcher (w : Wiring) : Except TopologyError Dispatcher := do
  match w.shardField with
  | none => return .single
  | some name =>
    let field ← w.resolve "shard" name
    match w.sinks.find? fun s => !s.supportsSharding with
    | some sink => throw (.shardingUnsupported sink.name)
    | none => return .sharded (w.shardRules.rule field) w.sinks.length

def build (w : Wiring) : Except TopologyError Topology := do
  if w.sinks.isEmpty then throw .noSink
  if let some name := w.emptySize? then throw (.invalidSize name)
  let outputFields ← w.outputFields.mapM (w.resolve "output")
  if w.mode.needsFields && outputFields.isEmpty then
    let sink := (w.sinks.find? fun s => s.mode.needsFields).map Sink.name
    throw (.missingOutputFields (sink.getD "unknown"))
  return {
    dispatcher := ← w.dispatcher
    projection := { fields := outputFields, mode := w.mode }
    source := w.source, sinks := w.sinks, uploader := w.uploader, chain := w.chain
    layout := w.layout, fields := w.fields, validator := w.validator
    inputQueueSize := w.inputQueueSize, sinkQueueSize := w.sinkQueueSize
    uploadQueueSize := w.uploadQueueSize, workers := w.workers }

end Wiring

def Topology.debug (t : Topology) (state : TopologyState) : String :=
  Text.labelled "Topology" [
    ("state", state.debug), ("source", Text.quoted t.source.name),
    ("sinks", toString t.sinks.length), ("filter_workers", toString t.workers),
    ("chain", t.chain.debug), ("dispatcher", t.dispatcher.debug)]

end RecordPipeline
