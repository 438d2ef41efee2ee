import RecordPipeline.Command.Error
import RecordPipeline.Config.Validation
import RecordPipeline.Topology.Basic

/-!
Building the topology that a configuration describes.
-/

namespace RecordPipeline

def ConfigError.causes (e : ConfigError) : List String :=
  match e with
  | .io _ cause => [e.message, cause.message]
  | .parse _ => [e.message, ""]
  | _ => [e.message]

namespace Config

def layout (c : Config) : Except CommandError Layout :=
  (Layout.make c.record.separator c.record.maxFields).mapError fun e =>
    ⟨"invalid record layout", [e.message]⟩

def fieldMap (c : Config) : Except CommandError FieldMap :=
  (FieldMap.ofNames c.record.fields).mapError fun e => ⟨"invalid field names", [e.message]⟩

def requiredField (fields : FieldMap) (name : String) : Except CommandError Nat :=
  match fields.indexOf? name with
  | some index => .ok index
  | none => .error ⟨s!"unknown required field '{name}'", []⟩

/-- The check of records, unless no field is required. -/
def validator (c : Config) (fields : FieldMap) : Except CommandError (Option Validator) := do
  if !c.validates then return none
  return some (.requiring (← c.requiredFields.mapM (requiredField fields)))

/-- The wiring of parts that were made from a configuration, and of those that need no making. -/
def assemble (c : Config) (available : Nat) (layout : Layout) (fields : FieldMap)
    (validator : Option Validator) (chain : Chain) : Wiring :=
  let t := c.topology
  { source := .reader (ReaderSource.ofConfig c.source)
    sinks := Sink.allOfConfig c.sink t.sinkWorkers
    uploader := Uploader.ofConfig c.uploader
    chain, layout, fields, validator
    outputFields := t.outputFields, shardField := t.shardField
    inputQueueSize := t.inputQueueSize, sinkQueueSize := t.sinkQueueSize
    uploadQueueSize := t.uploadQueueSize, workers := t.workers available }

/-- The wiring of the parts, given how many filter workers there are by default. -/
def wiring (c : Config) (available : Nat) : Except CommandError Wiring := do
  let layout ← c.layout
  let fields ← c.fieldMap
  let validator ← c.validator fields
  let chain ← (Chain.ofSpecs .standard c.filters fields layout validator c.topology.onError).mapError
    fun e => ⟨"failed to build filter chain", [e.message]⟩
  return c.assemble available layout fields validator chain

def build (c : Config) (available : Nat) : Except CommandError Topology := do
  let w ← c.wiring available
  w.build.mapError fun e => ⟨"failed to build topology", e.causes⟩

end Config

end RecordPipeline
