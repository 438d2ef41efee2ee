import RecordPipeline.Config.Decode

/-!
The rules that a configuration must keep for a pipeline to be built from it: sizes are positive,
every field that is named exists, and every part has what it needs. Rules are looked at section by
section, and the first one that is broken is reported.
-/

namespace RecordPipeline.Config

abbrev Rule := Except ConfigError Unit

def require (holds : Bool) (e : ConfigError) : Rule := if holds then .ok () else .error e

/-- Field names are not empty, and none is declared twice. -/
def namesRule : List String → List String → Rule
  | _, [] => .ok ()
  | seen, name :: rest =>
    if name = "" then .error (.invalidValue "record" "fields" "field names cannot be empty")
    else if name ∈ seen then
      .error (.invalidValue "record" "fields" s!"duplicate field name '{name}'")
    else namesRule (name :: seen) rest

/-- The names are declared fields; `place` is where they stand. -/
def declaredRule (c : Config) (place : String) (names : List String) : Rule :=
  match names.find? fun name => !c.record.fields.contains name with
  | some name => .error (.unknownField place name)
  | none => .ok ()

def recordRule (c : Config) : Rule := do
  let r := c.record
  require (r.maxFields ≠ 0) (.invalidValue "record" "max_fields" "must be at least 1")
  require (r.fields.length ≤ r.maxFields) (.invalidValue "record" "fields"
    s!"{r.fields.length} names declared but max_fields is {r.maxFields}")
  namesRule [] r.fields
  declaredRule c "validation.required_fields" c.requiredFields

def positiveRule (field : String) (n : Nat) : Rule :=
  require (n ≠ 0) (.invalidValue "topology" field "must be at least 1")

def shardRule (c : Config) : Rule :=
  match c.topology.shardField with
  | none => .ok ()
  | some name => do
    declaredRule c "topology.shard_field" [name]
    require c.sink.supportsSharding (.invalidValue "topology" "shard_field"
      (c.sink.typeName ++ " sink does not support sharding"))

def topologyRule (c : Config) : Rule := do
  let t := c.topology
  positiveRule "input_queue_size" t.inputQueueSize
  positiveRule "sink_queue_size" t.sinkQueueSize
  positiveRule "upload_queue_size" t.uploadQueueSize
  positiveRule "sink_workers" t.sinkWorkers
  positiveRule "filter_workers" (t.filterWorkers.getD 1)
  declaredRule c "topology.output_fields" t.outputFields
  require (!c.sink.output.needsFields || !t.outputFields.isEmpty)
    (.invalidValue "topology" "output_fields"
      (c.sink.typeName ++ " sink writes projected fields but no output fields are configured"))
  shardRule c

def sourceRule (c : Config) : Rule := do
  match c.source with
  | .file path _ => require (path ≠ "") (.missingField "source" "path")
  | .stdin _ => pure ()
  require (c.source.reading.batchBytes ≠ 0)
    (.invalidValue "source" "batch_bytes" "must be at least 1")

def sinkRule (c : Config) : Rule :=
  match c.sink with
  | .file f => do
    require (f.dir ≠ "") (.missingField "sink" "dir")
    require (f.name ≠ "") (.invalidValue "sink" "prefix" "cannot be empty")
  | _ => .ok ()

def uploaderRule (c : Config) : Rule :=
  match c.uploader with
  | some (.move destination) => require (destination ≠ "") (.missingField "uploader" "destination")
  | none => .ok ()

def filtersRule (c : Config) : Rule :=
  match c.filters.find? fun f => !FilterSpec.knownTypes.contains f.type with
  | some f => .error (.unknownFilterType f.type)
  | none => .ok ()

def metricsRule (c : Config) : Rule :=
  require (!c.metrics.enabled || c.metrics.interval ≠ 0)
    (.invalidValue "metrics" "interval" "must be greater than zero")

def validate (c : Config) : Rule := do
  recordRule c
  topologyRule c
  sourceRule c
  sinkRule c
  uploaderRule c
  filtersRule c
  metricsRule c

/-- The valid configuration that a text describes. -/
def ofText (text : String) : Except ConfigError Config := do
  let c ← (decode text).mapError ConfigError.parse
  c.validate
  return c

end RecordPipeline.Config
