import RecordPipeline.Chain.Policy
import RecordPipeline.Output
import RecordPipeline.Report.Reporter
import RecordPipeline.Time
import RecordPipeline.Toml.Value

/-!
The configuration of a pipeline, section by section, with the values that hold where a file says
nothing.
-/

namespace RecordPipeline

inductive LogLevel where
  | trace
  | debug
  | info
  | warn
  | error
deriving DecidableEq

def LogLevel.name : LogLevel → String
  | .trace => "trace"
  | .debug => "debug"
  | .info => "info"
  | .warn => "warn"
  | .error => "error"

inductive LogFormat where
  | console
  | json
deriving DecidableEq

def LogFormat.name : LogFormat → String
  | .console => "console"
  | .json => "json"

inductive LogOutput where
  | stdout
  | stderr
deriving DecidableEq

def LogOutput.name : LogOutput → String
  | .stdout => "stdout"
  | .stderr => "stderr"

structure LogConfig where
  level : LogLevel := .info
  format : LogFormat := .console
  output : LogOutput := .stderr
  directives : List String := []

/-- What is logged: the base level, which a level from outside replaces, and the directives. -/
def LogConfig.filterText (c : LogConfig) (level : Option String) : String :=
  let base := match level with
    | none | some "" => c.level.name
    | some level => level
  String.intercalate "," (base :: c.directives)

/-- The interval is in nanoseconds. -/
structure MetricsConfig where
  enabled : Bool := true
  interval : Nat := 10 * Time.second
  format : Report.Form := .human
  showInvalid : Bool := true
  reportOnExit : Bool := true

/-- How lines are cut into fields. Like that of a layout, the separator never ends a line. -/
structure RecordConfig where
  separator : UInt8 := Layout.standard.separator
  maxFields : Nat := Layout.standard.maxFields
  fields : List String := []
  separator_ne : separator ≠ newline ∧ separator ≠ carriageReturn := by
    first
    | exact Layout.standard.separator_ne
    | decide

structure TopologyConfig where
  inputQueueSize : Nat := 64
  sinkQueueSize : Nat := 10000
  uploadQueueSize : Nat := 64
  filterWorkers : Option Nat := none
  sinkWorkers : Nat := 1
  outputFields : List String := []
  shardField : Option String := none
  onError : OnError := .drop
  stopOnInterrupt : Bool := true
  poolSize : Option Nat := none

/-- The number of filter workers, given how many run by default. -/
def TopologyConfig.workers (c : TopologyConfig) (available : Nat) : Nat :=
  c.filterWorkers.getD available

/-- Two records for every filter worker, and some for those that wait in queues. -/
def TopologyConfig.pool (c : TopologyConfig) (available : Nat) : Nat :=
  c.poolSize.getD (c.workers available * 2 + min c.sinkQueueSize 1024)

structure ReadingConfig where
  batchBytes : Nat := 256 * 1024
  bufferPool : Nat := 16

inductive SourceConfig where
  | stdin (reading : ReadingConfig)
  | file (path : String) (reading : ReadingConfig)

def SourceConfig.typeName : SourceConfig → String
  | .stdin _ => "stdin"
  | .file _ _ => "file"

def SourceConfig.reading : SourceConfig → ReadingConfig
  | .stdin reading => reading
  | .file _ reading => reading

structure StdoutConfig where
  output : OutputMode := .raw
  delimiter : String := "\t"

/-- How a sink writes numbered files; a limit of zero records means that files have no limit. -/
structure FileSinkConfig where
  dir : String := ""
  name : String := "sluice"
  maxRecords : Nat := 0
  output : OutputMode := .raw
  delimiter : String := "\t"
  bufferSize : Nat := 64 * 1024

inductive SinkConfig where
  | stdout (c : StdoutConfig)
  | null
  | file (c : FileSinkConfig)

namespace SinkConfig

def typeName : SinkConfig → String
  | .stdout _ => "stdout"
  | .null => "null"
  | .file _ => "file"

def output : SinkConfig → OutputMode
  | .stdout c => c.output
  | .null => .raw
  | .file c => c.output

/-- Instances that share one stream cannot own shards. -/
def supportsSharding : SinkConfig → Bool
  | .stdout _ => false
  | _ => true

end SinkConfig

inductive UploaderConfig where
  | move (destination : String)

def UploaderConfig.typeName : UploaderConfig → String
  | .move _ => "move"

/-- One filter of the chain: its type, and options that only the filter understands. -/
structure FilterSpec where
  type : String
  enabled : Bool := true
  options : Table String Toml := []

namespace FilterSpec

def string? (f : FilterSpec) (key : String) : Option String :=
  (f.options.get? key).bind Toml.string?

def boolean? (f : FilterSpec) (key : String) : Option Bool :=
  (f.options.get? key).bind Toml.boolean?

def integer? (f : FilterSpec) (key : String) : Option Int :=
  (f.options.get? key).bind Toml.integer?

/-- The strings among the items of an array. -/
def strings? (f : FilterSpec) (key : String) : Option (List String) :=
  ((f.options.get? key).bind Toml.array?).map (List.filterMap Toml.string?)

/-- The types of filters that a configuration may name. -/
def knownTypes : List String := ["noop", "set_field", "drop", "split"]

end FilterSpec

structure Config where
  log : LogConfig := {}
  metrics : MetricsConfig := {}
  record : RecordConfig := {}
  topology : TopologyConfig := {}
  source : SourceConfig := .stdin {}
  sink : SinkConfig := .stdout {}
  uploader : Option UploaderConfig := none
  filters : List FilterSpec := []
  requiredFields : List String := []

namespace Config

def enabledFilters (c : Config) : List String :=
  (c.filters.filter (·.enabled)).map (·.type)

def validates (c : Config) : Bool := !c.requiredFields.isEmpty

end Config

end RecordPipeline
