import RecordPipeline.Config.Basic
import RecordPipeline.Config.Error
import RecordPipeline.Duration
import RecordPipeline.Toml.Document

/-!
From the values of a configuration file to a configuration. Entries are looked at in the order in
which they were written, so the first one at fault is reported; entries that are not known are
passed over. A section may also be written as an array of its values in their order.
-/

namespace RecordPipeline.Config

abbrev Decoder (α : Type) := Toml → Except ParseFault α

def wrongKind {α : Type} : Except ParseFault α := .error .wrongKind

def asString : Decoder String
  | .string s => .ok s
  | _ => wrongKind

def asBoolean : Decoder Bool
  | .boolean b => .ok b
  | _ => wrongKind

def asNatural : Decoder Nat
  | .integer n => if 0 ≤ n then .ok n.toNat else wrongKind
  | _ => wrongKind

def asStrings : Decoder (List String)
  | .array items => items.mapM asString
  | _ => wrongKind

def asDuration : Decoder Nat
  | .string s => match Duration.parse? s with
    | some t => .ok t
    | none => wrongKind
  | _ => wrongKind

def isEmptyTable : Toml → Bool
  | .table [] => true
  | _ => false

def isEmptyArray : Toml → Bool
  | .array [] => true
  | _ => false

/-- One of some names. It may also be written as the key of a table that holds nothing else but an
empty value. -/
def oneOf {α : Type} (emptyValue : Toml → Bool) (names : List (String × α)) : Decoder α
  | .string s => match names.lookup s with
    | some a => .ok a
    | none => wrongKind
  | .table [(key, v)] => match names.lookup key with
    | some a => if emptyValue v then .ok a else wrongKind
    | none => wrongKind
  | _ => wrongKind

def plainName {α : Type} (names : List (String × α)) : Decoder α :=
  oneOf (fun v => isEmptyTable v || isEmptyArray v) names

/-- The entries that a section knows: how each one changes what has been read so far. -/
abbrev Entries (α : Type) := List (String × (Toml → α → Except ParseFault α))

def entry {α β : Type} (key : String) (d : Decoder β) (update : α → β → α) :
    String × (Toml → α → Except ParseFault α) :=
  (key, fun v a => (d v).map (update a))

def readTable {α : Type} (known : Entries α) (start : α) (entries : List (String × Toml)) :
    Except ParseFault α :=
  entries.foldlM (fun a (key, v) =>
    match known.lookup key with
    | some read => read v a
    | none => .ok a) start

/-- Values in the order of the entries; behind the last entry there is nothing to read. -/
def readArray {α : Type} (known : Entries α) (start : α) (items : List Toml) :
    Except ParseFault α :=
  (items.zip known).foldlM (fun a (v, _, read) => read v a) start

/-- A section. A time is taken for a section in which no entry is known. -/
def readSection {α : Type} (known : Entries α) (start : α) : Decoder α
  | .table entries => readTable known start entries
  | .array items => readArray known start items
  | .datetime _ => .ok start
  | _ => wrongKind

/-- A section of one of several types, which its first entry or its type entry names. Here an array
must not have more items than the section has entries. -/
def readTagged {α : Type} (types : String → Option (Entries α × α)) : Decoder α
  | .table entries => do
    match entries.lookup "type" with
    | some (.string name) => match types name with
      | some (known, start) => readTable known start (entries.filter fun e => e.1 ≠ "type")
      | none => wrongKind
    | _ => wrongKind
  | .array (.string name :: items) =>
    match types name with
    | some (known, start) =>
      if items.length ≤ known.length then readArray known start items else wrongKind
    | none => wrongKind
  | _ => wrongKind

/-- A byte that does not end a line, as a number or as a text of one byte. -/
def asSeparator : Decoder { b : UInt8 // b ≠ newline ∧ b ≠ carriageReturn }
  | .integer n =>
    if n < 0 ∨ 255 < n then .error (.separator (.outOfRange n))
    else notLineEnd (UInt8.ofNat n.toNat)
  | .string s =>
    match Bytes.ofString s with
    | [b] => notLineEnd b
    | _ => .error (.separator (.notOneCharacter s))
  | _ => wrongKind
where
  notLineEnd (b : UInt8) : Except ParseFault { b : UInt8 // b ≠ newline ∧ b ≠ carriageReturn } :=
    if h : b = newline ∨ b = carriageReturn then .error (.separator .lineTerminator)
    else .ok ⟨b, not_or.mp h⟩

def modeNames : List (String × OutputMode) := [("fields", .fields), ("raw", .raw), ("both", .both)]

def logEntries : Entries LogConfig := [
  entry "level" (plainName [("trace", .trace), ("debug", .debug), ("info", .info), ("warn", .warn),
    ("error", .error)]) fun c level => { c with level },
  entry "format" (plainName [("console", .console), ("json", .json)]) fun c format =>
    { c with format },
  entry "output" (plainName [("stdout", .stdout), ("stderr", .stderr)]) fun c output =>
    { c with output },
  entry "directives" asStrings fun c directives => { c with directives }]

def metricsEntries : Entries MetricsConfig := [
  entry "enabled" asBoolean fun c enabled => { c with enabled },
  entry "interval" asDuration fun c interval => { c with interval },
  entry "format" (plainName [("human", .human), ("json", .json)]) fun c format => { c with format },
  entry "include_invalid_fields" asBoolean fun c showInvalid => { c with showInvalid },
  entry "report_on_exit" asBoolean fun c reportOnExit => { c with reportOnExit }]

def recordEntries : Entries RecordConfig := [
  entry "separator" asSeparator fun c b => { c with separator := b.1, separator_ne := b.2 },
  entry "max_fields" asNatural fun c maxFields => { c with maxFields },
  entry "fields" asStrings fun c fields => { c with fields }]

def topologyEntries : Entries TopologyConfig := [
  entry "input_queue_size" asNatural fun c n => { c with inputQueueSize := n },
  entry "sink_queue_size" asNatural fun c n => { c with sinkQueueSize := n },
  entry "upload_queue_size" asNatural fun c n => { c with uploadQueueSize := n },
  entry "filter_workers" asNatural fun c n => { c with filterWorkers := some n },
  entry "sink_workers" asNatural fun c n => { c with sinkWorkers := n },
  entry "output_fields" asStrings fun c names => { c with outputFields := names },
  entry "shard_field" asString fun c name => { c with shardField := some name },
  entry "on_error" (plainName [("drop", .drop), ("forward", .forward)]) fun c onError =>
    { c with onError },
  entry "stop_on_interrupt" asBoolean fun c b => { c with stopOnInterrupt := b },
  entry "pool_size" asNatural fun c n => { c with poolSize := some n }]

def readingEntries : Entries ReadingConfig := [
  entry "batch_bytes" asNatural fun c n => { c with batchBytes := n },
  entry "buffer_pool" asNatural fun c n => { c with bufferPool := n }]

/-- Entries of a part as entries of the whole. -/
def within {α β : Type} (get : β → α) (put : β → α → β) (known : Entries α) : Entries β :=
  known.map fun (key, read) => (key, fun v b => (read v (get b)).map (put b))

def sourceType? : String → Option (Entries SourceConfig × SourceConfig)
  | "stdin" => some (within SourceConfig.reading (fun _ r => .stdin r) readingEntries, .stdin {})
  | "file" =>
    let path : SourceConfig → String
      | .file path _ => path
      | .stdin _ => ""
    some (entry "path" asString (fun s p => .file p s.reading)
      :: within SourceConfig.reading (fun s r => .file (path s) r) readingEntries, .file "" {})
  | _ => none

def stdoutEntries : Entries StdoutConfig := [
  entry "output" (oneOf isEmptyTable modeNames) fun c output => { c with output },
  entry "field_delimiter" asString fun c delimiter => { c with delimiter }]

def fileSinkEntries : Entries FileSinkConfig := [
  entry "dir" asString fun c dir => { c with dir },
  entry "prefix" asString fun c name => { c with name },
  entry "max_records" asNatural fun c n => { c with maxRecords := n },
  entry "output" (oneOf isEmptyTable modeNames) fun c output => { c with output },
  entry "field_delimiter" asString fun c delimiter => { c with delimiter },
  entry "buffer_size" asNatural fun c n => { c with bufferSize := n }]

def sinkType? : String → Option (Entries SinkConfig × SinkConfig)
  | "stdout" =>
    some (within (fun | .stdout c => c | _ => {}) (fun _ c => .stdout c) stdoutEntries, .stdout {})
  | "null" => some ([], .null)
  | "file" =>
    some (within (fun | .file c => c | _ => {}) (fun _ c => .file c) fileSinkEntries, .file {})
  | _ => none

def uploaderType? : String → Option (Entries UploaderConfig × UploaderConfig)
  | "move" => some ([entry "destination" asString fun _ d => .move d], .move "")
  | _ => none

def asFilter : Decoder FilterSpec
  | .table entries => do
    let type ← match entries.lookup "type" with
      | some v => asString v
      | none => wrongKind
    let enabled ← match entries.lookup "enabled" with
      | some v => asBoolean v
      | none => .ok true
    return { type, enabled, options := entries.filter fun e => e.1 ≠ "type" && e.1 ≠ "enabled" }
  | _ => wrongKind

def asFilters : Decoder (List FilterSpec)
  | .array items => items.mapM asFilter
  | _ => wrongKind

def sections : Entries Config := [
  entry "log" (readSection logEntries {}) fun c log => { c with log },
  entry "metrics" (readSection metricsEntries {}) fun c metrics => { c with metrics },
  entry "record" (readSection recordEntries {}) fun c record => { c with record },
  entry "topology" (readSection topologyEntries {}) fun c topology => { c with topology },
  entry "source" (readTagged sourceType?) fun c source => { c with source },
  entry "sink" (readTagged sinkType?) fun c sink => { c with sink },
  entry "uploader" (readTagged uploaderType?) fun c u => { c with uploader := some u },
  entry "filters" asFilters fun c filters => { c with filters },
  entry "validation" (readSection [entry "required_fields" asStrings fun _ names => names] [])
    fun c requiredFields => { c with requiredFields }]

/-- The configuration that a text describes, not yet validated. -/
def decode (text : String) : Except ParseFault Config :=
  match Toml.parse? text with
  | some entries => readTable sections {} entries
  | none => .error .malformed

end RecordPipeline.Config
