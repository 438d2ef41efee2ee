import RecordPipeline.Command.Build
import RecordPipeline.Json

/-!
Checking a configuration: the topology is built and shown, but nothing runs.
-/

namespace RecordPipeline.Command

/-- What would run, with the entries in the order of their names. -/
def summary (c : Config) (t : Topology) : List (String × Json) :=
  let texts (names : List String) : Json := .array (names.map .text)
  let number (n : Nat) : Json := .integer n
  let optional? (name : Option String) : Json := (name.map Json.text).getD .null
  [("filter_workers", number t.workers),
    ("filters", texts c.enabledFilters),
    ("output", .text t.projection.mode.name),
    ("output_fields", texts c.topology.outputFields),
    ("record", .object [
      ("fields", texts c.record.fields),
      ("max_fields", number c.record.maxFields),
      ("separator", .text ("0x" ++ Text.hexByte c.record.separator))]),
    ("required_fields", texts c.requiredFields),
    ("shard_field", optional? c.topology.shardField),
    ("sink", .text c.sink.typeName),
    ("sink_queues", number t.dispatcher.queues),
    ("sink_workers", number c.topology.sinkWorkers),
    ("source", .text c.source.typeName),
    ("uploader", optional? (c.uploader.map UploaderConfig.typeName))]

/-- One line for each entry; the entries of an object stand under its name. -/
def summaryLines (entries : List (String × Json)) : List String :=
  entries.flatMap fun entry => match entry.2 with
    | .object members =>
      (entry.1 ++ ":") :: members.map fun m => "  " ++ m.1 ++ ": " ++ m.2.compact
    | value => [entry.1 ++ ": " ++ value.compact]

/-- What the check prints, as JSON or as lines. -/
def check (c : Config) (asJson : Bool) (available : Nat) : Except CommandError String := do
  let entries := summary c (← c.build available)
  if asJson then return (Json.object entries).pretty ++ "\n"
  else return String.join ((("configuration ok" :: summaryLines entries)).map (· ++ "\n"))

end RecordPipeline.Command
