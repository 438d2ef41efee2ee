import RecordPipeline.Json
import RecordPipeline.Metric.Collected
import RecordPipeline.Table

/-!
A report for programs: one JSON object, in which what is not known or empty is left out.
-/

namespace RecordPipeline.Report

def count (n : UInt64) : Json := .integer n.toNat

def pipelineJson (p : PipelineCounts) : Json :=
  .object [("batches", count p.batches), ("bytes", count p.bytes), ("records", count p.records),
    ("malformed", count p.malformed), ("invalid", count p.invalid),
    ("filter_errors", count p.filterErrors), ("dropped", count p.dropped),
    ("emitted", count p.emitted), ("backpressure", count p.backpressure)]

/-- Rates are cut to whole numbers. -/
def ratesJson (r : Rates) : Json :=
  .object [("records_per_sec", count r.records.toUInt64), ("bytes_per_sec", count r.bytes.toUInt64),
    ("emitted_per_sec", count r.emitted.toUInt64)]

def sampleJson (s : Sample) : Json :=
  let kind := ("kind", Json.text s.kind.name)
  match s with
  | .counter value => .object [kind, ("value", .float (Float.ofNat value.toNat))]
  | .delta value => .object [kind, ("value", .float (Float.ofInt value.toInt))]
  | .gauge value => .object [kind, ("value", .float value)]
  | .histogram _ | .timing _ =>
    let summary := s.summary
    .object [kind, ("count", .integer summary.count), ("min", .float summary.min),
      ("max", .float summary.max), ("mean", .float summary.mean)]

/-- Members that are left out when there is nothing in them. -/
def unlessEmpty {α : Type} (key : String) (items : List α) (f : List α → Json) :
    List (String × Json) :=
  if items.isEmpty then [] else [(key, f items)]

def componentJson (c : Component) : Json :=
  .object ([("role", .text c.role.name), ("type", .text c.type),
    ("instances", .integer c.instances), ("processed", count c.stats.processed),
    ("filtered", count c.stats.filtered), ("errors", count c.stats.errors)]
    ++ unlessEmpty "metrics" c.stats.bag.entries fun bag =>
      .object (bag.map fun e => (e.1, sampleJson e.2)))

/-- The last count of each name, in the order of the names. -/
def sortedCounts (fields : List (String × UInt64)) : List (String × UInt64) :=
  let table : Table String UInt64 := fields.foldl (fun t f => t.put f.1 f.2) []
  table.mergeSort fun a b => a.1 ≤ b.1

def structured (c : Collected) (rates : Option Rates) (showInvalid : Bool) : String :=
  let pipeline := match c.pipeline with
    | some p => [("pipeline", pipelineJson p)]
    | none => []
  let speed := match rates with
    | some r => [("rates", ratesJson r)]
    | none => []
  let invalid := if showInvalid then sortedCounts c.invalidFields else []
  Json.compact (.object ([("type", .text "stats")] ++ pipeline ++ speed
    ++ unlessEmpty "invalid_fields" invalid (fun fields =>
      .object (fields.map fun f => (f.1, count f.2)))
    ++ unlessEmpty "components" c.components (fun cs => .array (cs.map componentJson))))

end RecordPipeline.Report
