import RecordPipeline.Metric.Collected
import RecordPipeline.Report.Units

/-!
A report for people: a line for the pipeline, one for the fields that failed validation and one
for each stage.
-/

namespace RecordPipeline.Report

def pipelineLine (p : PipelineCounts) (rates : Option Rates) : String :=
  let speed := match rates with
    | some r => " " ++ rateText r.records ++ " | " ++ byteRateText r.bytes ++ " |"
    | none => ""
  let waiting := if p.backpressure = 0 then "" else " | backpressure: " ++ countText p.backpressure
  "[stats] pipeline:" ++ speed ++ " records: " ++ countText p.records
    ++ " | malformed: " ++ toString p.malformed ++ " | invalid: " ++ toString p.invalid
    ++ " | filter err: " ++ toString p.filterErrors ++ " | dropped: " ++ countText p.dropped
    ++ " | emitted: " ++ countText p.emitted ++ waiting

def invalidLine (fields : List (String × UInt64)) : String :=
  "[stats] invalid fields:"
    ++ String.join (fields.map fun f => " " ++ f.1 ++ "=" ++ toString f.2)

/-- The sum of changes with its sign. -/
def signed (n : Int) : String := if n < 0 then toString n else "+" ++ toString n

def sampleText (name : String) (s : Sample) : String :=
  match s with
  | .counter value => name ++ "=" ++ countText value
  | .delta value => name ++ "=" ++ signed value.toInt
  | .gauge value => name ++ "=" ++ Decimal.fixed 2 value
  | .histogram _ | .timing _ =>
    let summary := s.summary
    name ++ "=[n=" ++ toString summary.count ++ " avg=" ++ Decimal.fixed 2 summary.mean
      ++ " max=" ++ Decimal.fixed 2 summary.max ++ "]"

def componentLine (c : Component) : String :=
  let replicas := if c.instances > 1 then " x" ++ toString c.instances else ""
  let samples := if c.stats.bag.entries.isEmpty then ""
    else " | " ++ String.intercalate " " (c.stats.bag.entries.map fun e => sampleText e.1 e.2)
  "[stats] " ++ c.role.name ++ " " ++ c.type ++ replicas
    ++ ": processed " ++ countText c.stats.processed ++ ", filtered " ++ countText c.stats.filtered
    ++ ", errors " ++ toString c.stats.errors ++ samples

def human (c : Collected) (rates : Option Rates) (showInvalid : Bool) : String :=
  let pipeline := match c.pipeline with
    | some p => [pipelineLine p rates]
    | none => []
  let invalid := if showInvalid && !c.invalidFields.isEmpty then [invalidLine c.invalidFields]
    else []
  let all := pipeline ++ invalid ++ c.components.map componentLine
  if all.isEmpty then "[stats] no activity" else String.intercalate "\n" all

end RecordPipeline.Report
