import RecordPipeline.Command.Build
import RecordPipeline.Report.Reporter
import RecordPipeline.Topology.Pipeline

/-!
Running the pipeline that a configuration describes, from start to end.
-/

namespace RecordPipeline.Command

structure RunOutcome where
  result : Except CommandError Unit
  environment : Environment
  /-- The lines of the report at the end. -/
  report : List String := []

/-- The report of a pipeline that has ended, unless none is asked for. -/
def finalReport (m : MetricsConfig) (p : Pipeline) : List String :=
  if m.enabled && m.reportOnExit then
    match p.collect with
    | .ok view =>
      let reporter : Report.Reporter := { form := m.format, showInvalid := m.showInvalid }
      Report.logLines (reporter.next view).1
    | .error _ => []
  else []

def run (c : Config) (noStats : Bool) (available : Nat) (environment : Environment) : RunOutcome :=
  let metrics := if noStats then { c.metrics with enabled := false } else c.metrics
  match c.build available with
  | .error e => { result := .error e, environment }
  | .ok topology =>
    match (Pipeline.new topology {} environment).start with
    | .error e => { result := .error ⟨"failed to start topology", e.causes⟩, environment }
    | .ok p =>
      let (p, result) := p.wait
      { result := result.mapError fun e => ⟨"pipeline failed", e.causes⟩
        environment := p.flow.environment
        report := finalReport metrics p }

end RecordPipeline.Command
