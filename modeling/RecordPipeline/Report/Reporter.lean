import RecordPipeline.Report.Human
import RecordPipeline.Report.Structured

/-!
Reporting. A reporter renders one view after the other, each with its rates since the one before,
and writes reports line by line.
-/

namespace RecordPipeline.Report

inductive Form where
  | human
  | json
deriving DecidableEq

def Form.name : Form → String
  | .human => "human"
  | .json => "json"

def render (form : Form) (c : Collected) (rates : Option Rates) (showInvalid : Bool) : String :=
  match form with
  | .human => human c rates showInvalid
  | .json => structured c rates showInvalid

structure Reporter where
  form : Form
  showInvalid : Bool
  previous : Option Collected := none

/-- The text of the next report. -/
def Reporter.next (r : Reporter) (c : Collected) : String × Reporter :=
  (render r.form c (r.previous.bind c.rates) r.showInvalid, { r with previous := some c })

/-- The lines of a report. The end of a line is a line feed, or a carriage return and one. -/
def logLines (report : String) : List String :=
  let segments := report.splitOn "\n"
  let ended := segments.dropLast.map fun s =>
    if s.toList.getLast? = some '\r' then String.ofList s.toList.dropLast else s
  match segments.getLast? with
  | some "" | none => ended
  | some last => ended ++ [last]

end RecordPipeline.Report
