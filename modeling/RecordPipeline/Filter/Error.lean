import RecordPipeline.Record.Error

/-!
The ways in which a filter can keep back a record or cannot be made.
-/

namespace RecordPipeline

/-- Why a condition has no operator. -/
inductive OperatorError where
  | unknown (name : String)
  | patternMissing
  | invalidPattern (pattern : String)
deriving DecidableEq

def OperatorError.message : OperatorError → String
  | .unknown name => s!"unknown condition: {name}"
  | .patternMissing => "regex condition requires a value"
  | .invalidPattern pattern => s!"invalid regex '{pattern}'"

/-- Why the options of a filter are refused. -/
inductive FilterFault where
  | unknownType (name : String) (available : List String)
  | missingOption (type key : String)
  | unknownField (type name : String)
  | emptyDelimiter
  | noCondition
  | unknownAction (name : String)
  | unknownMatchMode (name : String)
  | conditionsNotArray
  | conditionNotTable
  | conditionWithoutField
  | operator (e : OperatorError)
  | missingValue (field operator : String)
deriving DecidableEq

def FilterFault.message : FilterFault → String
  | .unknownType name available =>
      s!"unknown filter type '{name}', available: [" ++ String.intercalate ", " available ++ "]"
  | .missingOption type key => s!"{type} filter requires option '{key}'"
  | .unknownField type name => s!"{type} filter references unknown field '{name}'"
  | .emptyDelimiter => "split delimiter must not be empty"
  | .noCondition => "at least one condition is required"
  | .unknownAction name => s!"unknown action: {name}"
  | .unknownMatchMode name => s!"unknown match mode: {name}"
  | .conditionsNotArray => "conditions must be an array"
  | .conditionNotTable => "condition must be a table"
  | .conditionWithoutField => "condition requires 'field'"
  | .operator e => e.message
  | .missingValue field wanted =>
      s!"condition on '{field}' requires a value for {wanted}"

inductive FilterError where
  /-- The record is kept back on purpose. -/
  | drop
  | failed (reason : String)
  | record (e : RecordError)
  | config (fault : FilterFault)
deriving DecidableEq

def FilterError.message : FilterError → String
  | .drop => "record dropped"
  | .failed reason => s!"filter failed: {reason}"
  | .record e => e.message
  | .config fault => "invalid configuration: " ++ fault.message

end RecordPipeline
