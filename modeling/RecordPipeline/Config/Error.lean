import RecordPipeline.FileSystem.Error
import RecordPipeline.Text.Quoted

/-!
The ways in which a configuration can be refused.
-/

namespace RecordPipeline

inductive SeparatorError where
  | outOfRange (value : Int)
  | notOneCharacter (text : String)
  | lineTerminator
deriving DecidableEq

def SeparatorError.message : SeparatorError → String
  | .outOfRange value => s!"separator byte {value} is out of range"
  | .notOneCharacter text =>
      "separator must be a single ASCII character, got " ++ Text.quoted text
  | .lineTerminator => "separator cannot be a line terminator"

/-- Why a file is no configuration: its text is malformed, a value has the wrong kind, or the
separator is unusable. -/
inductive ParseFault where
  | malformed
  | wrongKind
  | separator (e : SeparatorError)
deriving DecidableEq

inductive ConfigError where
  | io (path : String) (e : IoError)
  | parse (fault : ParseFault)
  | unknownField (place name : String)
  | unknownFilterType (name : String)
  | missingField (component field : String)
  | invalidValue (component field reason : String)
deriving DecidableEq

def ConfigError.message : ConfigError → String
  | .io path e => s!"failed to read config file '{path}': {e.message}"
  | .parse (.separator e) => "failed to parse config: " ++ e.message
  | .parse _ => "failed to parse config:"
  | .unknownField place name => s!"{place} references unknown field '{name}'"
  | .unknownFilterType name => s!"unknown filter type '{name}'"
  | .missingField component field => s!"{component} is missing required field '{field}'"
  | .invalidValue component field reason => s!"{component} has invalid {field}: {reason}"

end RecordPipeline
