/-!
The ways in which reading or changing a record can be refused.
-/

namespace RecordPipeline

inductive RecordError where
  | empty
  | tooManyFields (max : Nat)
  | fieldOutOfRange (index max : Nat)
  | overlayFull (limit : Nat)
  | unknownField (name : String)
  | duplicateField (name : String)
  | invalidLayout (reason : String)
deriving DecidableEq, Repr

def RecordError.message : RecordError → String
  | .empty => "empty record"
  | .tooManyFields max => s!"record has more than {max} fields"
  | .fieldOutOfRange index max =>
      s!"field index {index} is out of range (layout supports {max} fields)"
  | .overlayFull limit =>
      s!"overlay full: at most {limit} distinct fields can be modified per record"
  | .unknownField name => s!"unknown field '{name}'"
  | .duplicateField name => s!"duplicate field '{name}'"
  | .invalidLayout reason => s!"invalid layout: {reason}"

end RecordPipeline
