import RecordPipeline.Record.Basic

/-!
The check that a pipeline makes of its records. It names the first field at fault; the check of a
configuration is that some fields must not be empty.
-/

namespace RecordPipeline

structure Validator where
  /-- The field for which a record is refused. -/
  offending? : Record → Option Nat

namespace Validator

/-- The check that some fields are not empty, looked at in the order given. -/
def requiring (fields : List Nat) : Validator :=
  ⟨fun r => fields.find? fun index => (r.get index).isEmpty⟩

/-- Whether a record passes a check that may not be there. -/
def accepts (v : Option Validator) (r : Record) : Bool :=
  match v with
  | some v => (v.offending? r).isNone
  | none => true

end Validator

end RecordPipeline
