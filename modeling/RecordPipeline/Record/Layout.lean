import RecordPipeline.Bytes
import RecordPipeline.Record.Error

/-!
The layout that all records of a pipeline share: which byte separates the fields of a line and how
many fields a line may have. A layout's separator never ends a line, so a line holds whole fields.
-/

namespace RecordPipeline

structure Layout where
  separator : UInt8
  maxFields : Nat
  separator_ne : separator ≠ newline ∧ separator ≠ carriageReturn := by decide
  maxFields_pos : 0 < maxFields := by decide
  maxFields_le : maxFields ≤ 4096 := by decide
deriving DecidableEq

namespace Layout

/-- The largest number of fields that a layout may allow. -/
def fieldLimit : Nat := 4096

/-- The layout with the given separator and number of fields, if there is one. The separator is
looked at first. -/
def make (separator : UInt8) (maxFields : Nat) : Except RecordError Layout :=
  if hs : separator ≠ newline ∧ separator ≠ carriageReturn then
    if hm : 0 < maxFields ∧ maxFields ≤ 4096 then
      .ok ⟨separator, maxFields, hs, hm.1, hm.2⟩
    else .error (.invalidLayout s!"max_fields must be between 1 and {fieldLimit}, got {maxFields}")
  else .error (.invalidLayout "separator cannot be a line terminator")

/-- Fields are separated by the record separator of ASCII, and a line has at most 64 of them. -/
def standard : Layout := ⟨30, 64, by decide, by decide, by decide⟩

instance : Inhabited Layout := ⟨standard⟩

end Layout

end RecordPipeline
