import RecordPipeline.Decimal.Binary
import RecordPipeline.Text

/-!
Numbers with a fixed count of decimal places. The value is rounded exactly; a tie goes to the even
digit. The sign of a negative zero is kept.
-/

namespace RecordPipeline.Decimal

/-- A whole number of units of the last place, as text. -/
def placesText (places units : Nat) : String :=
  if places = 0 then toString units
  else toString (units / Nat.pow 10 places) ++ "." ++ Text.padded places (units % Nat.pow 10 places)

def fixed (places : Nat) (x : Float) : String :=
  match parts x with
  | .nan => "NaN"
  | .infinite negative => if negative then "-inf" else "inf"
  | .finite negative mantissa exponent =>
    let (num, den) := ratio mantissa exponent
    let text := placesText places (roundHalfEven (num * Nat.pow 10 places) den)
    if negative then "-" ++ text else text

end RecordPipeline.Decimal
