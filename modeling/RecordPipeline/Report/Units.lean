import RecordPipeline.Decimal.Fixed

/-!
Large numbers in short form: thousands and millions, or kilobytes and megabytes, with one place.
-/

namespace RecordPipeline.Report

/-- The value in the first unit that it reaches, or without a unit and places. -/
def scaled (value : Float) (suffix : String) : List (Float × String) → String
  | [] => Decimal.fixed 0 value ++ suffix
  | (size, unit) :: smaller =>
    if value ≥ size then Decimal.fixed 1 (value / size) ++ unit ++ suffix
    else scaled value suffix smaller

def decimalUnits : List (Float × String) := [(1000000.0, "M"), (1000.0, "K")]

def binaryUnits : List (Float × String) := [(1048576.0, " MB"), (1024.0, " KB")]

def countText (n : UInt64) : String := scaled (Float.ofNat n.toNat) "" decimalUnits

def rateText (x : Float) : String := scaled x "/s" decimalUnits

def byteRateText (x : Float) : String :=
  if x < 1024.0 then Decimal.fixed 0 x ++ " B/s" else scaled x "/s" binaryUnits

end RecordPipeline.Report
