import RecordPipeline.Decimal.Binary

/-!
Decimal numbers read as the nearest double. A number has an optional sign and digits with at most
one point among or around them, then an optional power of ten; infinity and not-a-number have their
names, in any case of letters.
-/

namespace RecordPipeline.Decimal

/-- The double nearest to digits times a power of ten. Numbers far outside of the range of doubles
need no arithmetic. -/
def nearest (digits : Nat) (exponent : Int) : Float :=
  let lead : Int := (toString digits).length + exponent
  if digits = 0 ∨ lead < -330 then 0.0
  else if 310 < lead then 1.0 / 0.0
  else Float.ofScientific digits (decide (exponent < 0)) exponent.natAbs

def digitsValue (ds : List Char) : Nat :=
  ds.foldl (fun n c => 10 * n + (c.toNat - '0'.toNat)) 0

/-- The power of ten at the end of a number: nothing, or an exponent with at least one digit. -/
def readExponent? : List Char → Option Int
  | [] => some 0
  | e :: rest =>
    if e = 'e' ∨ e = 'E' then
      let (negative, ds) := match rest with
        | '-' :: ds => (true, ds)
        | '+' :: ds => (false, ds)
        | ds => (false, ds)
      if ds ≠ [] ∧ ds.all Char.isDigit then
        some (if negative then -(digitsValue ds : Int) else digitsValue ds)
      else none
    else none

/-- A number without a sign. -/
def readUnsigned? (s : List Char) : Option Float :=
  let name := s.map Char.toLower
  if name = "inf".toList ∨ name = "infinity".toList then some (1.0 / 0.0)
  else if name = "nan".toList then some (0.0 / 0.0)
  else
    let whole := s.takeWhile Char.isDigit
    let rest := s.dropWhile Char.isDigit
    let (fraction, tail) := match rest with
      | '.' :: after => (after.takeWhile Char.isDigit, after.dropWhile Char.isDigit)
      | _ => ([], rest)
    if whole = [] ∧ fraction = [] then none
    else (readExponent? tail).map fun e =>
      nearest (digitsValue (whole ++ fraction)) (e - fraction.length)

def read? : List Char → Option Float
  | '-' :: rest => (readUnsigned? rest).map fun x => -x
  | '+' :: rest => readUnsigned? rest
  | rest => readUnsigned? rest

end RecordPipeline.Decimal
