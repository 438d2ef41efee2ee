import RecordPipeline.Decimal.Binary

/-!
The fewest decimal digits that read back as a given double. Grids of decimal numbers with one
digit, two digits and so on are searched in turn; the first grid with a point among the reals that
round to the double gives the digits, and of two points the nearer one is taken.
-/

namespace RecordPipeline.Decimal

/-- A whole number times a power of ten. -/
structure Digits where
  digits : Nat
  exponent : Int
deriving DecidableEq

/-- The exponent of the first decimal digit of a positive fraction. -/
def leadingExponent (num den : Nat) : Int :=
  if den ≤ num then ((toString (num / den)).length : Int) - 1
  else
    let n := (toString (den / num)).length
    if den ≤ num * Nat.pow 10 (n - 1) then 1 - (n : Int) else -(n : Int)

/-- A point of the grid with a given number of digits, if one rounds to the double whose value is
four times the mantissa over the denominator; the reals that do lie between `low` and `high`, which
belong to them when `closed`. -/
def gridPoint? (low value high den : Nat) (closed : Bool) (step : Int) : Option Digits :=
  let scale := Nat.pow 10 (-step).toNat
  let unit := den * Nat.pow 10 step.toNat
  let inside (d : Nat) : Bool :=
    if closed then low * scale ≤ d * unit && d * unit ≤ high * scale
    else low * scale < d * unit && d * unit < high * scale
  let below := value * scale / unit
  let above := below + 1
  match inside below, inside above with
  | true, true =>
    let d := roundHalfEven (value * scale) unit
    some ⟨d, step⟩
  | true, false => some ⟨below, step⟩
  | false, true => some ⟨above, step⟩
  | false, false => none

/-- Searches the grids with the next number of digits, as long as there is fuel. -/
def searchGrids (low value high den : Nat) (closed : Bool) (lead : Int) :
    Nat → Nat → Digits
  | 0, n => ⟨value * Nat.pow 10 (n - 1 - lead).toNat / den, lead - n + 1⟩
  | fuel + 1, n =>
    match gridPoint? low value high den closed (lead - n + 1) with
    | some d => d
    | none => searchGrids low value high den closed lead fuel (n + 1)

/-- Without zeros at the end of the digits. -/
def Digits.strip : Nat → Digits → Digits
  | 0, d => d
  | fuel + 1, d =>
    if d.digits ≠ 0 ∧ d.digits % 10 = 0 then strip fuel ⟨d.digits / 10, d.exponent + 1⟩ else d

/-- The fewest digits that read back as the positive double with this mantissa and exponent. -/
def shortest (mantissa : Nat) (exponent : Int) : Digits :=
  let (scale, den) := ratio 1 (exponent - 2)
  let value := 4 * mantissa * scale
  let high := (4 * mantissa + 2) * scale
  let low := if mantissa = leadingBit ∧ exponent ≠ -1074 then (4 * mantissa - 1) * scale
    else (4 * mantissa - 2) * scale
  let lead := leadingExponent value den
  (searchGrids low value high den (mantissa % 2 = 0) lead 17 1).strip 20

/-- How a number with a point or an exponent is laid out: up to which place of the point the
digits are written out, and from how many zeros behind the point on they are not. -/
structure NumberLayout where
  widest : Int
  deepest : Int
  exponentSign : String

def spread (f : NumberLayout) (d : Digits) : String :=
  let text := toString d.digits
  let point : Int := text.length + d.exponent
  let zeros (n : Int) : String := String.ofList (List.replicate n.toNat '0')
  if 0 ≤ d.exponent ∧ point ≤ f.widest then text ++ zeros d.exponent ++ ".0"
  else if 0 < point ∧ point ≤ f.widest then
    String.ofList (text.toList.take point.toNat) ++ "."
      ++ String.ofList (text.toList.drop point.toNat)
  else if f.deepest < point ∧ point ≤ 0 then "0." ++ zeros (-point) ++ text
  else
    let power := point - 1
    let power := if power < 0 then toString power else f.exponentSign ++ toString power
    match text.toList with
    | [single] => String.ofList [single] ++ "e" ++ power
    | first :: rest => String.ofList (first :: '.' :: rest) ++ "e" ++ power
    | [] => ""

end RecordPipeline.Decimal
