/-!
Doubles taken apart. A finite double is a sign, a whole number and a power of two, so that all
decimal questions about it become questions about natural numbers.
-/

namespace RecordPipeline.Decimal

/-- The value of a double. A finite one is the mantissa times two to the exponent. -/
inductive Parts where
  | nan
  | infinite (negative : Bool)
  | finite (negative : Bool) (mantissa : Nat) (exponent : Int)
deriving DecidableEq

/-- The bit in front of a mantissa that is not written down, and the place of the exponent. -/
def leadingBit : Nat := 0x10000000000000

def signBit : Nat := 0x8000000000000000

def Parts.ofBits (bits : Nat) : Parts :=
  let negative := decide (signBit ≤ bits)
  let exponent : Nat := bits / leadingBit % 2048
  let fraction := bits % leadingBit
  if exponent = 2047 then (if fraction = 0 then .infinite negative else .nan)
  else if exponent = 0 then .finite negative fraction (-1074)
  else .finite negative (leadingBit + fraction) (exponent - 1075)

def parts (x : Float) : Parts := Parts.ofBits x.toBits.toNat

/-- The fraction that a power of two times a whole number is: numerator and denominator. -/
def ratio (mantissa : Nat) (exponent : Int) : Nat × Nat :=
  (mantissa * Nat.pow 2 exponent.toNat, Nat.pow 2 (-exponent).toNat)

/-- The whole part of a double. What is not a number counts as zero, and an infinite one as the
bound on its side. -/
def wholePart (lowest highest : Int) (x : Float) : Int :=
  match parts x with
  | .nan => 0
  | .infinite negative => if negative then lowest else highest
  | .finite negative mantissa exponent =>
    let (num, den) := ratio mantissa exponent
    if negative then -(num / den : Nat) else (num / den : Nat)

/-- The whole number nearest to a fraction; of two the even one. -/
def roundHalfEven (num den : Nat) : Nat :=
  let q := num / den
  let r := num % den
  if den < 2 * r || (2 * r = den && q % 2 = 1) then q + 1 else q

end RecordPipeline.Decimal
