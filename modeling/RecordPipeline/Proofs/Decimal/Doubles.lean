import Mathlib
import RecordPipeline.Decimal.Binary

/-!
Doubles and the numbers that they stand for: what is read from their bits, how they are compared,
and how large their quotients are. A quotient by a number that is no power of two reaches a power of
two, which is seen by its exponent, exactly when it does so before it is rounded.
-/

namespace RecordPipeline.Decimal

open Float.Model Float.Model.UnpackedFloat

section Bits

/-- The exponent as it stands in the bits of a double. -/
def exponentField (x : Float) : Nat := x.toBits.toNat / leadingBit % 2048

theorem toNat_unpackExponent (x : Float) :
    (@unpackExponent .binary64 x.toModel.toBits.toBitVec).toNat = exponentField x := by
  rw [unpackExponent_def, BitVec.extractLsb'_toNat, Nat.shiftRight_eq_div_pow]
  rfl

theorem toNat_unpackMantissa (x : Float) :
    (@unpackMantissa .binary64 x.toModel.toBits.toBitVec).toNat = x.toBits.toNat % leadingBit := by
  rw [unpackMantissa_def, BitVec.extractLsb'_toNat, Nat.shiftRight_zero]
  rfl

theorem toNat_unpackSign (x : Float) :
    (@unpackSign .binary64 x.toModel.toBits.toBitVec).toNat = x.toBits.toNat / signBit % 2 := by
  rw [unpackSign_def, BitVec.extractLsb'_toNat, Nat.shiftRight_eq_div_pow]
  rfl

theorem isNegative_eq (x : Float) :
    (Sign.ofBitVec (@unpackSign .binary64 x.toModel.toBits.toBitVec) == .negative) =
      decide (signBit ≤ x.toBits.toNat) := by
  have small : x.toBits.toNat < signBit * 2 := x.toBits.toNat_lt
  have top : x.toBits.toNat / signBit < 2 := Nat.div_lt_of_lt_mul small
  have bit := toNat_unpackSign x
  rw [Nat.mod_eq_of_lt top] at bit
  by_cases negative : signBit ≤ x.toBits.toNat
  · have set : 0 < x.toBits.toNat / signBit := Nat.div_pos negative (by decide)
    have isSet : @unpackSign .binary64 x.toModel.toBits.toBitVec ≠ 0#1 := by
      intro clear
      exact Nat.ne_of_gt set (bit.symm.trans (congrArg BitVec.toNat clear))
    rw [Sign.ofBitVec, if_neg isSet, decide_eq_true negative]
    rfl
  · have clear : x.toBits.toNat / signBit = 0 := Nat.div_eq_of_lt (Nat.lt_of_not_le negative)
    have isClear : @unpackSign .binary64 x.toModel.toBits.toBitVec = 0#1 :=
      BitVec.eq_of_toNat_eq (bit.trans clear)
    rw [Sign.ofBitVec, if_pos isClear, decide_eq_false negative]
    rfl

theorem toNat_one_append {w : Nat} (v : BitVec w) : (1#1 ++ v).toNat = 2 ^ w + v.toNat := by
  rw [BitVec.toNat_append, ← Nat.shiftLeft_add_eq_or_of_lt v.isLt, Nat.shiftLeft_eq]
  simp

/-- The parts of the number that a double stands for. -/
def partsOf : UnpackedFloat → Parts
  | .notANumber => .nan
  | .infinity s => .infinite (s == .negative)
  | .zero s => .finite (s == .negative) 0 (-1074)
  | .finite s m e _ => .finite (s == .negative) m e

theorem partsOf_unpack (b : BitVec Format.binary64.numBits) :
    partsOf (unpack .binary64 b) =
      if (unpackExponent b).toNat = 2047 then
        if (unpackMantissa b).toNat = 0 then .infinite (Sign.ofBitVec (unpackSign b) == .negative)
        else .nan
      else if (unpackExponent b).toNat = 0 then
        .finite (Sign.ofBitVec (unpackSign b) == .negative) (unpackMantissa b).toNat (-1074)
      else
        .finite (Sign.ofBitVec (unpackSign b) == .negative) (leadingBit + (unpackMantissa b).toNat)
          ((unpackExponent b).toNat - 1075) := by
  have largest : unpackExponent b = -1#11 ↔ (unpackExponent b).toNat = 2047 := BitVec.toNat_eq
  have smallest : unpackExponent b = 0#11 ↔ (unpackExponent b).toNat = 0 := BitVec.toNat_eq
  have nothing : unpackMantissa b = 0#52 ↔ (unpackMantissa b).toNat = 0 := BitVec.toNat_eq
  rw [UnpackedFloat.unpack]
  dsimp only
  by_cases special : (unpackExponent b).toNat = 2047
  · rw [if_pos special, if_pos (largest.mpr special)]
    by_cases empty : (unpackMantissa b).toNat = 0
    · rw [if_pos empty, if_pos (nothing.mpr empty), partsOf]
    · rw [if_neg empty, if_neg (mt nothing.mp empty), partsOf]
  · rw [if_neg special, if_neg (mt largest.mp special)]
    by_cases least : (unpackExponent b).toNat = 0
    · rw [if_pos least, if_pos (smallest.mpr least)]
      by_cases empty : (unpackMantissa b).toNat = 0
      · rw [dif_pos (nothing.mpr empty), empty, partsOf]
      · rw [dif_neg (mt nothing.mp empty), partsOf, least]
        rfl
    · rw [if_neg least, if_neg (mt smallest.mp least), partsOf, toNat_one_append]
      rfl

/-- What is read from the bits of a double is the number that it stands for. -/
theorem parts_eq (x : Float) : parts x = partsOf x.toModel.unpack := by
  rw [Float.Model.unpack, partsOf_unpack, isNegative_eq, toNat_unpackExponent,
    toNat_unpackMantissa]
  rfl

/-- A double with the largest exponent is not finite, and all others are. A mantissa has 53 bits, or
fewer with the smallest exponent. -/
theorem parts_cases (x : Float) :
    exponentField x = 2047 ∧ (parts x = .nan ∨ ∃ negative, parts x = .infinite negative) ∨
      exponentField x < 2047 ∧ ∃ negative m e, parts x = .finite negative m e ∧ m < 2 ^ 53 ∧
        (2 ^ 52 ≤ m ∧ e = exponentField x - 1075 ∨ exponentField x = 0 ∧ e = -1074) := by
  have small : exponentField x < 2048 := Nat.mod_lt _ (by decide)
  have fraction : x.toBits.toNat % leadingBit < 2 ^ 52 := Nat.mod_lt _ (by decide)
  rw [parts, Parts.ofBits, ← exponentField]
  by_cases largest : exponentField x = 2047
  · rw [if_pos largest]
    refine .inl ⟨largest, ?_⟩
    split
    · exact .inr ⟨_, rfl⟩
    · exact .inl rfl
  · rw [if_neg largest]
    refine .inr ⟨by omega, ?_⟩
    by_cases smallest : exponentField x = 0
    · rw [if_pos smallest]
      exact ⟨_, _, _, rfl, Nat.lt_trans fraction (by decide), .inr ⟨smallest, rfl⟩⟩
    · rw [if_neg smallest]
      exact ⟨_, _, _, rfl, Nat.add_lt_add_left fraction leadingBit,
        .inl ⟨Nat.le_add_right _ _, rfl⟩⟩

theorem bounds_of_unpack {x : Float} {s : Sign} {m : Nat} {e : Int} {pos : 0 < m}
    (h : x.toModel.unpack = .finite s m e pos) : m < 2 ^ 53 ∧ (2 ^ 52 ≤ m ∨ e = -1074) := by
  have same : parts x = .finite (s == .negative) m e := by rw [parts_eq, h, partsOf]
  rcases parts_cases x with ⟨_, nan | ⟨_, infinite⟩⟩ | ⟨_, _, _, _, finite, short, place⟩
  · cases nan.symm.trans same
  · cases infinite.symm.trans same
  · obtain ⟨_, rfl, rfl⟩ := Parts.finite.inj (finite.symm.trans same)
    exact ⟨short, place.imp And.left And.right⟩

/-- The exponent with which a number is packed into a double. One that is too large for it makes the
number infinite, and a mantissa of fewer bits goes with the smallest one. -/
def packedExponent : UnpackedFloat → Nat
  | .notANumber | .infinity _ => 2047
  | .zero _ => 0
  | .finite _ m e _ =>
    if 2047 ≤ (e + 1075).toNat then 2047 else if m.log2 = 52 then (e + 1075).toNat else 0

theorem unpackExponent_pack (u : UnpackedFloat) :
    (unpackExponent (UnpackedFloat.pack .binary64 u)).toNat = packedExponent u := by
  cases u with
  | notANumber => rfl
  | infinity s => cases s <;> rfl
  | zero s => cases s <;> rfl
  | finite s m e pos =>
      have biased : (e + Format.binary64.exponentBias +
          Format.binary64.mantissaBitsWithoutImplicit).toNat = (e + 1075).toNat := by
        rw [Int.add_assoc]
        rfl
      have bits : m.log2 + 1 = Format.binary64.mantissaBits ↔ m.log2 = 52 :=
        Nat.add_right_cancel_iff
      rw [UnpackedFloat.pack, packedExponent]
      dsimp only
      rw [biased]
      by_cases large : 2047 ≤ (e + 1075).toNat
      · rw [if_pos (Nat.succ_le_succ large), if_pos large]
        cases s <;> rfl
      · rw [if_neg fun large' => large (Nat.le_of_succ_le_succ large'), if_neg large]
        by_cases full : m.log2 = 52
        · rw [if_pos (bits.mpr full), if_pos full, unpackExponent_packComponents,
            BitVec.toNat_ofNat]
          exact Nat.mod_eq_of_lt (Nat.lt_succ_of_lt (Nat.lt_of_not_le large))
        · rw [if_neg (mt bits.mp full), if_neg full, unpackExponent_packComponents]
          rfl

theorem exponentField_div (x y : Float) :
    exponentField (x / y) = packedExponent (div .binary64 x.toModel.unpack y.toModel.unpack) :=
  (toNat_unpackExponent (x / y)).symm.trans (unpackExponent_pack _)

end Bits

section Comparison

theorem lt_iff {x y : Float} : x < y ↔ x.toModel.unpack.lt y.toModel.unpack = true :=
  decide_eq_true_iff

theorem le_iff {x y : Float} : x ≤ y ↔ x.toModel.unpack.le y.toModel.unpack = true :=
  decide_eq_true_iff

/-- Positive numbers are compared by their exponents first. -/
theorem le_finite_iff {m n : Nat} {e f : Int} {pos : 0 < m} {pos' : 0 < n} :
    (UnpackedFloat.finite .positive n f pos').le (.finite .positive m e pos) = true ↔
      f < e ∨ f = e ∧ n ≤ m := by
  change ((compare f e).then (compare n m)).isLE = true ↔ _
  rcases Int.lt_trichotomy f e with less | rfl | greater
  · rw [Int.compare_eq_lt.mpr less]
    exact iff_of_true rfl (.inl less)
  · rw [Int.compare_eq_eq.mpr rfl, Ordering.eq_then, Nat.isLE_compare]
    exact ⟨fun h => .inr ⟨rfl, h⟩, fun h => (h.resolve_left (Int.lt_irrefl f)).2⟩
  · rw [Int.compare_eq_gt.mpr greater]
    exact iff_of_false Bool.false_ne_true (by omega)

end Comparison

section Rounding

/-- Bits that are shifted out are gone from the mantissa. -/
theorem mantissa_shiftRight (em : ExtendedMantissa) (n : Nat) :
    (em >>> n).mantissa = em.mantissa / 2 ^ n := by
  change (n.repeat ExtendedMantissa.shiftRightOne em).mantissa = _
  induction n with
  | zero => exact (Nat.div_one em.mantissa).symm
  | succ n ih =>
      rw [Nat.repeat, ExtendedMantissa.shiftRightOne, ih, Nat.div_div_eq_div_mul, Nat.pow_succ]

/-- Rounding takes the mantissa or the next larger one. -/
theorem roundedMantissa_bounds (em : ExtendedMantissa) :
    em.mantissa ≤ em.roundedMantissa ∧ em.roundedMantissa ≤ em.mantissa + 1 := by
  obtain ⟨m, round, sticky⟩ := em
  cases round <;> cases sticky <;>
    simp only [ExtendedMantissa.roundedMantissa, ExtendedMantissa.accuracy,
      Accuracy.roundToNearestEven]
  all_goals omega

theorem mantissa_ofMantissaAndAccuracy (m : Nat) (accuracy : Accuracy) :
    (ExtendedMantissa.ofMantissaAndAccuracy m accuracy).mantissa = m := by
  cases accuracy with
  | exact => rfl
  | inexact o => cases o <;> rfl

/-- How many bits of a mantissa are too many for a double with its exponent. -/
def surplus (m : Nat) (e : Int) : Nat := (max (m.log2 + 1 + e - 53) (-1074) - e).toNat

/-- A number is rounded when its surplus bits are dropped, and once more if the next larger mantissa
has a surplus again. -/
theorem roundWithAccuracy_eq (s : Sign) (m : Nat) (e : Int) (accuracy : Accuracy) :
    ∃ r, m / 2 ^ surplus m e ≤ r ∧ r ≤ m / 2 ^ surplus m e + 1 ∧
      roundWithAccuracy .binary64 s m e accuracy =
        if h : r / 2 ^ surplus r (e + surplus m e) = 0 then .zero s
        else .finite s (r / 2 ^ surplus r (e + surplus m e))
          (e + surplus m e + surplus r (e + surplus m e)) (Nat.pos_of_ne_zero h) := by
  let em := ExtendedMantissa.ofMantissaAndAccuracy m accuracy >>> surplus m e
  have dropped : em.mantissa = m / 2 ^ surplus m e := by
    rw [mantissa_shiftRight, mantissa_ofMantissaAndAccuracy]
  obtain ⟨low, high⟩ := roundedMantissa_bounds em
  rw [dropped] at low high
  refine ⟨em.roundedMantissa, low, high, ?_⟩
  have again : (ExtendedMantissa.ofMantissaAndAccuracy em.roundedMantissa .exact >>>
      surplus em.roundedMantissa (e + surplus m e)).mantissa =
        em.roundedMantissa / 2 ^ surplus em.roundedMantissa (e + surplus m e) := by
    rw [mantissa_shiftRight, mantissa_ofMantissaAndAccuracy]
  simp only [← again]
  rfl

theorem log2_lt_of_lt {m n : Nat} (positive : 0 < n) (h : m < 2 ^ n) : m.log2 < n := by
  by_cases nothing : m = 0
  · subst nothing
    exact positive
  · exact (Nat.log2_lt nothing).mpr h

/-- No more than 53 bits are left of a mantissa. -/
theorem div_surplus_lt (m : Nat) (e : Int) : m / 2 ^ surplus m e < 2 ^ 53 := by
  rw [Nat.div_lt_iff_lt_mul (Nat.two_pow_pos _), ← Nat.pow_add]
  refine Nat.lt_of_lt_of_le Nat.lt_log2_self (Nat.pow_le_pow_right Nat.two_pos ?_)
  rw [surplus]
  omega

variable {m : Nat} {e k : Int}

/-- Of a long mantissa 53 bits are left. -/
theorem surplus_of_long (long : 2 ^ 52 ≤ m) (normal : -1022 ≤ m.log2 + e) :
    surplus m e = m.log2 - 52 ∧ 2 ^ 52 ≤ m / 2 ^ surplus m e := by
  have nonzero : m ≠ 0 := Nat.ne_of_gt (Nat.lt_of_lt_of_le (Nat.two_pow_pos 52) long)
  have bits : 52 ≤ m.log2 := (Nat.le_log2 nonzero).mpr long
  have dropped : surplus m e = m.log2 - 52 := by
    rw [surplus]
    omega
  refine ⟨dropped, ?_⟩
  rw [Nat.le_div_iff_mul_le (Nat.two_pow_pos _), ← Nat.pow_add, dropped, Nat.add_sub_cancel' bits]
  exact Nat.log2_self_le nonzero

/-- What is below the largest double with an exponent is rounded to none with a larger exponent. -/
theorem packedExponent_round_le (s : Sign) (accuracy : Accuracy) (normal : -1074 ≤ k)
    (fits : k < 972) (unit : e ≤ k) (below : m < (2 ^ 53 - 1) * 2 ^ (k - e).toNat) :
    packedExponent (roundWithAccuracy .binary64 s m e accuracy) ≤ (k + 1075).toNat := by
  obtain ⟨r, low, high, same⟩ := roundWithAccuracy_eq s m e accuracy
  have short : m.log2 < 53 + (k - e).toNat := by
    refine log2_lt_of_lt (Nat.add_pos_left (by decide) _) (Nat.lt_of_lt_of_le below ?_)
    rw [Nat.pow_add]
    exact Nat.mul_le_mul_right _ (Nat.sub_le _ _)
  have first : e + surplus m e ≤ k := by
    rw [surplus]
    omega
  have second : e + surplus m e + surplus r (e + surplus m e) ≤ k := by
    by_cases last : e + surplus m e = k
    · have whole : m / 2 ^ surplus m e < 2 ^ 53 - 1 := by
        have all : (k - e).toNat = surplus m e := by omega
        rw [all] at below
        exact (Nat.div_lt_iff_lt_mul (Nat.two_pow_pos _)).mpr below
      have bits : r.log2 < 53 := log2_lt_of_lt (by decide) (by omega)
      rw [last, surplus]
      omega
    · have cut := div_surplus_lt m e
      have bits : r.log2 < 54 := log2_lt_of_lt (by decide) (by omega)
      generalize surplus m e = n at *
      rw [surplus]
      omega
  rw [same]
  split
  · exact Nat.zero_le _
  · rw [packedExponent]
    split
    · omega
    · split <;> omega

/-- What reaches a power of two that a double can be is rounded to a double that reaches it. -/
theorem le_packedExponent_round (s : Sign) (accuracy : Accuracy) (normal : -1074 ≤ k)
    (long : 2 ^ 52 ≤ m) (reached : k + 52 ≤ m.log2 + e) :
    min (k + 1075).toNat 2047 ≤ packedExponent (roundWithAccuracy .binary64 s m e accuracy) := by
  obtain ⟨r, low, _, same⟩ := roundWithAccuracy_eq s m e accuracy
  obtain ⟨first, kept⟩ := surplus_of_long long (e := e) (by omega)
  have bits : 52 ≤ m.log2 := (Nat.le_log2 (by omega)).mpr long
  have longer : 2 ^ 52 ≤ r := Nat.le_trans kept low
  have bits' : 52 ≤ r.log2 := (Nat.le_log2 (by omega)).mpr longer
  obtain ⟨_, kept'⟩ := surplus_of_long longer (e := e + surplus m e) (by omega)
  have cut := div_surplus_lt r (e + surplus m e)
  rw [same, dif_neg (by omega), packedExponent]
  have full : (r / 2 ^ surplus r (e + surplus m e)).log2 = 52 :=
    (Nat.log2_eq_iff (by omega)).mpr ⟨kept', cut⟩
  rw [if_pos full]
  split <;> omega

end Rounding

section Division

/-- The exponent with which a quotient by a full mantissa is computed, before it is rounded. -/
def quotientExponent (m : Nat) (e f : Int) : Int := min (e - f) (max (m.log2 + e - f - 105) (-1074))

/-- The mantissa of a quotient, before it is rounded. -/
def quotientMantissa (m n : Nat) (e f : Int) : Nat :=
  m * 2 ^ (e - f - quotientExponent m e f).toNat / n

variable {m n : Nat} {e f k : Int}

theorem div_eq (pos : 0 < m) (pos' : 0 < n) (e f : Int) (full : n.log2 = 52) :
    ∃ accuracy, div .binary64 (.finite .positive m e pos) (.finite .positive n f pos') =
      roundWithAccuracy .binary64 .positive (quotientMantissa m n e f) (quotientExponent m e f)
        accuracy := by
  have total : Format.binary64.targetExponent (totalExponent m e - totalExponent n f) =
      max (m.log2 + e - f - 105) (-1074) := by
    have difference : totalExponent m e - totalExponent n f - 53 = m.log2 + e - f - 105 := by
      rw [totalExponent, totalExponent, full]
      omega
    rw [← difference]
    rfl
  rw [UnpackedFloat.div, divCore]
  dsimp only
  rw [total, Nat.shiftLeft_eq]
  exact ⟨_, rfl⟩

theorem quotientMantissa_lt (unit : quotientExponent m e f ≤ k - 53) (short : m < 2 ^ 53)
    (low : 2 ^ 52 < n) (high : n < 2 ^ 53) (less : e < f + k ∨ e = f + k ∧ m < n) :
    quotientMantissa m n e f < (2 ^ 53 - 1) * 2 ^ (k - 53 - quotientExponent m e f).toNat := by
  rw [quotientMantissa, Nat.div_lt_iff_lt_mul (by omega), Nat.mul_right_comm _ _ n]
  rcases less with before | ⟨rfl, smaller⟩
  · have shift : (e - f - quotientExponent m e f).toNat ≤
        52 + (k - 53 - quotientExponent m e f).toNat := by omega
    refine Nat.lt_of_le_of_lt (Nat.mul_le_mul_left m (Nat.pow_le_pow_right Nat.two_pos shift)) ?_
    rw [Nat.pow_add, ← Nat.mul_assoc]
    exact Nat.mul_lt_mul_of_pos_right (by omega) (Nat.two_pow_pos _)
  · have shift : (f + k - f - quotientExponent m (f + k) f).toNat =
        53 + (k - 53 - quotientExponent m (f + k) f).toNat := by omega
    rw [shift, Nat.pow_add, ← Nat.mul_assoc]
    exact Nat.mul_lt_mul_of_pos_right (by omega) (Nat.two_pow_pos _)

theorem le_quotientMantissa (unit : quotientExponent m e f = e - f - 53) (long : 2 ^ 52 ≤ m)
    (pos : 0 < n) (high : n < 2 ^ 53) (reached : f + k < e ∨ f + k = e ∧ n ≤ m) :
    2 ^ 52 ≤ quotientMantissa m n e f ∧
      k ≤ (quotientMantissa m n e f).log2 + quotientExponent m e f := by
  have shift : (e - f - (e - f - 53)).toNat = 53 := by omega
  rw [quotientMantissa, unit, shift]
  have kept : 2 ^ 52 ≤ m * 2 ^ 53 / n := (Nat.le_div_iff_mul_le pos).mpr (by omega)
  refine ⟨kept, ?_⟩
  rcases reached with above | ⟨rfl, reaches⟩
  · have bits : 52 ≤ (m * 2 ^ 53 / n).log2 := (Nat.le_log2 (by omega)).mpr kept
    omega
  · have kept' : 2 ^ 53 ≤ m * 2 ^ 53 / n := (Nat.le_div_iff_mul_le pos).mpr (by omega)
    have bits : 53 ≤ (m * 2 ^ 53 / n).log2 := (Nat.le_log2 (by omega)).mpr kept'
    omega

/-- A quotient by a number that is no power of two reaches a power of two exactly when the number
that is divided reaches the product of both. -/
theorem le_packedExponent_div_iff (pos : 0 < m) (pos' : 0 < n) (short : m < 2 ^ 53)
    (normal : 2 ^ 52 ≤ m ∨ e = -1074) (low : 2 ^ 52 < n) (high : n < 2 ^ 53) (small : -1021 ≤ k)
    (large : k ≤ 1023) (inside : -1074 < f + k) :
    (k + 1023).toNat ≤
        packedExponent (div .binary64 (.finite .positive m e pos) (.finite .positive n f pos')) ↔
      f + k < e ∨ f + k = e ∧ n ≤ m := by
  have full : n.log2 = 52 := (Nat.log2_eq_iff (by omega)).mpr ⟨Nat.le_of_lt low, high⟩
  obtain ⟨accuracy, same⟩ := div_eq pos pos' e f full
  rw [same]
  constructor
  · intro reached
    refine Decidable.byContradiction fun less => ?_
    have bits : m.log2 < 53 := log2_lt_of_lt (by decide) short
    have unit : quotientExponent m e f ≤ k - 53 := by
      rw [quotientExponent]
      omega
    have below := quotientMantissa_lt unit short low high (by omega)
    have rounded := packedExponent_round_le .positive accuracy (by omega) (by omega) unit below
    omega
  · intro reached
    have long : 2 ^ 52 ≤ m := by omega
    have bits : m.log2 = 52 := (Nat.log2_eq_iff (by omega)).mpr ⟨long, short⟩
    have unit : quotientExponent m e f = e - f - 53 := by
      rw [quotientExponent, bits]
      omega
    obtain ⟨kept, above⟩ := le_quotientMantissa unit long pos' high reached
    rw [← Int.sub_add_cancel k 52] at above
    have rounded := le_packedExponent_round .positive accuracy (by omega) kept above
    omega

end Division

end RecordPipeline.Decimal
