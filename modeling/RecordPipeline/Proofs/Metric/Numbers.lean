import RecordPipeline.Metric.Bag
import RecordPipeline.Proofs.Decimal.Values
import RecordPipeline.Proofs.Metric.Bags

/-!
What plain numbers are as measurements. Counters and deltas take the whole part of a number. A
number of milliseconds is a time, in whole nanoseconds, if it does not reach two to the 64 seconds;
one that reaches this bound has no time at all.
-/

namespace RecordPipeline.Bag

open Decimal Float.Model

section Times

/-- Two to the 64 seconds, in milliseconds. -/
def timeLimit : Float := 18446744073709551616000.0

/-- The time of a number of milliseconds: the nanoseconds nearest to the seconds, which are a double
themselves. Less than zero counts as zero. -/
def IsTime (milliseconds : Float) (t : Nat) : Prop :=
  ∃ seconds, rational? (greater milliseconds 0.0 / 1000.0) = some seconds ∧
    |(t : ℚ) - seconds * 1000000000| ≤ 1 / 2

/-- A number that is less than zero, or is none, is taken for zero. -/
def nonnegative : UnpackedFloat → UnpackedFloat
  | .finite .positive m e pos => .finite .positive m e pos
  | .infinity .positive => .infinity .positive
  | .zero s => .zero s
  | _ => .zero .positive

theorem isNonnegative_nonnegative (u : UnpackedFloat) : IsNonnegative (nonnegative u) := by
  cases u with
  | notANumber | zero s => trivial
  | infinity s | finite s m e pos => cases s <;> trivial

theorem unpack_greater_zero (x : Float) :
    (greater x 0.0).toModel.unpack = nonnegative x.toModel.unpack := by
  have zero : (0.0 : Float).toModel.unpack = .zero .positive := rfl
  have nan : x.isNaN = x.toModel.unpack.isNaN := rfl
  rw [greater, nan]
  simp only [lt_iff, zero]
  cases same : x.toModel.unpack with
  | notANumber => exact zero
  | infinity s =>
      cases s with
      | negative => exact zero
      | positive => exact same
  | zero s => exact same
  | finite s m e pos =>
      cases s with
      | negative => exact zero
      | positive => exact same

theorem unpack_thousand : (1000.0 : Float).toModel.unpack =
    .finite .positive 8796093022208000 (-43) (by decide) := rfl

theorem seconds_nonneg (milliseconds : Float) :
    ∀ q ∈ rational? (greater milliseconds 0.0 / 1000.0), 0 ≤ q := by
  apply rationalOf_pack_nonneg
  rw [unpack_greater_zero, unpack_thousand]
  exact (isNonnegative_nonnegative _).div (by decide)

/-- Whether there is a time depends on the exponent of the seconds alone. -/
theorem nanoseconds?_cases (milliseconds : Float) :
    1087 ≤ exponentField (greater milliseconds 0.0 / 1000.0) ∧
        nanoseconds? milliseconds = .error .timeOutOfRange ∨
      exponentField (greater milliseconds 0.0 / 1000.0) < 1087 ∧
        ∃ t, nanoseconds? milliseconds = .ok t ∧ IsTime milliseconds t := by
  have nonneg := seconds_nonneg milliseconds
  unfold nanoseconds? IsTime
  generalize greater milliseconds 0.0 / 1000.0 = seconds at nonneg ⊢
  rcases parts_cases seconds with ⟨largest, nan | ⟨negative, infinite⟩⟩ |
    ⟨_, negative, m, e, finite, short, place⟩
  · rw [nan]
    exact .inl ⟨by omega, rfl⟩
  · rw [infinite]
    exact .inl ⟨by omega, rfl⟩
  · rw [finite]
    have positive : 0 < (ratio m e).2 := Nat.two_pow_pos _
    have nearest := roundHalfEven_nearest ((ratio m e).1 * Time.second) positive
    dsimp only
    generalize rounded : roundHalfEven ((ratio m e).1 * Time.second) (ratio m e).2 = t at nearest ⊢
    by_cases reached : 1087 ≤ exponentField seconds
    · refine .inl ⟨reached, if_neg ?_⟩
      have large : 12 ≤ e.toNat := by omega
      have whole : (ratio m e).2 = 1 := by
        have noDigits : (-e).toNat = 0 := by omega
        rw [ratio, noDigits]
      have many : 2 ^ 52 * 2 ^ 12 ≤ (ratio m e).1 :=
        Nat.mul_le_mul (by omega) (Nat.pow_le_pow_right Nat.two_pos large)
      have above := nearest.1
      rw [whole, Nat.mul_one] at above
      unfold Time.second UInt64.size at *
      omega
    · refine .inr ⟨Nat.lt_of_not_le reached, t, if_pos ?_, ?_⟩
      · have small : e.toNat ≤ 11 := by omega
        have few : (ratio m e).1 < 2 ^ 53 * 2 ^ 11 :=
          Nat.mul_lt_mul_of_lt_of_le short (Nat.pow_le_pow_right Nat.two_pos small)
            (Nat.two_pow_pos 11)
        exact Nat.lt_of_le_of_lt (nearest.le positive) (Nat.mul_lt_mul_of_pos_right few (by decide))
      · obtain ⟨q, value, size⟩ := rational?_of_parts finite
        refine ⟨q, value, ?_⟩
        have exact' : q = ((ratio m e).1 : ℚ) / (ratio m e).2 := by
          rw [ratio_eq, ← size, abs_of_nonneg (nonneg q value)]
        have close := nearest.abs_sub_le positive
        rw [Nat.cast_mul, mul_div_right_comm, ← exact'] at close
        exact close

/-- A number has no time exactly when it reaches the bound. -/
theorem reaches_limit_iff (milliseconds : Float) :
    1087 ≤ exponentField (greater milliseconds 0.0 / 1000.0) ↔ timeLimit ≤ milliseconds := by
  have bound : timeLimit.toModel.unpack =
      .finite .positive 8796093022208000 21 (by decide) := rfl
  rw [le_iff, bound, exponentField_div, unpack_greater_zero, unpack_thousand]
  cases same : milliseconds.toModel.unpack with
  | notANumber => exact iff_of_false (by decide) (by decide)
  | infinity s =>
      cases s with
      | negative => exact iff_of_false (by decide) (by decide)
      | positive => exact iff_of_true (by decide) (by decide)
  | zero s => cases s <;> exact iff_of_false (by decide) (by decide)
  | finite s m e pos =>
      cases s with
      | negative =>
          have zero : packedExponent (UnpackedFloat.div .binary64
              (nonnegative (.finite .negative m e pos))
              (.finite .positive 8796093022208000 (-43) (by decide))) = 0 := rfl
          rw [zero]
          exact iff_of_false (by decide) Bool.false_ne_true
      | positive =>
          obtain ⟨short, normal⟩ := bounds_of_unpack same
          rw [le_finite_iff]
          exact le_packedExponent_div_iff (f := -43) (k := 64) pos (by decide) short normal
            (by decide) (by decide) (by decide) (by decide) (by decide)

/-- A number of milliseconds has a time unless it reaches the bound. -/
theorem nanoseconds?_of_le {milliseconds : Float} (h : timeLimit ≤ milliseconds) :
    nanoseconds? milliseconds = .error .timeOutOfRange := by
  rcases nanoseconds?_cases milliseconds with ⟨_, refused⟩ | ⟨below, _⟩
  · exact refused
  · exact absurd ((reaches_limit_iff milliseconds).mpr h) (Nat.not_le_of_lt below)

theorem nanoseconds?_of_not_le {milliseconds : Float} (h : ¬timeLimit ≤ milliseconds) :
    ∃ t, nanoseconds? milliseconds = .ok t ∧ IsTime milliseconds t := by
  rcases nanoseconds?_cases milliseconds with ⟨reached, _⟩ | ⟨_, taken⟩
  · exact absurd ((reaches_limit_iff milliseconds).mp reached) h
  · exact taken

end Times

section Counts

/-- What is less than zero is nothing for a counter already, without being raised to zero. -/
theorem toUnsigned_greater_zero (value : Float) :
    toUnsigned (greater value 0.0) = toUnsigned value := by
  rw [toUnsigned, toUnsigned, wholePart_eq, wholePart_eq, unpack_greater_zero]
  cases value.toModel.unpack with
  | notANumber => rfl
  | infinity s => cases s <;> rfl
  | zero s => rfl
  | finite s m e pos =>
      cases s with
      | negative => exact congrArg UInt64.ofNatClamp (Int.toNat_neg_natCast _).symm
      | positive => rfl

theorem countsAs_toUnsigned (value : Float) :
    CountsAs 0 (UInt64.size - 1) value (toUnsigned value).toNat := by
  have counted := countsAs_wholePart (le_refl 0) (by decide : (0 : ℤ) ≤ UInt64.size - 1) value
  have same : max 0 (min (UInt64.size - 1 : ℤ) (wholePart 0 (UInt64.size - 1) value)) =
      (toUnsigned value).toNat := by
    rw [toUnsigned, toNat_ofNatClamp]
    unfold UInt64.size
    omega
  rwa [same] at counted

theorem toInt_ofIntClamp (n : Int) :
    (Int64.ofIntClamp n).toInt = max Int64.minValue.toInt (min Int64.maxValue.toInt n) := by
  have ends : Int64.minValue.toInt ≤ Int64.maxValue.toInt := by decide
  rw [Int64.ofIntClamp]
  split
  · split
    · rw [Int64.toInt_ofIntLE]
      omega
    · omega
  · omega

theorem countsAs_toSigned (value : Float) :
    CountsAs Int64.minValue.toInt Int64.maxValue.toInt value (toSigned value).toInt := by
  rw [toSigned, toInt_ofIntClamp]
  exact countsAs_wholePart (by decide) (by decide) value

end Counts

end RecordPipeline.Bag
