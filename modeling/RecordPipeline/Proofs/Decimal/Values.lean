import RecordPipeline.Proofs.Decimal.Doubles

/-!
The rational numbers that doubles stand for, and the whole numbers that are taken for them: the
whole part, which stays within a range, and the nearest one.
-/

namespace RecordPipeline.Decimal

open Float.Model Float.Model.UnpackedFloat

/-- The rational number that is meant, if it is a finite one. -/
def rationalOf : UnpackedFloat → Option ℚ
  | .zero _ => some 0
  | .finite s m e _ => some ((s.apply m : ℤ) * 2 ^ e)
  | _ => none

/-- The rational number that a double stands for, if it is finite. -/
def rational? (x : Float) : Option ℚ := rationalOf x.toModel.unpack

theorem ratio_eq (m : Nat) (e : Int) : ((ratio m e).1 : ℚ) / (ratio m e).2 = m * 2 ^ e := by
  have powers (n : Nat) : ((Nat.pow 2 n : Nat) : ℚ) = 2 ^ n := by exact_mod_cast rfl
  rw [ratio, Nat.cast_mul, powers, powers]
  rcases Int.le_total 0 e with up | down
  · obtain ⟨n, rfl⟩ := Int.eq_ofNat_of_zero_le up
    have none : (-(n : ℤ)).toNat = 0 := by omega
    rw [none, Int.toNat_natCast, pow_zero, div_one, zpow_natCast]
  · obtain ⟨n, same⟩ := Int.eq_ofNat_of_zero_le (Int.neg_nonneg_of_nonpos down)
    obtain rfl : e = -(n : ℤ) := by omega
    have none : (-(n : ℤ)).toNat = 0 := by omega
    rw [none, Int.neg_neg, Int.toNat_natCast, pow_zero, mul_one, zpow_neg, zpow_natCast,
      div_eq_mul_inv]

theorem floor_ratio (m : Nat) (e : Int) :
    ⌊(m : ℚ) * 2 ^ e⌋ = ((ratio m e).1 / (ratio m e).2 : Nat) := by
  rw [← ratio_eq]
  exact Rat.floor_natCast_div_natCast _ _

theorem rational?_of_parts {x : Float} {negative : Bool} {m : Nat} {e : Int}
    (h : parts x = .finite negative m e) : ∃ q, rational? x = some q ∧ |q| = (m : ℚ) * 2 ^ e := by
  have positive (n : Nat) : 0 ≤ (n : ℚ) * 2 ^ e := by positivity
  rw [parts_eq] at h
  rw [rational?]
  cases same : x.toModel.unpack with
  | notANumber | infinity s =>
      rw [same] at h
      cases h
  | zero s =>
      rw [same] at h
      obtain ⟨_, rfl, _⟩ := Parts.finite.inj h
      exact ⟨0, rfl, by rw [abs_zero, Nat.cast_zero, zero_mul]⟩
  | finite s n f pos =>
      rw [same] at h
      obtain ⟨_, rfl, rfl⟩ := Parts.finite.inj h
      refine ⟨_, rfl, ?_⟩
      cases s with
      | positive => rw [Sign.apply, Int.cast_natCast, abs_of_nonneg (positive n)]
      | negative =>
          rw [Sign.apply, Int.cast_neg, Int.cast_natCast, neg_mul, abs_neg,
            abs_of_nonneg (positive n)]

section Signs

/-- A number that is not below zero, or none. -/
def IsNonnegative : UnpackedFloat → Prop
  | .infinity s | .finite s _ _ _ => s = .positive
  | .notANumber | .zero _ => True

theorem rationalOf_unpack_nonneg {b : BitVec Format.binary64.numBits} (h : unpackSign b = 0#1) :
    ∀ q ∈ rationalOf (unpack .binary64 b), 0 ≤ q := by
  have sign : Sign.ofBitVec (unpackSign b) = .positive := by rw [h]; rfl
  have finite {m : Nat} {e : Int} {pos : 0 < m} :
      ∀ q ∈ rationalOf (.finite .positive m e pos), 0 ≤ q := by
    intro q value
    obtain rfl := Option.some.inj value
    rw [Sign.apply]
    positivity
  rw [UnpackedFloat.unpack]
  dsimp only
  rw [sign]
  split
  · split <;> exact nofun
  · split
    · split
      · intro q value
        exact le_of_eq (Option.some.inj value)
      · exact finite
    · exact finite

theorem unpackSign_pack {s : Sign} {m : Nat} {e : Int} {pos : 0 < m} :
    unpackSign (UnpackedFloat.pack .binary64 (.finite s m e pos)) = s.toBitVec := by
  rw [UnpackedFloat.pack]
  dsimp only
  split
  · exact unpackSign_packComponents _ _ _
  · split <;> exact unpackSign_packComponents _ _ _

/-- A number that is not below zero is not below it as a double. -/
theorem rationalOf_pack_nonneg {u : UnpackedFloat} (h : IsNonnegative u) :
    ∀ q ∈ rationalOf (unpack .binary64 (UnpackedFloat.pack .binary64 u)), 0 ≤ q := by
  cases u with
  | notANumber => exact rationalOf_unpack_nonneg rfl
  | infinity s =>
      obtain rfl := h
      exact rationalOf_unpack_nonneg rfl
  | zero s =>
      rw [UnpackedFloat.pack, unpack_packedZero]
      intro q value
      exact le_of_eq (Option.some.inj value)
  | finite s m e pos =>
      obtain rfl := h
      exact rationalOf_unpack_nonneg unpackSign_pack

theorem isNonnegative_round (m : Nat) (e : Int) (accuracy : Accuracy) :
    IsNonnegative (roundWithAccuracy .binary64 .positive m e accuracy) := by
  obtain ⟨r, _, _, same⟩ := roundWithAccuracy_eq .positive m e accuracy
  rw [same]
  split <;> trivial

theorem IsNonnegative.div {u : UnpackedFloat} (h : IsNonnegative u) {n : Nat} {f : Int}
    (pos : 0 < n) :
    IsNonnegative (UnpackedFloat.div .binary64 u (.finite .positive n f pos)) := by
  cases u with
  | notANumber | zero s => trivial
  | infinity s =>
      obtain rfl := h
      rfl
  | finite s m e pos' =>
      obtain rfl := h
      exact isNonnegative_round _ _ _

end Signs

section Counts

/-- What is not a number counts as zero, an infinite number as the end of the range on its side, and
any other one as its whole part, within the range. -/
inductive CountsAs (lowest highest : ℤ) (x : Float) : ℤ → Prop
  | nan (h : x.isNaN = true) : CountsAs lowest highest x 0
  | below (h : x.isInf = true) (negative : x < 0.0) : CountsAs lowest highest x lowest
  | above (h : x.isInf = true) (positive : 0.0 < x) : CountsAs lowest highest x highest
  | finite {q : ℚ} (h : rational? x = some q) :
      CountsAs lowest highest x (max lowest (min highest (SignType.sign q * ⌊|q|⌋)))

/-- The whole part of the number that a double stands for. -/
theorem wholePart_eq (lowest highest : Int) (x : Float) :
    wholePart lowest highest x = match x.toModel.unpack with
      | .notANumber | .zero _ => 0
      | .infinity .negative => lowest
      | .infinity .positive => highest
      | .finite s m e _ => s.apply ((ratio m e).1 / (ratio m e).2 : Nat) := by
  rw [wholePart, parts_eq]
  cases x.toModel.unpack with
  | notANumber => rfl
  | infinity s => cases s <;> rfl
  | zero s =>
      have nothing : (ratio 0 (-1074)).1 / (ratio 0 (-1074)).2 = 0 := by
        rw [ratio, Nat.zero_mul, Nat.zero_div]
      simp only [partsOf, nothing, Int.natCast_zero, Int.neg_zero, ite_self]
  | finite s m e pos => cases s <;> rfl

theorem sign_mul_floor {m : Nat} (pos : 0 < m) (s : Sign) (e : Int) :
    SignType.sign (((s.apply m : ℤ) : ℚ) * 2 ^ e) * ⌊|((s.apply m : ℤ) : ℚ) * 2 ^ e|⌋ =
      s.apply ((ratio m e).1 / (ratio m e).2 : Nat) := by
  have positive : 0 < (m : ℚ) * 2 ^ e := by positivity
  cases s with
  | positive =>
      rw [Sign.apply, Sign.apply, Int.cast_natCast, sign_pos positive, abs_of_pos positive,
        floor_ratio, SignType.coe_one, one_mul]
  | negative =>
      rw [Sign.apply, Sign.apply, Int.cast_neg, Int.cast_natCast, neg_mul, abs_neg,
        sign_neg (neg_neg_of_pos positive), abs_of_pos positive, floor_ratio,
        SignType.coe_neg_one, neg_one_mul]

theorem countsAs_wholePart {lowest highest : ℤ} (low : lowest ≤ 0) (high : 0 ≤ highest)
    (x : Float) :
    CountsAs lowest highest x (max lowest (min highest (wholePart lowest highest x))) := by
  have zero : (0.0 : Float).toModel.unpack = .zero .positive := rfl
  have nan : x.isNaN = x.toModel.unpack.isNaN := rfl
  have inf : x.isInf = x.toModel.unpack.isInf := rfl
  rw [wholePart_eq]
  cases same : x.toModel.unpack with
  | notANumber =>
      rw [min_eq_right high, max_eq_right low]
      exact .nan (nan.trans (congrArg UnpackedFloat.isNaN same))
  | infinity s =>
      have isInf : x.isInf = true := inf.trans (congrArg UnpackedFloat.isInf same)
      cases s with
      | negative =>
          dsimp only
          rw [min_eq_right (low.trans high), max_self]
          exact .below isInf (by rw [lt_iff, zero, same]; rfl)
      | positive =>
          dsimp only
          rw [min_self, max_eq_right (low.trans high)]
          exact .above isInf (by rw [lt_iff, zero, same]; rfl)
  | zero s =>
      have value : rational? x = some 0 := by rw [rational?, same, rationalOf]
      have counted : CountsAs lowest highest x _ := .finite value
      rwa [sign_zero, SignType.coe_zero, zero_mul] at counted
  | finite s m e pos =>
      have value : rational? x = some (((s.apply m : ℤ) : ℚ) * 2 ^ e) := by
        rw [rational?, same, rationalOf]
      have counted : CountsAs lowest highest x _ := .finite value
      rwa [sign_mul_floor pos] at counted

end Counts

section Nearest

/-- A whole number is nearest to a fraction. -/
def Nearest (num den n : Nat) : Prop :=
  2 * num ≤ 2 * (n * den) + den ∧ 2 * (n * den) ≤ 2 * num + den

theorem roundHalfEven_nearest (num : Nat) {den : Nat} (positive : 0 < den) :
    Nearest num den (roundHalfEven num den) := by
  have whole := Nat.div_add_mod num den
  have less := Nat.mod_lt num positive
  rw [Nat.mul_comm] at whole
  rw [roundHalfEven, Nearest]
  split
  · rename_i up
    simp only [Bool.or_eq_true, Bool.and_eq_true, decide_eq_true_eq] at up
    rw [Nat.succ_mul (num / den)]
    omega
  · rename_i down
    simp only [Bool.or_eq_true, Bool.and_eq_true, decide_eq_true_eq] at down
    omega

/-- The whole number nearest to a fraction is no larger than its numerator. -/
theorem Nearest.le {num den n : Nat} (h : Nearest num den n) (positive : 0 < den) : n ≤ num := by
  have larger : num ≤ num * den := Nat.le_mul_of_pos_right num positive
  have scaled : n * den * 2 < (num + 1) * den * 2 := by
    rw [Nat.succ_mul num]
    have above := h.2
    omega
  rw [Nat.mul_assoc, Nat.mul_assoc] at scaled
  exact Nat.le_of_lt_succ (Nat.lt_of_mul_lt_mul_right scaled)

theorem Nearest.abs_sub_le {num den n : Nat} (h : Nearest num den n) (positive : 0 < den) :
    |(n : ℚ) - num / den| ≤ 1 / 2 := by
  have positive' : (0 : ℚ) < den := by exact_mod_cast positive
  have below : 2 * (num : ℚ) ≤ 2 * (n * den) + den := by exact_mod_cast h.1
  have above : 2 * ((n : ℚ) * den) ≤ 2 * num + den := by exact_mod_cast h.2
  have scaled : (n : ℚ) - num / den = (n * den - num) / den := by field_simp
  rw [scaled, abs_div, abs_of_pos positive', div_le_iff₀ positive', abs_le]
  constructor <;> linarith

end Nearest

end RecordPipeline.Decimal
