import Mathlib.Tactic.Linarith
import MovieCatalogue.Proofs.Number.Finite

/-!
Contract: the numbers that floating-point numbers stand for.

Owns: `Binary64.toRat`, the exact value of a finite number; that the total order is the order of the
values but for the two zeros, of which it puts the negative one first, and that numeric equality is
equality of the values; and that the whole numbers are those with an integer as value, which is what
is left of them without their fractional part.
Does not own: rounding; see `Proofs.Number.Finite` and `Proofs.Number.Whole`.
-/

namespace MovieCatalogue.Number.Binary64

variable {x y : Binary64}

/-- The absolute value of a finite number. -/
def size (x : Binary64) : ℚ :=
  x.numerator / x.denominator

/-- The value of a finite number. -/
def toRat (x : Binary64) : ℚ :=
  if x.negative then -x.size else x.size

/-- Both zeros, in either order. -/
def OppositeZeros (x y : Binary64) : Prop :=
  x.isZero = true ∧ y.isZero = true ∧ x.negative ≠ y.negative

/-! ## Sizes -/

/-- The numbers of one binade have the same exponent; the subnormal ones belong to the first. -/
def binade (x : Binary64) : Nat :=
  max 1 (x.magnitude / 2 ^ 52)

theorem exponent_eq (x : Binary64) : x.exponent = (x.binade : Int) - 1075 := by
  unfold exponent binade
  dsimp only [leastExponent]
  split <;> omega

theorem magnitude_eq (x : Binary64) :
    x.magnitude = x.significand + (x.binade - 1) * 2 ^ 52 := by
  unfold significand binade
  split <;> omega

theorem size_eq (x : Binary64) : x.size = x.significand * 2 ^ x.exponent := by
  have parts : x.exponent = x.exponent.toNat - (-x.exponent).toNat := by omega
  have power : (2 : ℚ) ^ x.exponent = 2 ^ x.exponent.toNat / 2 ^ (-x.exponent).toNat :=
    calc (2 : ℚ) ^ x.exponent = 2 ^ ((x.exponent.toNat : Int) - (-x.exponent).toNat) := by
          rw [← parts]
      _ = 2 ^ x.exponent.toNat / 2 ^ (-x.exponent).toNat := by
          rw [zpow_sub₀ two_ne_zero, zpow_natCast, zpow_natCast]
  rw [power, size, numerator, denominator, ← mul_div_assoc]
  norm_cast

theorem size_lt_of_magnitude_lt (less : x.magnitude < y.magnitude) : x.size < y.size := by
  have ofX := magnitude_eq x
  have ofY := magnitude_eq y
  have bounded : x.significand < 2 ^ 53 := significand_lt
  rw [size_eq, size_eq]
  rcases Nat.lt_trichotomy x.binade y.binade with below | same | above
  · -- The least significand of a later binade is half of the bound on all significands.
    have full : 2 ^ 52 ≤ y.significand := by
      unfold significand
      unfold binade at below
      split <;> omega
    have next : x.exponent + 1 ≤ y.exponent := by
      rw [exponent_eq, exponent_eq]
      omega
    calc (x.significand : ℚ) * 2 ^ x.exponent
        < 2 ^ 53 * 2 ^ x.exponent := by
          gcongr
          exact_mod_cast bounded
      _ = 2 ^ 52 * 2 ^ (x.exponent + 1) := by
          rw [zpow_add_one₀ two_ne_zero]
          ring
      _ ≤ 2 ^ 52 * 2 ^ y.exponent := by
          gcongr
          exact one_le_two
      _ ≤ y.significand * 2 ^ y.exponent := by
          gcongr
          exact_mod_cast full
  · have less : x.significand < y.significand := by
      rw [same] at ofX
      omega
    rw [exponent_eq, exponent_eq, same]
    gcongr
  · unfold binade at above
    omega

theorem size_eq_of_magnitude_eq (same : x.magnitude = y.magnitude) : x.size = y.size := by
  simp only [size_eq, significand, exponent, same]

theorem size_lt_iff : x.size < y.size ↔ x.magnitude < y.magnitude := by
  refine ⟨fun less => ?_, size_lt_of_magnitude_lt⟩
  rcases Nat.lt_trichotomy x.magnitude y.magnitude with below | same | above
  · exact below
  · exact absurd (size_eq_of_magnitude_eq same) less.ne
  · exact absurd (size_lt_of_magnitude_lt above) less.asymm

theorem size_nonneg (x : Binary64) : 0 ≤ x.size := by
  unfold size
  positivity

theorem size_eq_zero_iff : x.size = 0 ↔ x.isZero = true := by
  have ofZero : zero.size = 0 := by
    rw [size_eq]
    simp [zero, ofMagnitude, significand]
  have positive : 0 < x.size ↔ 0 < x.magnitude := by
    rw [← ofZero]
    exact size_lt_iff
  rw [isZero, beq_iff_eq, ← Nat.le_zero, ← Nat.not_lt, ← positive, not_lt]
  exact ⟨le_of_eq, fun least => le_antisymm least x.size_nonneg⟩

/-! ## Values -/

theorem rank_injective (same : x.rank = y.rank) : x = y := by
  obtain ⟨negative, magnitude, bounded⟩ := x
  obtain ⟨otherNegative, otherMagnitude, otherBounded⟩ := y
  cases negative <;> cases otherNegative <;>
    simp [Binary64.rank] at same ⊢ <;> omega

/-- The total order is the order of the values, with the negative zero before the positive one. -/
theorem rank_lt_iff :
    x.rank < y.rank ↔ x.toRat < y.toRat ∨ x.OppositeZeros y ∧ x.negative = true := by
  have sizes : x.size < y.size ↔ x.magnitude < y.magnitude := size_lt_iff
  have sizesBack : y.size < x.size ↔ y.magnitude < x.magnitude := size_lt_iff
  have leastX := x.size_nonneg
  have leastY := y.size_nonneg
  unfold rank toRat OppositeZeros
  cases signX : x.negative <;> cases signY : y.negative
  case false.false => simp [sizes]
  case true.true => simp [sizesBack]
  case false.true =>
      have ordered : ¬ x.size < -y.size := by linarith
      simp [ordered]
      omega
  case true.false =>
      have ranked : -(x.magnitude : Int) - 1 < y.magnitude := by omega
      have ordered : -x.size < y.size ∨ x.size = 0 ∧ y.size = 0 := by
        rcases lt_or_eq_of_le (show -x.size ≤ y.size by linarith) with less | same
        · exact .inl less
        · exact .inr ⟨by linarith, by linarith⟩
      simpa [ranked, size_eq_zero_iff] using ordered

theorem OppositeZeros.symm (opposite : x.OppositeZeros y) : y.OppositeZeros x :=
  ⟨opposite.2.1, opposite.1, opposite.2.2.symm⟩

theorem toRat_of_isZero (isZero : x.isZero = true) : x.toRat = 0 := by
  simp [toRat, size_eq_zero_iff.mpr isZero]

theorem toRat_eq_iff : x.toRat = y.toRat ↔ x = y ∨ x.OppositeZeros y := by
  constructor
  · intro same
    by_cases opposite : x.OppositeZeros y
    · exact .inr opposite
    · left
      apply rank_injective
      apply le_antisymm
      · rw [← not_lt, rank_lt_iff]
        rintro (less | ⟨oppositeBack, -⟩)
        · exact less.ne' same
        · exact opposite oppositeBack.symm
      · rw [← not_lt, rank_lt_iff]
        rintro (less | ⟨oppositeAgain, -⟩)
        · exact less.ne same
        · exact opposite oppositeAgain
  · rintro (rfl | opposite)
    · rfl
    · rw [toRat_of_isZero opposite.1, toRat_of_isZero opposite.2.1]

theorem eq_iff_toRat : x = y ↔ x.toRat = y.toRat ∧ ¬ x.OppositeZeros y := by
  constructor
  · rintro rfl
    exact ⟨rfl, fun opposite => opposite.2.2 rfl⟩
  · rintro ⟨same, notOpposite⟩
    exact (toRat_eq_iff.mp same).resolve_right notOpposite

theorem isNaN_of_isFinite (finite : x.isFinite = true) : x.isNaN = false := by
  rw [isFinite, decide_eq_true_eq] at finite
  rw [isNaN, decide_eq_false_iff_not]
  omega

/-- Numeric equality, which does not tell the zeros apart, is equality of the values. -/
theorem equals_iff_toRat (finiteX : x.isFinite = true) (finiteY : y.isFinite = true) :
    x.equals y = true ↔ x.toRat = y.toRat := by
  have sameZeros (zeroX : x.isZero = true) (zeroY : y.isZero = true)
      (sameSign : x.negative = y.negative) : x = y := by
    apply eq_iff_toRat.mpr
    refine ⟨?_, fun opposite => opposite.2.2 sameSign⟩
    rw [toRat_of_isZero zeroX, toRat_of_isZero zeroY]
  rw [toRat_eq_iff, equals, isNaN_of_isFinite finiteX, isNaN_of_isFinite finiteY]
  simp only [Bool.not_false, Bool.true_and, Bool.or_eq_true, Bool.and_eq_true, decide_eq_true_eq]
  constructor
  · rintro (⟨zeroX, zeroY⟩ | same)
    · by_cases sameSign : x.negative = y.negative
      · exact .inl (sameZeros zeroX zeroY sameSign)
      · exact .inr ⟨zeroX, zeroY, sameSign⟩
    · exact .inl same
  · rintro (same | ⟨zeroX, zeroY, -⟩)
    · exact .inr same
    · exact .inl ⟨zeroX, zeroY⟩

/-! ## Whole numbers -/

theorem size_eq_natCast_iff {n : Nat} : x.size = n ↔ x.numerator = n * x.denominator := by
  have positive : (x.denominator : ℚ) ≠ 0 := Nat.cast_ne_zero.mpr (denominator_pos x).ne'
  rw [size, div_eq_iff positive]
  norm_cast

/-- A whole number is the integer that is left of it without its fractional part. -/
theorem toRat_of_isWhole (whole : x.isWhole = true) : x.toRat = x.truncate := by
  obtain ⟨-, divides⟩ := Bool.and_eq_true_iff.mp whole
  rw [beq_iff_eq] at divides
  have exact : x.size = (x.numerator / x.denominator : Nat) :=
    size_eq_natCast_iff.mpr (Nat.div_mul_cancel (Nat.dvd_of_mod_eq_zero divides)).symm
  unfold toRat truncate
  dsimp only
  split
  · rw [exact, Int.cast_neg, Int.cast_natCast]
  · rw [exact, Int.cast_natCast]

theorem isWhole_iff : x.isWhole = true ↔ x.isFinite = true ∧ ∃ n : Int, x.toRat = n := by
  constructor
  · intro whole
    exact ⟨(Bool.and_eq_true_iff.mp whole).1, x.truncate, toRat_of_isWhole whole⟩
  · rintro ⟨finite, n, exact⟩
    have size : x.size = n.natAbs := by
      have magnitude : |x.toRat| = x.size := by
        unfold toRat
        split <;> simp [abs_of_nonneg x.size_nonneg]
      rw [← magnitude, exact, Nat.cast_natAbs, Int.cast_abs]
    rw [isWhole, finite, size_eq_natCast_iff.mp size, Nat.mul_mod_left]
    rfl

theorem truncate_eq {n : Int} (finite : x.isFinite = true) (exact : x.toRat = n) :
    x.truncate = n := by
  have whole : x.isWhole = true := isWhole_iff.mpr ⟨finite, n, exact⟩
  exact_mod_cast (toRat_of_isWhole whole).symm.trans exact

end MovieCatalogue.Number.Binary64
