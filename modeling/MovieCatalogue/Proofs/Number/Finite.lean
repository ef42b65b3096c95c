import Mathlib.Algebra.Order.Field.Power
import Mathlib.Data.Rat.Cast.Order
import Mathlib.Tactic.Positivity
import Mathlib.Tactic.Ring
import MovieCatalogue.Number.Integer
import MovieCatalogue.Number.Literal
import MovieCatalogue.Proofs.Number.Whole

/-!
Contract: finite floating-point numbers.

Owns: that a number that is neither finite nor NaN is one of the infinities; that a ratio
well below the largest finite number rounds to a finite one, so that a finite number stays
finite when it is divided by a power of ten; and that a number put together from a
significand and a power of ten is finite if there is one.
Does not own: which number it is.
-/

namespace MovieCatalogue.Number

namespace Binary64

/-! ## Infinities -/

theorem eq_infinity_of_isFinite {x : Binary64} (infinite : x.isFinite = false)
    (number : x.isNaN = false) : x = .ofMagnitude x.negative infinityMagnitude := by
  obtain ⟨negative, magnitude, bounded⟩ := x
  have below : magnitude ≤ infinityMagnitude := by simpa [isNaN] using number
  have above : infinityMagnitude ≤ magnitude := by simpa [isFinite] using infinite
  cases Nat.le_antisymm below above
  rfl

/-! ## Rounded ratios -/

/-- How many bits a scaled ratio has, as a bound on the ratio itself. -/
private theorem scaleDown_lt_iff {num den bits : Nat} {e : Int} :
    (scaleDown num den e).1 < (scaleDown num den e).2 * 2 ^ bits ↔
      (num : ℚ) < den * 2 ^ (e + bits) := by
  have power : (2 : ℚ) ^ (e + bits) = 2 ^ e.toNat * 2 ^ bits / 2 ^ (-e).toNat := by
    have whole : e + bits = e.toNat + bits - (-e).toNat := by omega
    rw [whole, zpow_sub₀ two_ne_zero, zpow_add₀ two_ne_zero]
    norm_cast
  rw [power, ← mul_div_assoc, lt_div_iff₀ (by positivity), ← mul_assoc]
  dsimp only [scaleDown]
  norm_cast

/-- The estimated exponent is large enough for 53 bits. -/
private theorem lt_estimate {num den : Nat} (positive : 0 < den) :
    (num : ℚ) < den * 2 ^ ((num.log2 : Int) - den.log2 - 52 + (53 : Nat)) := by
  have upper : num < 2 ^ (num.log2 + 1) := Nat.lt_log2_self
  have lower : 2 ^ den.log2 ≤ den := Nat.log2_self_le (Nat.ne_of_gt positive)
  have exponent : (num.log2 : Int) - den.log2 - 52 + (53 : Nat) = (num.log2 + 1 : Nat) - den.log2 := by
    omega
  rw [exponent, zpow_sub₀ two_ne_zero, zpow_natCast, zpow_natCast]
  calc (num : ℚ) < 2 ^ (num.log2 + 1) := by exact_mod_cast upper
    _ = 2 ^ den.log2 * (2 ^ (num.log2 + 1) / 2 ^ den.log2) := by
      rw [mul_div_cancel₀ _ (by positivity)]
    _ ≤ den * (2 ^ (num.log2 + 1) / 2 ^ den.log2) := by
      gcongr
      exact_mod_cast lower

private theorem lt_of_exponent_le {num den : Nat} {e f : Int} (below : (num : ℚ) < den * 2 ^ e)
    (least : e ≤ f) : (num : ℚ) < den * 2 ^ f := by
  refine lt_of_lt_of_le below ?_
  gcongr
  exact one_le_two

/-- At its exponent a ratio has at most 53 bits. -/
private theorem lt_ratioExponent {num den : Nat} (positive : 0 < den) :
    (num : ℚ) < den * 2 ^ (ratioExponent num den + (53 : Nat)) := by
  unfold ratioExponent
  dsimp only
  split
  case isTrue fewer => exact lt_of_exponent_le (scaleDown_lt_iff.mp fewer) (by omega)
  case isFalse => exact lt_of_exponent_le (lt_estimate positive) (by omega)

variable {room : Nat}

/-- The exponent of a ratio that is far from the largest finite number. -/
private theorem ratioExponent_le {num den : Nat} (nonzero : num ≠ 0)
    (small : num < den * 2 ^ room) (far : room ≤ 1021) : ratioExponent num den ≤ 969 := by
  have bits : num.log2 < den.log2 + 1 + room := by
    rw [Nat.log2_lt nonzero]
    calc num < den * 2 ^ room := small
      _ < 2 ^ (den.log2 + 1) * 2 ^ room :=
        Nat.mul_lt_mul_of_pos_right Nat.lt_log2_self (Nat.two_pow_pos _)
      _ = 2 ^ (den.log2 + 1 + room) := by rw [← Nat.pow_add]
  unfold ratioExponent
  dsimp only [leastExponent]
  split <;> omega

private theorem ratioMagnitude_lt {num den : Nat} (positive : 0 < den)
    (small : num < den * 2 ^ room) (far : room ≤ 1021) :
    ratioMagnitude num den < infinityMagnitude := by
  by_cases zero : num = 0
  · rw [ratioMagnitude, if_pos zero]
    decide
  rw [ratioMagnitude, if_neg zero]
  dsimp only
  have exponent := ratioExponent_le zero small far
  have below : (num : ℚ) < den * 2 ^ (ratioExponent num den + (53 : Nat)) :=
    lt_ratioExponent positive
  have scaled := scaleDown_lt_iff.mpr below
  have quotient := Nat.div_lt_of_lt_mul scaled
  have rounded := (roundHalfEven_bounds (scaleDown num den (ratioExponent num den)).1
    (scaleDown num den (ratioExponent num den)).2).2
  rw [leastExponent, infinityMagnitude]
  omega

/-- A ratio that is far from the largest finite number rounds to a finite one. -/
theorem isFinite_ofRatio (negative : Bool) {num den : Nat} (positive : 0 < den)
    (small : num < den * 2 ^ room) (far : room ≤ 1021) :
    (ofRatio negative num den).isFinite = true := by
  have magnitude := ratioMagnitude_lt positive small far
  rw [isFinite, decide_eq_true_eq]
  exact Nat.lt_of_le_of_lt (Nat.min_le_left _ _) magnitude

/-! ## Division -/

theorem denominator_pos (x : Binary64) : 0 < x.denominator :=
  Nat.two_pow_pos _

theorem exponent_le {x : Binary64} (finite : x.isFinite = true) : x.exponent ≤ 971 := by
  rw [isFinite, decide_eq_true_eq, infinityMagnitude] at finite
  unfold exponent
  dsimp only [leastExponent]
  split <;> omega

theorem significand_lt {x : Binary64} : x.significand < 2 ^ 53 := by
  unfold significand
  split <;> omega

theorem numerator_lt (x : Binary64) :
    x.numerator < x.denominator * (2 ^ 53 * 2 ^ x.exponent.toNat) :=
  calc x.numerator < 2 ^ 53 * 2 ^ x.exponent.toNat :=
        Nat.mul_lt_mul_of_pos_right significand_lt (Nat.two_pow_pos _)
    _ ≤ x.denominator * (2 ^ 53 * 2 ^ x.exponent.toNat) :=
        Nat.le_mul_of_pos_left _ (denominator_pos x)

/-- A finite number stays finite when it is divided by eight or more. -/
theorem isFinite_div {x y : Binary64} (finite : x.isFinite = true)
    (large : y.denominator * 8 ≤ y.numerator) : (x.div y).isFinite = true := by
  have exponent := exponent_le finite
  have positive := denominator_pos y
  have small : x.numerator * y.denominator <
      x.denominator * y.numerator * 2 ^ (50 + x.exponent.toNat) :=
    calc x.numerator * y.denominator
        < x.denominator * (2 ^ 53 * 2 ^ x.exponent.toNat) * y.denominator :=
          Nat.mul_lt_mul_of_pos_right (numerator_lt x) positive
      _ = x.denominator * (y.denominator * 8) * 2 ^ (50 + x.exponent.toNat) := by
          rw [Nat.pow_add]
          ring
      _ ≤ x.denominator * y.numerator * 2 ^ (50 + x.exponent.toNat) :=
          Nat.mul_le_mul_right _ (Nat.mul_le_mul_left _ large)
  exact isFinite_ofRatio _ (Nat.mul_pos (denominator_pos x) (by omega)) small (by omega)

/-- An integer of at most 64 bits rounds to a finite number. -/
theorem isFinite_ofInt {n : Int} (bounded : n.natAbs ≤ maxWord) : (ofInt n).isFinite = true := by
  have whole := isWhole_ofInt (n := n) (Nat.lt_succ_of_le bounded)
  rw [isWhole, Bool.and_eq_true] at whole
  exact whole.1

theorem isFinite_ofNat {n : Nat} (bounded : n ≤ maxWord) : (ofNat n).isFinite = true := by
  have natural : ¬ (n : Int) < 0 := Int.not_lt.mpr (Int.natCast_nonneg n)
  have same : ofInt n = ofNat n := by
    rw [ofInt, ofNat, Int.natAbs_natCast, decide_eq_false natural]
  exact same ▸ isFinite_ofInt bounded

end Binary64

/-! ## Significands and powers of ten -/

open Binary64

theorem powerOfTen_large {n : Nat} (positive : 1 ≤ n) (least : n ≤ largestPower) :
    (powerOfTen n).denominator * 8 ≤ (powerOfTen n).numerator := by
  have each : ∀ n ∈ List.range' 1 308,
      (powerOfTen n).denominator * 8 ≤ (powerOfTen n).numerator := by decide +kernel
  exact each n (List.mem_range'_1.mpr ⟨positive, Nat.lt_succ_of_le least⟩)

/-- Scaling a finite number by a power of ten gives a finite number, if any. -/
theorem isFinite_of_scaleByTen? {x result : Binary64} {exponent : Int} (finite : x.isFinite = true)
    (scaled : scaleByTen? x exponent = some result) : result.isFinite = true := by
  induction x, exponent using scaleByTen?.induct with
  | case1 x exponent inRange raised =>
      rw [scaleByTen?, if_pos inRange, if_pos raised] at scaled
      exact (Option.filter_eq_some_iff.mp scaled).2
  | case2 x exponent inRange lowered =>
      rw [scaleByTen?, if_pos inRange, if_neg lowered] at scaled
      cases scaled
      exact isFinite_div finite (powerOfTen_large (by omega) (by omega))
  | case3 x exponent outOfRange zero =>
      rw [scaleByTen?, if_neg outOfRange, if_pos zero] at scaled
      cases scaled
      exact finite
  | case4 x exponent outOfRange nonzero raised =>
      rw [scaleByTen?, if_neg outOfRange, if_neg nonzero, if_pos raised] at scaled
      cases scaled
  | case5 x exponent outOfRange nonzero lowered inductionHypothesis =>
      rw [scaleByTen?, if_neg outOfRange, if_neg nonzero, if_neg lowered] at scaled
      have large := powerOfTen_large (n := largestPower) (by decide) (Nat.le_refl _)
      exact inductionHypothesis (isFinite_div finite large) scaled

/-- A number of a significand and a power of ten is finite. -/
theorem isFinite_of_fromParts? {negative : Bool} {significand : Nat} {exponent : Int}
    {result : Binary64} (bounded : significand ≤ maxWord)
    (combined : fromParts? negative significand exponent = some result) :
    result.isFinite = true := by
  obtain ⟨unsigned, scaled, rfl⟩ := Option.map_eq_some_iff.mp combined
  have finite : unsigned.isFinite = true := isFinite_of_scaleByTen? (isFinite_ofNat bounded) scaled
  exact finite

end MovieCatalogue.Number
