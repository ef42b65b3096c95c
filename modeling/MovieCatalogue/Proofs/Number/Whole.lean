import MovieCatalogue.Number.Binary64

/-!
Contract: whole numbers in floating point.

Owns: that rounding an integer of at most 64 bits to a floating-point number gives a
whole number: up to 53 bits nothing is rounded, and above them every
floating-point number is whole; and that rounding keeps the order of integers, so that
it can make two of them the same number but never exchange them, and that no two of them
become the same number if one has at most 53 bits.
Does not own: which integers of more bits become the same number.
-/

namespace MovieCatalogue.Number.Binary64

theorem roundHalfEven_bounds (num den : Nat) :
    num / den ≤ roundHalfEven num den ∧ roundHalfEven num den ≤ num / den + 1 := by
  unfold roundHalfEven
  dsimp only
  split
  · omega
  · split
    · omega
    · split <;> omega

theorem roundHalfEven_one (num : Nat) : roundHalfEven num 1 = num := by
  simp [roundHalfEven, Nat.mod_one]

/-- The exponent of a natural number leaves 53 bits before the point. -/
private theorem ratioExponent_one {num : Nat} (positive : num ≠ 0) :
    ratioExponent num 1 = (num.log2 : Int) - 52 := by
  have lower : 2 ^ num.log2 ≤ num := Nat.log2_self_le positive
  have logOne : Nat.log2 1 = 0 := by decide
  have enough : ¬ num * 2 ^ (-((num.log2 : Int) - 0 - 52)).toNat <
      1 * 2 ^ ((num.log2 : Int) - 0 - 52).toNat * 2 ^ 52 := by
    rw [Nat.not_lt, Nat.one_mul, ← Nat.pow_add]
    calc 2 ^ (((num.log2 : Int) - 0 - 52).toNat + 52)
        = 2 ^ num.log2 * 2 ^ (-((num.log2 : Int) - 0 - 52)).toNat := by
          rw [← Nat.pow_add]
          congr 1
          omega
      _ ≤ num * 2 ^ (-((num.log2 : Int) - 0 - 52)).toNat := Nat.mul_le_mul_right _ lower
  simp only [ratioExponent, scaleDown, logOne, Int.ofNat_zero, if_neg enough, leastExponent]
  omega

theorem ratioMagnitude_one {num : Nat} (positive : num ≠ 0) :
    ratioMagnitude num 1 = (num.log2 + 1022) * 2 ^ 52 +
      roundHalfEven (num * 2 ^ (52 - num.log2)) (2 ^ (num.log2 - 52)) := by
  have down : (-((num.log2 : Int) - 52)).toNat = 52 - num.log2 := by omega
  have up : ((num.log2 : Int) - 52).toNat = num.log2 - 52 := by omega
  have place : ((num.log2 : Int) - 52 - leastExponent).toNat = num.log2 + 1022 := by
    simp only [leastExponent]
    omega
  rw [ratioMagnitude, if_neg positive, ratioExponent_one positive]
  dsimp only [scaleDown]
  rw [down, up, place, Nat.one_mul]

/-- A natural number of at most 53 bits is not rounded. -/
theorem ratioMagnitude_one_of_small {num : Nat} (nonzero : num ≠ 0) (small : num.log2 ≤ 52) :
    ratioMagnitude num 1 = (num.log2 + 1022) * 2 ^ 52 + num * 2 ^ (52 - num.log2) := by
  have whole : num.log2 - 52 = 0 := by omega
  rw [ratioMagnitude_one nonzero, whole, Nat.pow_zero, roundHalfEven_one]

/-- Scaled to its binade, a natural number has a quotient of 53 bits. -/
theorem quotient_bounds {num : Nat} (nonzero : num ≠ 0) :
    2 ^ 52 ≤ num * 2 ^ (52 - num.log2) / 2 ^ (num.log2 - 52) ∧
      num * 2 ^ (52 - num.log2) / 2 ^ (num.log2 - 52) < 2 ^ 53 := by
  have lower : 2 ^ num.log2 ≤ num := Nat.log2_self_le nonzero
  have upper : num < 2 ^ (num.log2 + 1) := Nat.lt_log2_self
  constructor
  · rw [Nat.le_div_iff_mul_le (Nat.two_pow_pos _)]
    calc 2 ^ 52 * 2 ^ (num.log2 - 52) = 2 ^ num.log2 * 2 ^ (52 - num.log2) := by
          rw [← Nat.pow_add, ← Nat.pow_add]
          congr 1
          omega
      _ ≤ num * 2 ^ (52 - num.log2) := Nat.mul_le_mul_right _ lower
  · rw [Nat.div_lt_iff_lt_mul (Nat.two_pow_pos _)]
    calc num * 2 ^ (52 - num.log2) < 2 ^ (num.log2 + 1) * 2 ^ (52 - num.log2) :=
          Nat.mul_lt_mul_of_pos_right upper (Nat.two_pow_pos _)
      _ = 2 ^ 53 * 2 ^ (num.log2 - 52) := by
          rw [← Nat.pow_add, ← Nat.pow_add]
          congr 1
          omega

/-- A significand of 53 bits at a small exponent is whole if it ends in enough zeros. -/
private theorem isWhole_of_small {x : Binary64} (shift : Nat) {significand : Nat} (small : shift ≤ 52)
    (lower : 2 ^ 52 ≤ significand) (upper : significand < 2 ^ 53)
    (zeros : 2 ^ shift ∣ significand)
    (magnitude : x.magnitude = (1074 - shift) * 2 ^ 52 + significand) : x.isWhole = true := by
  have finite : x.isFinite = true := by
    rw [isFinite, decide_eq_true_eq, infinityMagnitude]
    omega
  have normal : ¬ x.magnitude < 2 ^ 52 := by omega
  have exponent : x.exponent = -(shift : Int) := by
    rw [Binary64.exponent, if_neg normal]
    omega
  have same : x.significand = significand := by
    rw [Binary64.significand, if_neg normal]
    omega
  have denominator : x.denominator = 2 ^ shift := by
    rw [Binary64.denominator, exponent]
    simp
  have numerator : x.numerator = significand := by
    rw [Binary64.numerator, exponent, same]
    simp
  rw [isWhole, finite, numerator, denominator, Nat.mod_eq_zero_of_dvd zeros]
  rfl

/-- A finite number whose last bit is worth at least one is whole. -/
private theorem isWhole_of_large {x : Binary64} (large : 1075 * 2 ^ 52 ≤ x.magnitude)
    (finite : x.isFinite = true) : x.isWhole = true := by
  have normal : ¬ x.magnitude < 2 ^ 52 := by omega
  have exponent : 0 ≤ x.exponent := by
    rw [Binary64.exponent, if_neg normal]
    omega
  have denominator : x.denominator = 1 := by
    have noShift : (-x.exponent).toNat = 0 := by omega
    rw [Binary64.denominator, noShift, Nat.pow_zero]
  rw [isWhole, finite, denominator, Nat.mod_one]
  rfl

private theorem magnitude_ofRatio {num den : Nat} (negative : Bool)
    (finite : ratioMagnitude num den ≤ infinityMagnitude) :
    (ofRatio negative num den).magnitude = ratioMagnitude num den :=
  Nat.min_eq_left finite

/-- A number of at most 53 bits is shifted up to the full significand. -/
private theorem isWhole_ofRatio_one_of_small (negative : Bool) {num : Nat} (nonzero : num ≠ 0)
    (small : num.log2 ≤ 52) : (ofRatio negative num 1).isWhole = true := by
  have magnitude := ratioMagnitude_one_of_small nonzero small
  have below : num.log2 - 52 = 0 := by omega
  obtain ⟨lowerScaled, upperScaled⟩ := quotient_bounds nonzero
  rw [below, Nat.pow_zero, Nat.div_one] at lowerScaled upperScaled
  refine isWhole_of_small (52 - num.log2) (by omega) lowerScaled upperScaled
    (Nat.dvd_mul_left _ _) ?_
  have finite : ratioMagnitude num 1 ≤ infinityMagnitude := by
    rw [magnitude, infinityMagnitude]
    omega
  rw [magnitude_ofRatio negative finite, magnitude]
  omega

/-- A number of more bits is rounded to a multiple of a power of two. -/
private theorem isWhole_ofRatio_one_of_large (negative : Bool) {num : Nat} (nonzero : num ≠ 0)
    (large : 52 < num.log2) (bits : num.log2 < 64) : (ofRatio negative num 1).isWhole = true := by
  have magnitude := ratioMagnitude_one nonzero
  have above : 52 - num.log2 = 0 := by omega
  obtain ⟨lowerQuotient, upperQuotient⟩ := quotient_bounds nonzero
  obtain ⟨least, most⟩ := roundHalfEven_bounds num (2 ^ (num.log2 - 52))
  rw [above, Nat.pow_zero, Nat.mul_one] at magnitude lowerQuotient upperQuotient
  have finite : ratioMagnitude num 1 < infinityMagnitude := by
    rw [magnitude, infinityMagnitude]
    omega
  have size := magnitude_ofRatio negative (Nat.le_of_lt finite)
  apply isWhole_of_large
  · rw [size, magnitude]
    omega
  · rw [isFinite, decide_eq_true_eq, size]
    exact finite

private theorem isWhole_ofRatio_one (negative : Bool) {num : Nat} (bounded : num < 2 ^ 64) :
    (ofRatio negative num 1).isWhole = true := by
  by_cases zero : num = 0
  · simp [zero, ofRatio, ratioMagnitude, ofMagnitude, isWhole, isFinite, infinityMagnitude,
      numerator, significand]
  have bits : num.log2 < 64 := (Nat.log2_lt zero).mpr bounded
  by_cases small : num.log2 ≤ 52
  · exact isWhole_ofRatio_one_of_small negative zero small
  · exact isWhole_ofRatio_one_of_large negative zero (Nat.lt_of_not_le small) bits

/-- The number nearest to an integer of at most 64 bits is whole. -/
theorem isWhole_ofInt {n : Int} (bounded : n.natAbs < 2 ^ 64) : (ofInt n).isWhole = true :=
  isWhole_ofRatio_one _ bounded

theorem isWhole_ofInt_int64 (n : Int64) : (ofInt n.toInt).isWhole = true := by
  have lower := n.le_toInt
  have upper := n.toInt_lt
  exact isWhole_ofInt (by omega)

theorem isWhole_ofInt_int32 (n : Int32) : (ofInt n.toInt).isWhole = true := by
  have lower := n.le_toInt
  have upper := n.toInt_lt
  exact isWhole_ofInt (by omega)

/-! ## The order of natural numbers -/

theorem roundHalfEven_mono {less more : Nat} (den : Nat) (atMost : less ≤ more) :
    roundHalfEven less den ≤ roundHalfEven more den := by
  have quotients : less / den ≤ more / den := Nat.div_le_div_right atMost
  rcases Nat.eq_or_lt_of_le quotients with same | below
  · have remainders : less % den ≤ more % den := by
      have ofLess := Nat.div_add_mod less den
      have ofMore := Nat.div_add_mod more den
      rw [same] at ofLess
      omega
    simp only [roundHalfEven, same]
    grind
  · calc roundHalfEven less den ≤ less / den + 1 := (roundHalfEven_bounds less den).2
      _ ≤ more / den := below
      _ ≤ roundHalfEven more den := (roundHalfEven_bounds more den).1

/-- The magnitudes of natural numbers in a binade lie between two powers of two. -/
theorem ratioMagnitude_one_bounds {num : Nat} (nonzero : num ≠ 0) :
    (num.log2 + 1023) * 2 ^ 52 ≤ ratioMagnitude num 1 ∧
      ratioMagnitude num 1 ≤ (num.log2 + 1024) * 2 ^ 52 := by
  have quotient := quotient_bounds nonzero
  have rounded := roundHalfEven_bounds (num * 2 ^ (52 - num.log2)) (2 ^ (num.log2 - 52))
  rw [ratioMagnitude_one nonzero]
  constructor
  · calc (num.log2 + 1023) * 2 ^ 52 = (num.log2 + 1022) * 2 ^ 52 + 2 ^ 52 := by omega
      _ ≤ _ := Nat.add_le_add_left (Nat.le_trans quotient.1 rounded.1) _
  · calc _ ≤ (num.log2 + 1022) * 2 ^ 52 + 2 ^ 53 :=
          Nat.add_le_add_left (Nat.le_trans rounded.2 quotient.2) _
      _ = (num.log2 + 1024) * 2 ^ 52 := by omega

theorem ratioMagnitude_zero (den : Nat) : ratioMagnitude 0 den = 0 :=
  if_pos rfl

/-- Rounding keeps the order of natural numbers. -/
theorem ratioMagnitude_one_mono {less more : Nat} (atMost : less ≤ more) :
    ratioMagnitude less 1 ≤ ratioMagnitude more 1 := by
  by_cases zero : less = 0
  · rw [zero, ratioMagnitude_zero]
    exact Nat.zero_le _
  have nonzero : more ≠ 0 := by omega
  have binades : less.log2 ≤ more.log2 :=
    (Nat.le_log2 nonzero).mpr (Nat.le_trans (Nat.log2_self_le zero) atMost)
  rcases Nat.eq_or_lt_of_le binades with same | below
  · rw [ratioMagnitude_one zero, ratioMagnitude_one nonzero, same]
    exact Nat.add_le_add_left (roundHalfEven_mono _ (Nat.mul_le_mul_right _ atMost)) _
  · have ofLess := (ratioMagnitude_one_bounds zero).2
    have ofMore := (ratioMagnitude_one_bounds nonzero).1
    omega

/-- Rounding keeps a natural number of at most 53 bits below all larger ones. -/
theorem ratioMagnitude_one_lt {less more : Nat} (small : less < 2 ^ 53) (below : less < more) :
    ratioMagnitude less 1 < ratioMagnitude more 1 := by
  have nonzero : more ≠ 0 := by omega
  by_cases zero : less = 0
  · have ofMore := (ratioMagnitude_one_bounds nonzero).1
    rw [zero, ratioMagnitude_zero]
    omega
  have bits : less.log2 ≤ 52 := Nat.le_of_lt_succ ((Nat.log2_lt zero).mpr small)
  have binades : less.log2 ≤ more.log2 :=
    (Nat.le_log2 nonzero).mpr (Nat.le_trans (Nat.log2_self_le zero) (Nat.le_of_lt below))
  have ofLess := ratioMagnitude_one_of_small zero bits
  rcases Nat.eq_or_lt_of_le binades with same | later
  · rw [ofLess, ratioMagnitude_one_of_small nonzero (same ▸ bits), ← same]
    exact Nat.add_lt_add_left (Nat.mul_lt_mul_of_pos_right below (Nat.two_pow_pos _)) _
  · have fits := (quotient_bounds zero).2
    have whole : less.log2 - 52 = 0 := by omega
    rw [whole, Nat.pow_zero, Nat.div_one] at fits
    have ofMore := (ratioMagnitude_one_bounds nonzero).1
    omega

/-! ## The order of integers -/

/-- Rounding keeps the order of integers, though some of them become the same number. -/
theorem rank_ofInt_mono {m n : Int} (atMost : m ≤ n) : (ofInt m).rank ≤ (ofInt n).rank := by
  have magnitudes {i j : Nat} (atMost : i ≤ j) :
      min (ratioMagnitude i 1) infinityMagnitude ≤ min (ratioMagnitude j 1) infinityMagnitude :=
    Nat.le_min.mpr ⟨Nat.le_trans (Nat.min_le_left _ _) (ratioMagnitude_one_mono atMost),
      Nat.min_le_right _ _⟩
  simp only [rank, ofInt, ofRatio, ofMagnitude, decide_eq_true_eq]
  split
  case isTrue negative =>
      split
      case isTrue negativeToo =>
          have sizes := magnitudes (i := n.natAbs) (j := m.natAbs) (by omega)
          omega
      case isFalse => omega
  case isFalse nonnegative =>
      rw [if_neg (by omega)]
      exact Int.ofNat_le.mpr (magnitudes (by omega))

/-- No other integer is rounded to an integer of at most 53 bits. -/
theorem eq_of_ofInt_eq_small {m n : Int} (small : m.natAbs < 2 ^ 53) (same : ofInt n = ofInt m) :
    n = m := by
  have finite := (Bool.and_eq_true_iff.mp (isWhole_ofInt (n := m) (by omega))).1
  rw [isFinite, decide_eq_true_eq] at finite
  have signs : decide (n < 0) = decide (m < 0) := congrArg Binary64.negative same
  rw [decide_eq_decide] at signs
  have magnitudes : min (ratioMagnitude n.natAbs 1) infinityMagnitude =
      min (ratioMagnitude m.natAbs 1) infinityMagnitude := congrArg Binary64.magnitude same
  have bounded : min (ratioMagnitude m.natAbs 1) infinityMagnitude < infinityMagnitude := finite
  have sizes : n.natAbs = m.natAbs := by
    rcases Nat.lt_trichotomy n.natAbs m.natAbs with below | same | above
    · have apart := ratioMagnitude_one_lt (by omega) below
      omega
    · exact same
    · have apart := ratioMagnitude_one_lt small above
      omega
  omega

end MovieCatalogue.Number.Binary64
