import QuoteGateway.Proofs.Number.ShortestBounds

/-!
# The nearest number

Rounding depends on a quotient alone and not on the whole numbers that it is given by. Every
quotient between the ends of the interval of a number is rounded to this number, also where the
number is a power of two and a smaller quotient has a smaller exponent.
-/

namespace QuoteGateway.Number.Binary64

theorem eq_ofMagnitude (x : Binary64) :
    x = ofMagnitude (x.bits.toNat / signBit == 1)
      (x.bits.toNat / leadingBit % (topExponent + 1) * leadingBit + x.bits.toNat % leadingBit) := by
  have range : x.bits.toNat < 18446744073709551616 := x.bits.toNat_lt
  have parts : (if (x.bits.toNat / signBit == 1) = true then
      signBit + (x.bits.toNat / leadingBit % (topExponent + 1) * leadingBit +
        x.bits.toNat % leadingBit)
      else x.bits.toNat / leadingBit % (topExponent + 1) * leadingBit +
        x.bits.toNat % leadingBit) = x.bits.toNat := by
    simp only [beq_iff_eq, signBit, leadingBit, topExponent]
    split_ifs <;> omega
  rw [ofMagnitude, parts, UInt64.ofNat_toNat]

theorem eq_ofMagnitude_of_value {x : Binary64} {negative : Bool} {mantissa : Nat} {exponent : Int}
    (h : x.value = .finite negative mantissa exponent) :
    x = ofMagnitude negative (magnitudeBits mantissa exponent) := by
  have bits := x.eq_ofMagnitude
  have fraction : x.bits.toNat % leadingBit < leadingBit := Nat.mod_lt _ (by decide)
  unfold value at h
  simp only at h
  generalize x.bits.toNat / leadingBit % (topExponent + 1) = biased at *
  generalize x.bits.toNat % leadingBit = rest at *
  split_ifs at h with top zero subnormal <;> cases h
  · rw [subnormal, Nat.zero_mul, Nat.zero_add] at bits
    rwa [magnitudeBits, if_pos fraction]
  · have steps : ((biased : Int) + leastExponent - 1 - leastExponent + 1).toNat = biased := by omega
    rwa [magnitudeBits, if_neg (Nat.not_lt.mpr (Nat.le_add_left _ _)), steps, Nat.add_sub_cancel]

theorem normal_of_value {x : Binary64} {negative : Bool} {mantissa : Nat} {exponent : Int}
    (h : x.value = .finite negative mantissa exponent) :
    leadingBit ≤ mantissa ∨ exponent = leastExponent := by
  unfold value at h
  simp only at h
  split_ifs at h with top zero subnormal <;> cases h
  · exact .inr rfl
  · exact .inl (Nat.le_add_left _ _)

theorem magnitudeBits_lt_infinite {mantissa : Nat} {exponent : Int} (bits : mantissa < 2 ^ 53)
    (least : leastExponent ≤ exponent) (greatest : exponent ≤ 971) :
    magnitudeBits mantissa exponent < infiniteMagnitude := by
  unfold magnitudeBits infiniteMagnitude topExponent
  split_ifs with small
  · simp only [leadingBit] at *
    omega
  · simp only [leadingBit, leastExponent] at *
    omega

theorem roundHalfEven_mul_right (num den : Nat) {k : Nat} (h : 0 < k) :
    roundHalfEven (num * k) (den * k) = roundHalfEven num den := by
  have twice : 2 * (num % den * k) = 2 * (num % den) * k := (Nat.mul_assoc _ _ _).symm
  simp only [roundHalfEven, Nat.mul_div_mul_right _ _ h, Nat.mul_mod_mul_right, twice,
    Nat.mul_lt_mul_right h]

theorem roundHalfEven_congr {num den num' den' : Nat} (positive : 0 < den) (positive' : 0 < den')
    (same : num * den' = num' * den) : roundHalfEven num den = roundHalfEven num' den' := by
  rw [← roundHalfEven_mul_right num den positive', ← roundHalfEven_mul_right num' den' positive,
    same, Nat.mul_comm den den']

/-- What is not more than half a step away, and even if it is just as far, is the rounding. -/
theorem roundHalfEven_eq {num den m : Nat} (positive : 0 < den)
    (low : 2 * (den * m) ≤ 2 * num + den) (high : 2 * num ≤ 2 * (den * m) + den)
    (odd : m % 2 = 1 → 2 * (den * m) < 2 * num + den ∧ 2 * num < 2 * (den * m) + den) :
    roundHalfEven num den = m := by
  have parts := Nat.div_add_mod num den
  have rest := Nat.mod_lt num positive
  have near : m = num / den ∨ m = num / den + 1 := by
    have above : den * m < den * (num / den + 2) := by
      rw [Nat.mul_add]
      omega
    have below : den * (num / den) < den * (m + 1) := by
      rw [Nat.mul_add]
      omega
    have upper := Nat.lt_of_mul_lt_mul_left above
    have lower := Nat.lt_of_mul_lt_mul_left below
    omega
  unfold roundHalfEven
  simp only
  generalize num / den = q at *
  rcases near with rfl | rfl
  · split_ifs <;> omega
  · rw [Nat.mul_add] at low high odd
    split_ifs <;> omega

theorem ratio_mul (num den : Nat) (e : Int) :
    ((num * 2 ^ (-e).toNat : Nat) : ℚ) / (den * 2 ^ e.toNat : Nat) = num / den / 2 ^ e := by
  have twos := Decimal.zpow_mul_pow_neg (show (2 : ℚ) ≠ 0 by norm_num) e
  push_cast
  rw [← twos]
  have scale : (0 : ℚ) < 2 ^ (-e).toNat := by positivity
  field_simp

theorem ratio_lt (num : Nat) {den : Nat} (divisor : 0 < den) :
    (num : ℚ) / den < 2 ^ 53 * 2 ^ fittingExponent num den := by
  have bits := lt_fittingExponent num divisor
  have scaled := ratio_mul num den (fittingExponent num den)
  have below : (0 : ℚ) < (den * 2 ^ (fittingExponent num den).toNat : Nat) := by positivity
  rw [← div_lt_iff₀ (by positivity), ← scaled, div_lt_iff₀ below]
  exact_mod_cast bits

theorem le_ratio {num : Nat} {den : Nat} (positive : 0 < num) (divisor : 0 < den)
    (above : leastExponent < fittingExponent num den) :
    2 ^ 52 * (2 : ℚ) ^ fittingExponent num den ≤ num / den := by
  have bits := fittingExponent_le den positive above
  have scaled := ratio_mul num den (fittingExponent num den)
  have below : (0 : ℚ) < (den * 2 ^ (fittingExponent num den).toNat : Nat) := by positivity
  rw [← le_div_iff₀ (by positivity), ← scaled, le_div_iff₀ below]
  exact_mod_cast bits

/-- The exponent is the only one that leaves 53 bits, or the least one. -/
theorem fittingExponent_eq {num den : Nat} (positive : 0 < num) (divisor : 0 < den) {e : Int}
    (least : leastExponent ≤ e) (upper : (num : ℚ) / den < 2 ^ 53 * 2 ^ e)
    (lower : leastExponent < e → 2 ^ 52 * (2 : ℚ) ^ e ≤ num / den) :
    fittingExponent num den = e := by
  have order {i j : Int} (high : 2 ^ 52 * (2 : ℚ) ^ i ≤ num / den)
      (low : (num : ℚ) / den < 2 ^ 53 * 2 ^ j) : i ≤ j := by
    have powers := high.trans_lt low
    rw [show (2 : ℚ) ^ 53 = 2 ^ 52 * 2 by norm_num, mul_assoc, ← zpow_one_add₀ (by norm_num)]
      at powers
    have exponents := (zpow_lt_zpow_iff_right₀ one_lt_two).mp
      (lt_of_mul_lt_mul_left powers (by positivity))
    omega
  apply le_antisymm
  · rcases Int.lt_or_eq_of_le (leastExponent_le_fittingExponent num den) with above | same
    · exact order (le_ratio positive divisor above) upper
    · exact same ▸ least
  · rcases Int.lt_or_eq_of_le least with above | same
    · exact order (lower above) (ratio_lt num divisor)
    · exact same ▸ leastExponent_le_fittingExponent num den

theorem nearest_congr (negative : Bool) {num den num' den' : Nat} (divisor : 0 < den)
    (divisor' : 0 < den') (same : (num : ℚ) / den = num' / den') :
    nearest negative num den = nearest negative num' den' := by
  have whole : num * den' = num' * den := by
    rw [div_eq_div_iff (by positivity) (by positivity)] at same
    exact_mod_cast same
  rcases Nat.eq_zero_or_pos num with rfl | positive
  · have zero : num' = 0 := by
      rw [Nat.zero_mul] at whole
      exact (Nat.mul_eq_zero.mp whole.symm).resolve_right divisor.ne'
    rw [zero, nearest, nearest, if_pos rfl, if_pos rfl]
  have positive' : 0 < num' := by
    apply Nat.pos_of_ne_zero
    rintro rfl
    rw [Nat.zero_mul] at whole
    exact (Nat.mul_pos positive divisor').ne' whole
  have exponents : fittingExponent num' den' = fittingExponent num den := by
    apply fittingExponent_eq positive' divisor' (leastExponent_le_fittingExponent num den)
    · rw [← same]
      exact ratio_lt num divisor
    · rw [← same]
      exact le_ratio positive divisor
  have mantissas : roundedMantissa num' den' = roundedMantissa num den := by
    rw [roundedMantissa, roundedMantissa, exponents]
    apply roundHalfEven_congr (by positivity) (by positivity)
    rw [Nat.mul_mul_mul_comm, Nat.mul_mul_mul_comm num, whole]
  rw [nearest_of_pos negative positive, nearest_of_pos negative positive', exponents, mantissas]

theorem roundedMantissa_eq {num den m : Nat} (divisor : 0 < den) {w : ℚ}
    (scaled : (num : ℚ) / den = w * 2 ^ fittingExponent num den)
    (low : 2 * (m : ℚ) ≤ 2 * w + 1) (high : 2 * w ≤ 2 * m + 1)
    (odd : m % 2 = 1 → 2 * (m : ℚ) < 2 * w + 1 ∧ 2 * w < 2 * m + 1) :
    roundedMantissa num den = m := by
  have ratio := ratio_mul num den (fittingExponent num den)
  rw [scaled, mul_div_cancel_right₀ _ (by positivity)] at ratio
  have below : (0 : ℚ) < (den * 2 ^ (fittingExponent num den).toNat : Nat) := by positivity
  rw [div_eq_iff below.ne'] at ratio
  unfold roundedMantissa
  generalize num * 2 ^ (-fittingExponent num den).toNat = a at *
  generalize den * 2 ^ (fittingExponent num den).toNat = b at *
  -- Every bound of the quotient is a bound of whole numbers, times the divisor.
  have scaleUp {x y : ℚ} (h : x ≤ y) : b * x ≤ b * y := mul_le_mul_of_nonneg_left h below.le
  have scaleUpStrictly {x y : ℚ} (h : x < y) : b * x < b * y := mul_lt_mul_of_pos_left h below
  apply roundHalfEven_eq (Nat.cast_pos.mp below)
  · have whole : (2 * (b * m) : ℚ) ≤ 2 * a + b := by
      rw [ratio]
      linarith [scaleUp low]
    exact_mod_cast whole
  · have whole : (2 * a : ℚ) ≤ 2 * (b * m) + b := by
      rw [ratio]
      linarith [scaleUp high]
    exact_mod_cast whole
  · intro isOdd
    have whole : (2 * (b * m) : ℚ) < 2 * a + b ∧ (2 * a : ℚ) < 2 * (b * m) + b := by
      rw [ratio]
      obtain ⟨above, below⟩ := odd isOdd
      constructor
      · linarith [scaleUpStrictly above]
      · linarith [scaleUpStrictly below]
    exact_mod_cast whole

/-- A quotient between the ends of the interval of a number, or at one of them if the mantissa is
even. -/
structure Within (v : ℚ) (mantissa : Nat) (exponent : Int) : Prop where
  low : (Decimal.lowerEnd mantissa exponent : ℚ) * 2 ^ (exponent - 2) ≤ v
  high : v ≤ (Decimal.upperEnd mantissa : ℚ) * 2 ^ (exponent - 2)
  odd : mantissa % 2 = 1 →
    (Decimal.lowerEnd mantissa exponent : ℚ) * 2 ^ (exponent - 2) < v ∧
      v < (Decimal.upperEnd mantissa : ℚ) * 2 ^ (exponent - 2)

theorem Within.quarters {w : ℚ} {mantissa : Nat} {exponent : Int}
    (within : Within (w * 2 ^ exponent) mantissa exponent) :
    (Decimal.lowerEnd mantissa exponent : ℚ) ≤ 4 * w ∧ 4 * w ≤ 4 * mantissa + 2 ∧
      (mantissa % 2 = 1 → (Decimal.lowerEnd mantissa exponent : ℚ) < 4 * w ∧
        4 * w < 4 * mantissa + 2) := by
  obtain ⟨low, high, odd⟩ := within
  have place : (0 : ℚ) < 2 ^ exponent := by positivity
  have quarter : (2 : ℚ) ^ (exponent - 2) = 2 ^ exponent / 4 := by
    rw [zpow_sub₀ two_ne_zero]
    norm_num
  have ends : (Decimal.upperEnd mantissa : ℚ) = 4 * mantissa + 2 := by
    rw [Decimal.upperEnd]
    push_cast
    rfl
  rw [quarter] at low high odd
  rw [ends] at high odd
  refine ⟨?_, ?_, fun isOdd => ⟨?_, ?_⟩⟩
  · apply le_of_mul_le_mul_right _ place
    linarith
  · apply le_of_mul_le_mul_right _ place
    linarith
  · apply lt_of_mul_lt_mul_right _ place.le
    linarith [(odd isOdd).1]
  · apply lt_of_mul_lt_mul_right _ place.le
    linarith [(odd isOdd).2]

theorem le_lowerEnd (mantissa : Nat) (exponent : Int) :
    4 * (mantissa : ℚ) - 2 ≤ Decimal.lowerEnd mantissa exponent := by
  have whole : 4 * mantissa ≤ Decimal.lowerEnd mantissa exponent + 2 := by
    rw [Decimal.lowerEnd]
    split_ifs <;> omega
  have cast : (4 * mantissa : ℚ) ≤ Decimal.lowerEnd mantissa exponent + 2 := by exact_mod_cast whole
  linarith

/-- Below a power of two, the exponent is the one before, and the mantissa is carried. -/
theorem magnitudeBits_carried {exponent : Int} (above : leastExponent < exponent) :
    magnitudeBits (2 ^ 53) (exponent - 1) = magnitudeBits leadingBit exponent := by
  simp only [magnitudeBits, leadingBit, leastExponent] at *
  norm_num
  omega

/-- A quotient in the interval of a number is rounded to the number. -/
theorem nearest_of_within (negative : Bool) {num den mantissa : Nat} {exponent : Int}
    (positive : 0 < num) (divisor : 0 < den) (bits : mantissa < 2 ^ 53)
    (least : leastExponent ≤ exponent) (greatest : exponent ≤ 971)
    (normal : leadingBit ≤ mantissa ∨ exponent = leastExponent)
    (within : Within (num / den) mantissa exponent) :
    nearest negative num den = ofMagnitude negative (magnitudeBits mantissa exponent) := by
  obtain ⟨w, scaled⟩ : ∃ w : ℚ, (num : ℚ) / den = w * 2 ^ exponent :=
    ⟨num / den / 2 ^ exponent, (div_mul_cancel₀ _ (by positivity)).symm⟩
  rw [scaled] at within
  obtain ⟨low, high, odd⟩ := within.quarters
  have small : (mantissa : ℚ) + 1 ≤ 2 ^ 53 := by exact_mod_cast bits
  have ends := le_lowerEnd mantissa exponent
  have finite := magnitudeBits_lt_infinite bits least greatest
  rw [nearest_of_pos negative positive]
  by_cases full : exponent = leastExponent ∨ 2 ^ 52 ≤ w
  · have exponents : fittingExponent num den = exponent := by
      apply fittingExponent_eq positive divisor least
      · rw [scaled]
        apply mul_lt_mul_of_pos_right _ (by positivity)
        linarith
      · intro above
        rw [scaled]
        exact mul_le_mul_of_nonneg_right (full.resolve_left above.ne') (by positivity)
    have rounded : roundedMantissa num den = mantissa := by
      apply roundedMantissa_eq divisor (w := w) (exponents ▸ scaled)
      · linarith
      · linarith
      · intro isOdd
        obtain ⟨above, below⟩ := odd isOdd
        constructor <;> linarith
    rw [exponents, rounded, min_eq_right finite.le]
  · rw [not_or, not_le] at full
    obtain ⟨notLeast, less⟩ := full
    have above : leastExponent < exponent := lt_of_le_of_ne least (Ne.symm notLeast)
    have whole : Decimal.lowerEnd mantissa exponent < 2 ^ 54 := by
      have cast : (Decimal.lowerEnd mantissa exponent : ℚ) < 2 ^ 54 := by linarith
      exact_mod_cast cast
    -- Only the least mantissa of its exponent has an interval that reaches so low.
    obtain rfl : mantissa = leadingBit := by
      by_contra other
      have enough := normal.resolve_right notLeast
      rw [Decimal.lowerEnd, if_neg fun power => other power.1] at whole
      have wide : 2 ^ 54 = 4 * leadingBit := rfl
      omega
    have gap : (Decimal.lowerEnd leadingBit exponent : ℚ) = 2 ^ 54 - 1 := by
      rw [Decimal.lowerEnd, if_pos ⟨rfl, above⟩, leadingBit]
      norm_num
    rw [gap] at low
    have halved : (num : ℚ) / den = 2 * w * 2 ^ (exponent - 1) := by
      rw [scaled, zpow_sub_one₀ two_ne_zero]
      ring
    have exponents : fittingExponent num den = exponent - 1 := by
      apply fittingExponent_eq positive divisor (by omega)
      · rw [halved]
        apply mul_lt_mul_of_pos_right _ (by positivity)
        linarith
      · intro _
        rw [halved]
        apply mul_le_mul_of_nonneg_right _ (by positivity)
        linarith
    have rounded : roundedMantissa num den = 2 ^ 53 := by
      apply roundedMantissa_eq divisor (w := 2 * w) (exponents ▸ halved)
      · push_cast
        linarith
      · push_cast
        linarith
      · intro isOdd
        norm_num at isOdd
    rw [exponents, rounded, magnitudeBits_carried above, min_eq_right finite.le]

/-- A number that is exactly a whole one. -/
def IsWhole (x : Binary64) (n : Nat) : Prop :=
  ∃ mantissa exponent, x.value = .finite false mantissa exponent ∧
    (mantissa : ℚ) * 2 ^ exponent = n

theorem exists_value_nearest (negative : Bool) (num : Nat) {den : Nat} (divisor : 0 < den)
    (h : num < den * overflow) :
    ∃ mantissa exponent, (nearest negative num den).value = .finite negative mantissa exponent := by
  have finite (magnitude : Nat) (less : magnitude < infiniteMagnitude) :
      ∃ mantissa exponent,
        (ofMagnitude negative magnitude).value = .finite negative mantissa exponent := by
    rw [value_ofMagnitude negative less]
    split_ifs
    · exact ⟨_, _, rfl⟩
    · exact ⟨_, _, rfl⟩
  rcases Nat.eq_zero_or_pos num with rfl | positive
  · rw [nearest, if_pos rfl]
    exact finite 0 (by decide)
  · have bits := magnitudeBits_lt positive divisor h
    rw [nearest_of_pos negative positive, min_eq_right bits.le]
    exact finite _ bits

theorem isWhole_ofNat_of_units {n k : Nat} (h : n < overflow)
    (units : (ofNat n).units = k * 2 ^ 1074) : IsWhole (ofNat n) k := by
  obtain ⟨mantissa, exponent, value⟩ :=
    exists_value_nearest false n one_pos (by rwa [Nat.one_mul])
  obtain ⟨-, least, -⟩ := bounds_of_value value
  refine ⟨mantissa, exponent, value, ?_⟩
  rw [ofNat, units_of_value value] at units
  generalize steps : 1074 = scale at units
  have whole : (mantissa : ℚ) * 2 ^ (exponent - leastExponent).toNat = k * 2 ^ scale := by
    exact_mod_cast units
  have place : ((exponent - leastExponent).toNat : Int) = exponent + scale := by
    unfold leastExponent at *
    omega
  rw [← zpow_natCast, place, zpow_add₀ two_ne_zero, zpow_natCast, ← mul_assoc] at whole
  exact mul_right_cancel₀ (by positivity) whole

theorem isWhole_ofNat {n : Nat} (h : n ≤ 2 ^ 53) : IsWhole (ofNat n) n := by
  apply isWhole_ofNat_of_units (h.trans_lt (by decide +kernel))
  rcases Nat.lt_or_eq_of_le h with less | rfl
  · exact units_ofNat less
  · decide +kernel

theorem dyadic_ratio (m : Nat) (e : Int) :
    0 < (dyadic m e).2 ∧ ((dyadic m e).1 : ℚ) / (dyadic m e).2 = m * 2 ^ e := by
  have twos := Decimal.zpow_mul_pow_neg (show (2 : ℚ) ≠ 0 by norm_num) e
  unfold dyadic
  split_ifs with sign
  · refine ⟨one_pos, ?_⟩
    rw [Int.toNat_of_nonpos (neg_nonpos.mpr sign), pow_zero, mul_one] at twos
    rw [Nat.shiftLeft_eq, twos]
    push_cast
    rw [div_one]
  · rw [Int.toNat_of_nonpos (not_le.mp sign).le, pow_zero] at twos
    rw [Nat.shiftLeft_eq, Nat.one_mul]
    refine ⟨Nat.two_pow_pos _, ?_⟩
    push_cast
    rw [div_eq_iff (by positivity), mul_assoc, twos, mul_one]

theorem times_of_isWhole {x y : Binary64} {a b : Nat} (left : IsWhole x a) (right : IsWhole y b) :
    x.times y = nearest false (a * b) 1 := by
  obtain ⟨m, e, value, same⟩ := left
  obtain ⟨n, f, value', same'⟩ := right
  obtain ⟨divisor, ratio⟩ := dyadic_ratio (m * n) (e + f)
  simp only [times, value, value']
  apply nearest_congr _ divisor one_pos
  rw [ratio, zpow_add₀ two_ne_zero]
  push_cast
  rw [div_one, ← same, ← same']
  ring

theorem dividedBy_of_isWhole {x y : Binary64} {a b : Nat} (left : IsWhole x a)
    (right : IsWhole y b) (divides : 0 < b) : x.dividedBy y = nearest false a b := by
  obtain ⟨m, e, value, same⟩ := left
  obtain ⟨n, f, value', same'⟩ := right
  obtain ⟨divisor, ratio⟩ := dyadic_ratio m (e - f)
  have positive : 0 < n := by
    apply Nat.pos_of_ne_zero
    rintro rfl
    rw [Nat.cast_zero, zero_mul] at same'
    exact divides.ne (by exact_mod_cast same')
  simp only [dividedBy, value, value', if_neg positive.ne']
  apply nearest_congr _ (Nat.mul_pos divisor positive) divides
  rw [← same, ← same', Nat.cast_mul, ← div_div, ratio, zpow_sub₀ two_ne_zero]
  field_simp

theorem clampedRound_of_isWhole {x : Binary64} {n : Nat} (whole : IsWhole x n) (low high : Int) :
    x.clampedRound low high = max low (min high n) := by
  obtain ⟨m, e, value, same⟩ := whole
  obtain ⟨divisor, ratio⟩ := dyadic_ratio m e
  rw [same, div_eq_iff (by positivity)] at ratio
  have scaled : (dyadic m e).1 = n * (dyadic m e).2 := by exact_mod_cast ratio
  have quotient : (2 * ((dyadic m e).1 : Int) + (dyadic m e).2) / (2 * (dyadic m e).2) = n := by
    generalize (dyadic m e).2 = den at *
    have halves : 2 * ((n * den : Nat) : Int) + den = (2 * n + 1) * den := by
      push_cast
      ring
    rw [scaled, halves, Int.mul_ediv_mul_of_pos_left _ _ (by omega)]
    omega
  simp only [clampedRound, value, quotient, Bool.false_eq_true, if_false]

section

variable {n : Nat} (wide : 2 ^ 63 ≤ n) (fits : n < 2 ^ 64)
include wide fits

theorem fittingExponent_wide : fittingExponent n 1 = 11 := by
  have low : (2 : ℚ) ^ 63 ≤ n := by exact_mod_cast wide
  have high : (n : ℚ) < 2 ^ 64 := by exact_mod_cast fits
  have exponent : (2 : ℚ) ^ (11 : Int) = 2 ^ 11 := rfl
  refine fittingExponent_eq (by omega) one_pos (by decide) ?_ fun _ => ?_
  all_goals rw [Nat.cast_one, div_one, exponent, ← pow_add]
  · exact high
  · exact low

/-- The last eleven bits are rounded off. -/
theorem isWhole_ofNat_wide : IsWhole (ofNat n) (roundHalfEven n 2048 * 2048) := by
  have positive : 0 < n := by omega
  have small : n < overflow := fits.trans (by decide +kernel)
  apply isWhole_ofNat_of_units small
  rw [ofNat, units_nearest false positive Nat.one_pos (lt_overflow_of_lt fits), roundedMantissa,
    fittingExponent_wide wide fits]
  have exponents : (-11 : Int).toNat = 0 ∧ (11 : Int).toNat = 11 ∧
    ((11 : Int) - leastExponent).toNat = 11 + 1074 := by decide
  rw [exponents.1, exponents.2.1, exponents.2.2, pow_add, pow_zero, Nat.mul_one, Nat.one_mul,
    ← Nat.mul_assoc, show 2 ^ 11 = 2048 from rfl]

end

end QuoteGateway.Number.Binary64
