import Mathlib.Algebra.Order.Group.Unbundled.Int
import Mathlib.Tactic.Linarith
import Mathlib.Tactic.Ring
import QuoteGateway.Number.Binary64

/-!
# Rounding to binary64 numbers

Sizes of numbers are compared as whole numbers: the magnitude of a finite number is a multiple of
the least one. Rounding errs by at most half a step, and does not overflow below the middle between
the greatest finite number and the next power of two.
-/

namespace QuoteGateway.Number.Binary64

/-- A number below which rounding gives a finite result. -/
def overflow : Nat := (2 ^ 54 - 1) * 2 ^ 970

/-- The magnitude of a finite number, counted in units of the least one, 2 ^ -1074. -/
def units (x : Binary64) : Nat :=
  match x.value with
  | .finite _ mantissa exponent => mantissa * 2 ^ (exponent - leastExponent).toNat
  | _ => 0

theorem units_of_value {x : Binary64} {negative : Bool} {mantissa : Nat} {exponent : Int}
    (h : x.value = .finite negative mantissa exponent) :
    x.units = mantissa * 2 ^ (exponent - leastExponent).toNat := by
  rw [units, h]

theorem value_ofMagnitude (negative : Bool) {magnitude : Nat} (h : magnitude < infiniteMagnitude) :
    (ofMagnitude negative magnitude).value =
      if magnitude / leadingBit = 0 then .finite negative (magnitude % leadingBit) leastExponent
      else .finite negative (magnitude % leadingBit + leadingBit)
        ((magnitude / leadingBit : Nat) + leastExponent - 1) := by
  have bound : magnitude < 9218868437227405312 := h
  have bits : (ofMagnitude negative magnitude).bits.toNat =
      (if negative then 9223372036854775808 + magnitude else magnitude) := by
    rw [ofMagnitude, UInt64.toNat_ofNat']
    apply Nat.mod_eq_of_lt
    cases negative <;> simp only [signBit, if_true, if_false, Bool.false_eq_true] <;> omega
  have sign : (ofMagnitude negative magnitude).bits.toNat / signBit =
      (if negative then 1 else 0) := by
    rw [bits]
    cases negative <;> simp only [signBit, if_true, if_false, Bool.false_eq_true] <;> omega
  have biased : (ofMagnitude negative magnitude).bits.toNat / leadingBit % (topExponent + 1) =
      magnitude / leadingBit := by
    rw [bits]
    cases negative
    · simp only [leadingBit, topExponent, if_false, Bool.false_eq_true]
      omega
    · simp only [leadingBit, topExponent, if_true]
      omega
  have fraction : (ofMagnitude negative magnitude).bits.toNat % leadingBit =
      magnitude % leadingBit := by
    rw [bits]
    cases negative
    · rfl
    · simp only [leadingBit, if_true]
      omega
  have notTop : ¬ magnitude / leadingBit = topExponent := by
    simp only [leadingBit, topExponent]
    omega
  have negativeBit : ((if negative then 1 else 0) == 1) = negative := by cases negative <;> rfl
  simp only [value, sign, biased, fraction, notTop, negativeBit, if_false]

theorem isFinite_ofMagnitude (negative : Bool) {magnitude : Nat}
    (h : magnitude < infiniteMagnitude) : (ofMagnitude negative magnitude).isFinite = true := by
  rw [isFinite, value_ofMagnitude negative h]
  split_ifs <;> rfl

theorem bounds_of_value {x : Binary64} {negative : Bool} {mantissa : Nat} {exponent : Int}
    (h : x.value = .finite negative mantissa exponent) :
    mantissa < 2 ^ 53 ∧ leastExponent ≤ exponent ∧ exponent ≤ 971 := by
  unfold value at h
  simp only at h
  have fraction : x.bits.toNat % leadingBit < 4503599627370496 := Nat.mod_lt _ (by decide)
  have biased : x.bits.toNat / leadingBit % (topExponent + 1) < 2048 := Nat.mod_lt _ (by decide)
  split_ifs at h with top zero subnormal <;> cases h
  · simp only [leastExponent]
    omega
  · have below : ¬ x.bits.toNat / leadingBit % (topExponent + 1) = 2047 := top
    simp only [leadingBit, leastExponent] at *
    omega

theorem units_ofMagnitude (negative : Bool) {mantissa : Nat} {exponent : Int}
    (least : leastExponent ≤ exponent) (atMost : mantissa ≤ 2 ^ 53)
    (normal : leadingBit ≤ mantissa ∨ exponent = leastExponent)
    (finite : magnitudeBits mantissa exponent < infiniteMagnitude) :
    (ofMagnitude negative (magnitudeBits mantissa exponent)).units =
      mantissa * 2 ^ (exponent - leastExponent).toNat := by
  obtain ⟨steps, rfl⟩ : ∃ n : Nat, exponent = leastExponent + n :=
    ⟨(exponent - leastExponent).toNat, by omega⟩
  have distance : (leastExponent + steps - leastExponent).toNat = steps := by omega
  have carried : (leastExponent + steps - leastExponent + 1).toNat = steps + 1 := by omega
  rw [distance]
  unfold units
  rw [value_ofMagnitude negative finite, magnitudeBits, carried]
  by_cases small : mantissa < leadingBit
  · have zero : steps = 0 := by
      rcases normal with normal | normal
      · omega
      · omega
    subst zero
    rw [if_pos small, Nat.div_eq_of_lt small, Nat.mod_eq_of_lt small]
    simp
  · obtain ⟨fraction, rfl⟩ : ∃ n, mantissa = leadingBit + n := ⟨mantissa - leadingBit, by omega⟩
    have bound : fraction ≤ leadingBit := by
      have wide : 2 ^ 53 = 2 * leadingBit := rfl
      omega
    rw [if_neg small, Nat.add_sub_cancel_left]
    rcases Nat.lt_or_eq_of_le bound with inside | full
    · have quotient : ((steps + 1) * leadingBit + fraction) / leadingBit = steps + 1 := by
        rw [Nat.mul_comm, Nat.mul_add_div (by decide), Nat.div_eq_of_lt inside, Nat.add_zero]
      have remainder : ((steps + 1) * leadingBit + fraction) % leadingBit = fraction := by
        rw [Nat.mul_comm, Nat.mul_add_mod, Nat.mod_eq_of_lt inside]
      rw [quotient, remainder, if_neg (Nat.succ_ne_zero steps)]
      have back : (((steps + 1 : Nat) : Int) + leastExponent - 1 - leastExponent).toNat =
          steps := by omega
      simp only [back, Nat.add_comm fraction]
    · subst full
      -- A mantissa of 2 ^ 53 is 2 ^ 52 with the next exponent.
      have sum : (steps + 1) * leadingBit + leadingBit = leadingBit * (steps + 2) := by ring
      have quotient : leadingBit * (steps + 2) / leadingBit = steps + 2 :=
        Nat.mul_div_cancel_left _ (by decide)
      rw [sum, quotient, Nat.mul_mod_right, if_neg (Nat.succ_ne_zero _)]
      have back : (((steps + 2 : Nat) : Int) + leastExponent - 1 - leastExponent).toNat =
          steps + 1 := by omega
      simp only [back, Nat.zero_add, pow_succ]
      ring

theorem div_le_roundHalfEven (num den : Nat) : num / den ≤ roundHalfEven num den := by
  unfold roundHalfEven
  simp only
  split_ifs <;> omega

theorem roundHalfEven_le_div (num den : Nat) : roundHalfEven num den ≤ num / den + 1 := by
  unfold roundHalfEven
  simp only
  split_ifs <;> omega

theorem two_mul_roundHalfEven_le (num den : Nat) :
    2 * (den * roundHalfEven num den) ≤ 2 * num + den := by
  have parts := Nat.div_add_mod num den
  unfold roundHalfEven
  simp only
  split_ifs with down up even
  · omega
  · rw [Nat.mul_add]
    omega
  · omega
  · rw [Nat.mul_add]
    omega

theorem roundHalfEven_one (num : Nat) : roundHalfEven num 1 = num := by
  simp [roundHalfEven, Nat.mod_one]

/-- A quotient scaled by its exponent has at most 53 bits. -/
theorem lt_fittingExponent (num : Nat) {den : Nat} (divisor : 0 < den) :
    num * 2 ^ (-fittingExponent num den).toNat <
      2 ^ 53 * (den * 2 ^ (fittingExponent num den).toNat) := by
  have above : num < 2 ^ (num.log2 + 1) := Nat.lt_log2_self
  have below : 2 ^ den.log2 ≤ den := Nat.log2_self_le (by omega)
  unfold fittingExponent
  simp only [Nat.shiftLeft_eq]
  split_ifs with wide
  · generalize exponent : max leastExponent ((num.log2 : Int) - den.log2 - 52) = e
    have order : num.log2 + 1 + (-e).toNat ≤ 53 + den.log2 + e.toNat := by omega
    calc num * 2 ^ (-e).toNat < 2 ^ (num.log2 + 1) * 2 ^ (-e).toNat :=
          Nat.mul_lt_mul_of_pos_right above (by positivity)
      _ = 2 ^ (num.log2 + 1 + (-e).toNat) := (pow_add _ _ _).symm
      _ ≤ 2 ^ (53 + den.log2 + e.toNat) := Nat.pow_le_pow_right (by decide) order
      _ = 2 ^ 53 * (2 ^ den.log2 * 2 ^ e.toNat) := by rw [pow_add, pow_add, mul_assoc]
      _ ≤ 2 ^ 53 * (den * 2 ^ e.toNat) := by gcongr
  · generalize exponent : max leastExponent ((num.log2 : Int) - den.log2 - 53) = e
    have order : num.log2 + (-e).toNat ≤ 53 + den.log2 + e.toNat := by omega
    apply Nat.lt_of_mul_lt_mul_left (a := 2 ^ den.log2)
    calc 2 ^ den.log2 * (num * 2 ^ (-e).toNat) = num * 2 ^ den.log2 * 2 ^ (-e).toNat := by ring
      _ < den * 2 ^ num.log2 * 2 ^ (-e).toNat :=
          Nat.mul_lt_mul_of_pos_right (Nat.lt_of_not_le wide) (by positivity)
      _ = den * 2 ^ (num.log2 + (-e).toNat) := by rw [pow_add, mul_assoc]
      _ ≤ den * 2 ^ (53 + den.log2 + e.toNat) := by gcongr; decide
      _ = 2 ^ den.log2 * (2 ^ 53 * (den * 2 ^ e.toNat)) := by rw [pow_add, pow_add]; ring

/-- A quotient scaled by its exponent has no less than 53 bits, unless the exponent is the least. -/
theorem fittingExponent_le {num : Nat} (den : Nat) (positive : 0 < num)
    (above : leastExponent < fittingExponent num den) :
    2 ^ 52 * (den * 2 ^ (fittingExponent num den).toNat) ≤
      num * 2 ^ (-fittingExponent num den).toNat := by
  have below : 2 ^ num.log2 ≤ num := Nat.log2_self_le (by omega)
  have beyond : den < 2 ^ (den.log2 + 1) := Nat.lt_log2_self
  unfold fittingExponent at above ⊢
  simp only [Nat.shiftLeft_eq] at above ⊢
  split_ifs at above ⊢ with wide
  · have exponent := max_eq_right (lt_max_iff.mp above |>.resolve_left (lt_irrefl _)).le
    rw [exponent]
    generalize same : (num.log2 : Int) - den.log2 - 52 = e
    have order : 52 + den.log2 + e.toNat = num.log2 + (-e).toNat := by omega
    apply Nat.le_of_mul_le_mul_left _ (Nat.two_pow_pos den.log2)
    calc 2 ^ den.log2 * (2 ^ 52 * (den * 2 ^ e.toNat))
        = den * 2 ^ (52 + den.log2 + e.toNat) := by rw [pow_add, pow_add]; ring
      _ = den * 2 ^ num.log2 * 2 ^ (-e).toNat := by rw [order, pow_add, mul_assoc]
      _ ≤ num * 2 ^ den.log2 * 2 ^ (-e).toNat := Nat.mul_le_mul_right _ wide
      _ = 2 ^ den.log2 * (num * 2 ^ (-e).toNat) := by ring
  · have exponent := max_eq_right (lt_max_iff.mp above |>.resolve_left (lt_irrefl _)).le
    rw [exponent]
    generalize same : (num.log2 : Int) - den.log2 - 53 = e
    have order : 52 + (den.log2 + 1) + e.toNat = num.log2 + (-e).toNat := by omega
    calc 2 ^ 52 * (den * 2 ^ e.toNat) ≤ 2 ^ 52 * (2 ^ (den.log2 + 1) * 2 ^ e.toNat) := by gcongr
      _ = 2 ^ (52 + (den.log2 + 1) + e.toNat) := by ring
      _ = 2 ^ num.log2 * 2 ^ (-e).toNat := by rw [order, pow_add]
      _ ≤ num * 2 ^ (-e).toNat := Nat.mul_le_mul_right _ below

theorem leastExponent_le_fittingExponent (num den : Nat) :
    leastExponent ≤ fittingExponent num den := le_max_left _ _

/-- The mantissa of a rounded quotient, before it is carried. -/
def roundedMantissa (num den : Nat) : Nat :=
  roundHalfEven (num * 2 ^ (-fittingExponent num den).toNat)
    (den * 2 ^ (fittingExponent num den).toNat)

theorem nearest_of_pos (negative : Bool) {num : Nat} (positive : 0 < num) (den : Nat) :
    nearest negative num den = ofMagnitude negative (min infiniteMagnitude
      (magnitudeBits (roundedMantissa num den) (fittingExponent num den))) := by
  simp only [nearest, if_neg positive.ne', roundedMantissa, Nat.shiftLeft_eq]
  split_ifs with sign
  · rw [Int.toNat_of_nonpos (neg_nonpos.mpr sign), pow_zero, mul_one]
  · rw [Int.toNat_of_nonpos (not_le.mp sign).le, pow_zero, mul_one]

theorem roundedMantissa_le (num : Nat) {den : Nat} (divisor : 0 < den) :
    roundedMantissa num den ≤ 2 ^ 53 := by
  have bits := lt_fittingExponent num divisor
  have whole := (Nat.div_lt_iff_lt_mul (by positivity)).mpr bits
  exact (roundHalfEven_le_div _ _).trans whole

theorem leadingBit_le_roundedMantissa {num den : Nat} (positive : 0 < num) (divisor : 0 < den)
    (above : leastExponent < fittingExponent num den) :
    leadingBit ≤ roundedMantissa num den := by
  have bits := fittingExponent_le den positive above
  have whole := (Nat.le_div_iff_mul_le (by positivity)).mpr bits
  exact whole.trans (div_le_roundHalfEven _ _)

theorem fittingExponent_le_greatest {num den : Nat} (positive : 0 < num)
    (h : num < den * overflow) : fittingExponent num den ≤ 971 := by
  by_contra above
  have bits := fittingExponent_le den positive (by simp only [leastExponent]; omega)
  generalize fittingExponent num den = e at *
  rw [Int.toNat_of_nonpos (show -e ≤ 0 by omega), pow_zero, mul_one] at bits
  obtain ⟨more, same⟩ : ∃ more, e.toNat = 970 + more := ⟨e.toNat - 970, by omega⟩
  have large : 2 ^ 2 ≤ 2 ^ more := Nat.pow_le_pow_right (by decide) (by omega)
  rw [same, pow_add] at bits
  have beyond : den * overflow ≤ num := calc
    den * overflow ≤ den * (2 ^ 52 * (2 ^ 970 * 2 ^ more)) := by
      apply Nat.mul_le_mul_left
      unfold overflow
      generalize 2 ^ 970 = step
      calc (2 ^ 54 - 1) * step ≤ 2 ^ 52 * (step * 2 ^ 2) := by omega
        _ ≤ 2 ^ 52 * (step * 2 ^ more) := by gcongr
    _ = 2 ^ 52 * (den * (2 ^ 970 * 2 ^ more)) := Nat.mul_left_comm _ _ _
    _ ≤ num := bits
  omega

theorem roundedMantissa_lt {num den : Nat} (h : num < den * overflow)
    (last : fittingExponent num den = 971) : roundedMantissa num den < 2 ^ 53 := by
  have half := two_mul_roundHalfEven_le (num * 2 ^ (-fittingExponent num den).toNat)
    (den * 2 ^ (fittingExponent num den).toNat)
  rw [← roundedMantissa, last] at half
  have exponents : (971 : Int).toNat = 970 + 1 ∧ (-971 : Int).toNat = 0 := by decide
  rw [exponents.1, exponents.2, pow_zero, mul_one, pow_succ] at half
  unfold overflow at h
  generalize (2 : Nat) ^ 970 = step at *
  have coefficient : 2 ^ 54 - 1 = 18014398509481983 := rfl
  rw [coefficient] at h
  by_contra full
  have wide : den * (step * 2) * 2 ^ 53 ≤ den * (step * 2) * roundedMantissa num den :=
    Nat.mul_le_mul_left _ (by omega)
  linarith

/-- The bits of a rounded quotient are those of a finite number below the overflow. -/
theorem magnitudeBits_lt {num den : Nat} (positive : 0 < num) (divisor : 0 < den)
    (h : num < den * overflow) :
    magnitudeBits (roundedMantissa num den) (fittingExponent num den) < infiniteMagnitude := by
  have atMost := roundedMantissa_le num divisor
  have least := leastExponent_le_fittingExponent num den
  have greatest := fittingExponent_le_greatest positive h
  have last := roundedMantissa_lt h
  unfold magnitudeBits infiniteMagnitude topExponent
  split_ifs with small
  · simp only [leadingBit] at *
    omega
  · simp only [leadingBit, leastExponent] at *
    omega

theorem isFinite_nearest (negative : Bool) (num : Nat) {den : Nat} (divisor : 0 < den)
    (h : num < den * overflow) : (nearest negative num den).isFinite = true := by
  rcases Nat.eq_zero_or_pos num with rfl | positive
  · exact isFinite_ofMagnitude negative (by decide)
  · have bits := magnitudeBits_lt positive divisor h
    rw [nearest_of_pos negative positive, min_eq_right bits.le]
    exact isFinite_ofMagnitude negative bits

theorem units_nearest (negative : Bool) {num den : Nat} (positive : 0 < num) (divisor : 0 < den)
    (h : num < den * overflow) :
    (nearest negative num den).units =
      roundedMantissa num den * 2 ^ (fittingExponent num den - leastExponent).toNat := by
  have bits := magnitudeBits_lt positive divisor h
  have least := leastExponent_le_fittingExponent num den
  rw [nearest_of_pos negative positive, min_eq_right bits.le]
  apply units_ofMagnitude negative least (roundedMantissa_le num divisor) _ bits
  rcases Int.lt_or_eq_of_le least with above | equal
  · exact .inl (leadingBit_le_roundedMantissa positive divisor above)
  · exact .inr equal.symm

theorem units_nearest_zero (negative : Bool) (den : Nat) :
    (nearest negative 0 den).units = 0 := by
  rw [nearest, if_pos rfl]
  cases negative <;> rfl

theorem lt_overflow_of_lt {n : Nat} (h : n < 2 ^ 64) : n < 1 * overflow :=
  h.trans (by decide +kernel)

theorem isFinite_ofNat {n : Nat} (h : n < 2 ^ 64) : (ofNat n).isFinite = true :=
  isFinite_nearest false n one_pos (lt_overflow_of_lt h)

theorem fittingExponent_lt {n : Nat} (bits : Nat) (positive : 0 < n) (h : n < 2 ^ (52 + bits)) :
    fittingExponent n 1 < bits := by
  by_contra above
  have wide := fittingExponent_le 1 positive (by simp only [leastExponent]; omega)
  generalize fittingExponent n 1 = e at *
  rw [Int.toNat_of_nonpos (show -e ≤ 0 by omega), pow_zero, mul_one, one_mul, ← pow_add] at wide
  have more : 2 ^ (52 + bits) ≤ 2 ^ (52 + e.toNat) :=
    Nat.pow_le_pow_right (by decide) (by omega)
  omega

theorem units_ofNat_of_exponent {n : Nat} (h : n < 2 ^ 64) (exponent : fittingExponent n 1 ≤ 0) :
    (ofNat n).units = n * 2 ^ 1074 := by
  rcases Nat.eq_zero_or_pos n with rfl | positive
  · rw [ofNat, units_nearest_zero, Nat.zero_mul]
  · have least := leastExponent_le_fittingExponent n 1
    rw [ofNat, units_nearest false positive Nat.one_pos (lt_overflow_of_lt h), roundedMantissa]
    generalize fittingExponent n 1 = e at *
    have exponents : e.toNat = 0 ∧ (-e).toNat + (e - leastExponent).toNat = 1074 := by
      simp only [leastExponent] at *
      omega
    rw [exponents.1, pow_zero, mul_one, roundHalfEven_one, mul_assoc, ← pow_add, exponents.2]

theorem units_ofNat {n : Nat} (h : n < 2 ^ 53) : (ofNat n).units = n * 2 ^ 1074 := by
  rcases Nat.eq_zero_or_pos n with rfl | positive
  · rw [ofNat, units_nearest_zero, Nat.zero_mul]
  · have small := fittingExponent_lt 1 positive h
    exact units_ofNat_of_exponent (h.trans (by decide)) (by omega)

theorem units_ofNat_le {n : Nat} (bits : Nat) (h : n < 2 ^ (54 + bits)) (atMost : bits ≤ 10) :
    (ofNat n).units ≤ (n + 2 ^ bits) * 2 ^ 1074 := by
  have fits : n < 2 ^ 64 := h.trans_le (Nat.pow_le_pow_right (by decide) (by omega))
  by_cases exponent : fittingExponent n 1 ≤ 0
  · rw [units_ofNat_of_exponent fits exponent]
    exact Nat.mul_le_mul_right _ (Nat.le_add_right n _)
  have positive : 0 < n := by
    apply Nat.pos_of_ne_zero
    rintro rfl
    exact exponent (by decide)
  have small : fittingExponent n 1 < (bits + 2 : Nat) :=
    fittingExponent_lt _ positive (by rwa [show 52 + (bits + 2) = 54 + bits by omega])
  have half := two_mul_roundHalfEven_le (n * 2 ^ (-fittingExponent n 1).toNat)
    (1 * 2 ^ (fittingExponent n 1).toNat)
  rw [ofNat, units_nearest false positive Nat.one_pos (lt_overflow_of_lt fits)]
  unfold roundedMantissa
  generalize fittingExponent n 1 = e at *
  have dropped : (-e).toNat = 0 ∧ (e - leastExponent).toNat = e.toNat + 1074 := by
    simp only [leastExponent]
    omega
  have step : 2 ^ e.toNat ≤ 2 ^ (bits + 1) := Nat.pow_le_pow_right (by decide) (by omega)
  rw [dropped.1, pow_zero, mul_one, one_mul] at half
  rw [dropped.1, dropped.2, pow_zero, mul_one, one_mul, pow_add, ← mul_assoc]
  apply Nat.mul_le_mul_right
  rw [pow_succ] at step
  rw [mul_comm]
  omega

theorem exists_value_of_isFinite {x : Binary64} (h : x.isFinite = true) :
    ∃ negative mantissa exponent, x.value = .finite negative mantissa exponent := by
  unfold isFinite at h
  cases value : x.value with
  | nan => simp [value] at h
  | infinite negative => simp [value] at h
  | finite negative mantissa exponent => exact ⟨negative, mantissa, exponent, rfl⟩

/-- A product is finite if its exact value is below the overflow. -/
theorem isFinite_times {x y : Binary64} (hx : x.isFinite = true) (hy : y.isFinite = true)
    (h : x.units * y.units < overflow * 2 ^ 2148) : (x.times y).isFinite = true := by
  obtain ⟨s, m, e, left⟩ := exists_value_of_isFinite hx
  obtain ⟨t, n, f, right⟩ := exists_value_of_isFinite hy
  obtain ⟨-, leastLeft, -⟩ := bounds_of_value left
  obtain ⟨-, leastRight, -⟩ := bounds_of_value right
  rw [units_of_value left, units_of_value right, Nat.mul_mul_mul_comm, ← pow_add] at h
  simp only [times, left, right, dyadic]
  simp only [leastExponent] at *
  split_ifs with sign
  · apply isFinite_nearest _ _ Nat.one_pos
    have exponents : (e - -1074).toNat + (f - -1074).toNat = (e + f).toNat + 2148 := by omega
    rw [exponents, pow_add, ← mul_assoc] at h
    rw [Nat.shiftLeft_eq, one_mul]
    exact Nat.lt_of_mul_lt_mul_right h
  · rw [Nat.shiftLeft_eq, one_mul]
    apply isFinite_nearest _ _ (Nat.two_pow_pos _)
    generalize together : (e - -1074).toNat + (f - -1074).toNat = shift at h
    have exponents : 2148 = (-(e + f)).toNat + shift := by omega
    rw [exponents, pow_add, ← mul_assoc, mul_comm overflow] at h
    exact Nat.lt_of_mul_lt_mul_right h

end QuoteGateway.Number.Binary64
