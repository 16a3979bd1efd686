import Mathlib.Algebra.Order.Field.Power
import Mathlib.Algebra.Order.Field.Rat
import Mathlib.Tactic.FieldSimp
import QuoteGateway.Number.Shortest
import QuoteGateway.Proofs.Number.Rounding

/-!
# Bounds of shortest decimals

A shortest decimal has at most seventeen digits and is not above the interval that rounds to its
number. The comparisons of whole numbers behind it are comparisons of fractions.
-/

namespace QuoteGateway.Number.Decimal

theorem zpow_mul_pow_neg {a : ℚ} (h : a ≠ 0) (k : Int) : a ^ k * a ^ (-k).toNat = a ^ k.toNat := by
  rw [← zpow_natCast, ← zpow_natCast, ← zpow_add₀ h]
  congr 1
  omega

/-- What both sides of a comparison are scaled by. -/
def balance (k e : Int) : ℚ := 10 ^ (-k).toNat * 2 ^ (-e).toNat

theorem balance_pos (k e : Int) : 0 < balance k e := by
  unfold balance
  positivity

theorem balanced_fst (c : Nat) (k : Int) (x : Nat) (e : Int) :
    ((balanced c k x e).1 : ℚ) = c * 10 ^ k * balance k e := by
  have tens := zpow_mul_pow_neg (show (10 : ℚ) ≠ 0 by norm_num) k
  simp only [balanced, balance, Nat.shiftLeft_eq, tenTo, Nat.pow_eq]
  push_cast
  rw [← tens]
  ring

theorem balanced_snd (c : Nat) (k : Int) (x : Nat) (e : Int) :
    ((balanced c k x e).2 : ℚ) = x * 2 ^ e * balance k e := by
  have twos := zpow_mul_pow_neg (show (2 : ℚ) ≠ 0 by norm_num) e
  simp only [balanced, balance, Nat.shiftLeft_eq, tenTo, Nat.pow_eq]
  push_cast
  rw [← twos]
  ring

theorem balanced_le_iff (c : Nat) (k : Int) (x : Nat) (e : Int) :
    (balanced c k x e).1 ≤ (balanced c k x e).2 ↔ (c : ℚ) * 10 ^ k ≤ x * 2 ^ e := by
  rw [← Nat.cast_le (α := ℚ), balanced_fst, balanced_snd]
  exact mul_le_mul_iff_of_pos_right (balance_pos k e)

/-- What reads back as a number lies between the ends of its interval. -/
theorem readsBack_spec {c : Nat} {k : Int} {mantissa : Nat} {exponent : Int}
    (h : readsBack c k mantissa exponent = true) :
    (balanced c k (lowerEnd mantissa exponent) (exponent - 2)).2 ≤
        (balanced c k (lowerEnd mantissa exponent) (exponent - 2)).1 ∧
      (balanced c k (upperEnd mantissa) (exponent - 2)).1 ≤
        (balanced c k (upperEnd mantissa) (exponent - 2)).2 := by
  unfold readsBack at h
  simp only at h
  split_ifs at h
  · rw [Bool.and_eq_true, decide_eq_true_eq, decide_eq_true_eq] at h
    exact h
  · rw [Bool.and_eq_true, decide_eq_true_eq, decide_eq_true_eq] at h
    exact ⟨h.1.le, h.2.le⟩

theorem le_of_readsBack {c : Nat} {k : Int} {mantissa : Nat} {exponent : Int}
    (h : readsBack c k mantissa exponent = true) :
    (c : ℚ) * 10 ^ k ≤ (upperEnd mantissa : ℚ) * 2 ^ (exponent - 2) :=
  (balanced_le_iff ..).mp (readsBack_spec h).2

theorem pos_of_readsBack {c : Nat} {k : Int} {mantissa : Nat} {exponent : Int}
    (positive : 0 < mantissa) (h : readsBack c k mantissa exponent = true) : 0 < c := by
  have low := (readsBack_spec h).1
  have ends : 0 < lowerEnd mantissa exponent := by
    unfold lowerEnd
    split_ifs <;> omega
  apply Nat.pos_of_ne_zero
  rintro rfl
  simp only [balanced, Nat.zero_mul, Nat.shiftLeft_eq, tenTo, Nat.pow_eq, Nat.le_zero,
    mul_eq_zero, Nat.pow_eq_zero] at low
  omega

/-- The digits of a number scaled by a power of ten tell how large it is. -/
theorem lt_of_scaled (mantissa scale : Nat) (exponent : Int) :
    (mantissa : ℚ) * 2 ^ exponent < 10 ^ (((Nat.toDigits 10 ((mantissa * tenTo scale) <<<
      exponent.toNat >>> (-exponent).toNat)).length : Int) - scale) := by
  generalize scaled : (mantissa * tenTo scale) <<< exponent.toNat >>> (-exponent).toNat = s
  have positive : 0 < (Nat.toDigits 10 s).length := Nat.length_toDigits_pos
  have below : s < 10 ^ (Nat.toDigits 10 s).length :=
    (Nat.length_toDigits_le_iff (by decide) positive).mp le_rfl
  generalize (Nat.toDigits 10 s).length = len at *
  rw [Nat.shiftLeft_eq, Nat.shiftRight_eq_div_pow] at scaled
  subst scaled
  rw [Nat.div_lt_iff_lt_mul (Nat.two_pow_pos _), tenTo, Nat.pow_eq] at below
  have fractions : (mantissa : ℚ) * 10 ^ scale * 2 ^ exponent.toNat <
      10 ^ len * 2 ^ (-exponent).toNat := by exact_mod_cast below
  rw [← zpow_mul_pow_neg (show (2 : ℚ) ≠ 0 by norm_num)] at fractions
  rw [zpow_sub₀ (by norm_num), zpow_natCast, zpow_natCast, lt_div_iff₀ (by positivity)]
  apply lt_of_mul_lt_mul_right _ (show (0 : ℚ) ≤ 2 ^ (-exponent).toNat by positivity)
  calc (mantissa : ℚ) * 2 ^ exponent * 10 ^ scale * 2 ^ (-exponent).toNat
      = mantissa * 10 ^ scale * (2 ^ exponent * 2 ^ (-exponent).toNat) := by ring
    _ < 10 ^ len * 2 ^ (-exponent).toNat := fractions

theorem lt_leadingPlace (mantissa : Nat) (exponent : Int) :
    (mantissa : ℚ) * 2 ^ exponent < 10 ^ (leadingPlace mantissa exponent + 1) := by
  refine (lt_of_scaled mantissa 400 exponent).trans_eq ?_
  unfold leadingPlace
  simp only
  congr 1
  omega

theorem le_leadingPlace (mantissa : Nat) (exponent : Int) :
    -400 ≤ leadingPlace mantissa exponent := by
  have positive : 0 < (Nat.toDigits 10 ((mantissa * tenTo 400) <<< exponent.toNat >>>
    (-exponent).toNat)).length := Nat.length_toDigits_pos
  unfold leadingPlace
  simp only
  omega

def neighbour (k : Int) (mantissa : Nat) (exponent : Int) : Nat :=
  (balanced 1 k mantissa exponent).2 / (balanced 1 k mantissa exponent).1

theorem neighbour_le (k : Int) (mantissa : Nat) (exponent : Int) :
    (neighbour k mantissa exponent : ℚ) * 10 ^ k ≤ mantissa * 2 ^ exponent := by
  have whole := Nat.div_mul_le_self (balanced 1 k mantissa exponent).2
    (balanced 1 k mantissa exponent).1
  rw [← Nat.cast_le (α := ℚ), Nat.cast_mul, balanced_fst, balanced_snd, Nat.cast_one, one_mul,
    ← mul_assoc] at whole
  exact le_of_mul_le_mul_right whole (balance_pos k exponent)

/-- What is found on a grid reads back, and is not more than one step above the number. -/
theorem onGrid_spec {k : Int} {mantissa : Nat} {exponent : Int} {c : Nat}
    (h : onGrid k mantissa exponent = some c) :
    readsBack c k mantissa exponent = true ∧
      ∃ below : Nat, c ≤ below + 1 ∧ (below : ℚ) * 10 ^ k ≤ mantissa * 2 ^ exponent := by
  have under := neighbour_le k mantissa exponent
  unfold onGrid at h
  unfold neighbour at under
  simp only at h
  generalize (balanced 1 k mantissa exponent).2 / (balanced 1 k mantissa exponent).1 = below at *
  cases low : readsBack below k mantissa exponent with
  | false =>
    cases high : readsBack (below + 1) k mantissa exponent with
    | false => simp [low, high] at h
    | true =>
      obtain rfl : below + 1 = c := by simpa [low, high] using h
      exact ⟨high, below, le_rfl, under⟩
  | true =>
    cases high : readsBack (below + 1) k mantissa exponent with
    | false =>
      obtain rfl : below = c := by simpa [low, high] using h
      exact ⟨low, below, Nat.le_succ _, under⟩
    | true =>
      simp only [low, high] at h
      split_ifs at h
      · obtain rfl := Option.some.inj h
        exact ⟨low, below, Nat.le_succ _, under⟩
      · obtain rfl := Option.some.inj h
        exact ⟨high, below, le_rfl, under⟩

theorem stripped_spec (fuel c : Nat) (k : Int) :
    ∃ zeros : Nat, (stripped fuel c k).exponent = k + zeros ∧
      (stripped fuel c k).digits * 10 ^ zeros = c := by
  induction fuel generalizing c k with
  | zero => exact ⟨0, by simp [stripped], by simp [stripped]⟩
  | succ fuel ih =>
    rw [stripped]
    by_cases zero : c % 10 = 0
    · obtain ⟨zeros, exponent, digits⟩ := ih (c / 10) (k + 1)
      refine ⟨zeros + 1, ?_, ?_⟩
      · rw [if_pos zero, exponent]
        push_cast
        ring
      · rw [if_pos zero, pow_succ, ← mul_assoc, digits]
        omega
    · exact ⟨0, by simp [zero], by simp [zero]⟩

/-- Bounds of the decimals that finite numbers are written with. The last one excluded reads back as
the greatest number, but another one is nearer to it. -/
structure Bounded (d : Decimal) : Prop where
  zero : d.digits = 0 → d.exponent = 0
  digits : d.digits ≤ 10 ^ 17
  exponent : -416 ≤ d.exponent
  size : ∀ k : Nat, d.exponent = k → d.digits * 10 ^ k ≤ Binary64.overflow
  notLast : d ≠ ⟨17976931348623158, 292⟩

theorem bounded_zero : Bounded ⟨0, 0⟩ where
  zero _ := rfl
  digits := by decide
  exponent := by decide
  size _ _ := by rw [Nat.zero_mul]; exact Nat.zero_le _
  notLast := by decide

section OnGrid

variable {mantissa : Nat} {exponent : Int} {extra c : Nat}

theorem le_of_onGrid (few : extra < 17)
    (h : onGrid (leadingPlace mantissa exponent - (extra : Int)) mantissa exponent = some c) :
    c ≤ 10 ^ 17 := by
  obtain ⟨-, below, near, under⟩ := onGrid_spec h
  have small := under.trans_lt (lt_leadingPlace mantissa exponent)
  have split : leadingPlace mantissa exponent + 1 =
      ((extra + 1 : Nat) : Int) + (leadingPlace mantissa exponent - (extra : Int)) := by omega
  rw [split, zpow_add₀ (by norm_num), zpow_natCast] at small
  have digits := lt_of_mul_lt_mul_right small (by positivity)
  have whole : below < 10 ^ (extra + 1) := by exact_mod_cast digits
  have limit : 10 ^ (extra + 1) ≤ 10 ^ 17 := Nat.pow_le_pow_right (by decide) few
  omega

theorem upperEnd_le {last power : Nat} (ends : upperEnd mantissa ≤ last)
    (greatest : exponent - 2 ≤ power) :
    (upperEnd mantissa : ℚ) * 2 ^ (exponent - 2) ≤ (last * 2 ^ power : Nat) := by
  have powers : (2 : ℚ) ^ (exponent - 2) ≤ 2 ^ (power : Int) :=
    zpow_le_zpow_right₀ one_le_two greatest
  rw [zpow_natCast] at powers
  rw [Nat.cast_mul, Nat.cast_pow]
  exact mul_le_mul (Nat.cast_le.mpr ends) powers (by positivity) (by positivity)

theorem upperEnd_le_overflow (bits : mantissa < 2 ^ 53) (greatest : exponent ≤ 971) :
    (upperEnd mantissa : ℚ) * 2 ^ (exponent - 2) ≤ Binary64.overflow := by
  have whole : (2 ^ 55 - 2) * 2 ^ 969 = Binary64.overflow := by
    rw [Binary64.overflow, pow_succ 2 969]
    omega
  rw [← whole]
  apply upperEnd_le
  · rw [upperEnd]
    omega
  · omega

/-- The upper ends of all other numbers are less by an interval. -/
theorem upperEnd_le_of_smaller (bits : mantissa < 2 ^ 53) (greatest : exponent ≤ 971)
    (smaller : mantissa ≠ 2 ^ 53 - 1 ∨ exponent ≠ 971) :
    (upperEnd mantissa : ℚ) * 2 ^ (exponent - 2) ≤ ((2 ^ 55 - 6) * 2 ^ 969 : Nat) := by
  by_cases last : exponent = 971
  · apply upperEnd_le
    · rw [upperEnd]
      omega
    · omega
  · have half : (2 ^ 55 - 2) * 2 ^ 968 ≤ (2 ^ 55 - 6) * 2 ^ 969 := by
      rw [pow_succ 2 968]
      omega
    refine le_trans ?_ (Nat.cast_le.mpr half)
    apply upperEnd_le
    · rw [upperEnd]
      omega
    · omega

/-- The greatest number is written with another last digit. -/
theorem ne_of_onGrid (bits : mantissa < 2 ^ 53) (greatest : exponent ≤ 971) :
    onGrid 292 mantissa exponent ≠ some 17976931348623158 := by
  intro h
  have ends := le_of_readsBack (onGrid_spec h).1
  by_cases smaller : mantissa ≠ 2 ^ 53 - 1 ∨ exponent ≠ 971
  · have fractions := ends.trans (upperEnd_le_of_smaller bits greatest smaller)
    have whole : 17976931348623158 * 10 ^ 292 ≤ (2 ^ 55 - 6) * 2 ^ 969 := by
      exact_mod_cast fractions
    revert whole
    decide +kernel
  · rw [not_or, not_not, not_not] at smaller
    rw [smaller.1, smaller.2] at h
    revert h
    decide +kernel

theorem bounded_of_onGrid (positive : 0 < mantissa) (bits : mantissa < 2 ^ 53)
    (greatest : exponent ≤ 971) (few : extra < 17)
    (h : onGrid (leadingPlace mantissa exponent - (extra : Int)) mantissa exponent = some c)
    (fuel : Nat) :
    (stripped fuel c (leadingPlace mantissa exponent - (extra : Int))).Bounded := by
  have found := pos_of_readsBack positive (onGrid_spec h).1
  have seventeen := le_of_onGrid few h
  have ends := (le_of_readsBack (onGrid_spec h).1).trans (upperEnd_le_overflow bits greatest)
  have place := le_leadingPlace mantissa exponent
  have excluded := ne_of_onGrid bits greatest
  generalize grid : leadingPlace mantissa exponent - (extra : Int) = k at *
  obtain ⟨zeros, shifted, digits⟩ := stripped_spec fuel c k
  generalize stripped fuel c k = d at *
  subst digits
  refine ⟨?_, ?_, ?_, ?_, ?_⟩
  · intro none
    rw [none, Nat.zero_mul] at found
    exact absurd found (Nat.lt_irrefl 0)
  · exact (Nat.le_mul_of_pos_right _ (Nat.pow_pos (by decide))).trans seventeen
  · omega
  · intro k' same
    have value : ((d.digits * 10 ^ zeros : Nat) : ℚ) * 10 ^ k = (d.digits * 10 ^ k' : Nat) := by
      rw [shifted] at same
      push_cast
      rw [mul_assoc, ← zpow_natCast 10 k', ← same, zpow_add₀ (by norm_num), zpow_natCast]
      ring
    rw [value, Nat.cast_le] at ends
    exact ends
  · rintro rfl
    simp only at shifted seventeen excluded
    have none : zeros = 0 := by
      by_contra some
      have ten : 10 ^ 1 ≤ 10 ^ zeros := Nat.pow_le_pow_right (by decide) (by omega)
      omega
    subst none
    rw [Nat.cast_zero, add_zero] at shifted
    subst shifted
    exact excluded h

end OnGrid

/-- Shortest decimals of finite numbers are within the bounds. -/
theorem bounded_shortest {mantissa : Nat} {exponent : Int} (positive : 0 < mantissa)
    (bits : mantissa < 2 ^ 53) (greatest : exponent ≤ 971) :
    (shortest mantissa exponent).Bounded := by
  unfold shortest
  simp only
  generalize search : List.findSome? _ _ = found
  cases found with
  | none => exact bounded_zero
  | some d =>
    obtain ⟨extra, member, there⟩ := List.exists_of_findSome?_eq_some search
    obtain ⟨c, onGrid, rfl⟩ := Option.map_eq_some_iff.mp there
    exact bounded_of_onGrid positive bits greatest (List.mem_range.mp member) onGrid 17

theorem Bounded.exponent_le {d : Decimal} (h : d.Bounded) : d.exponent ≤ 308 := by
  by_contra above
  obtain ⟨more, same⟩ : ∃ more : Nat, d.exponent = (309 + more : Nat) :=
    ⟨(d.exponent - 309).toNat, by omega⟩
  have positive : 0 < d.digits := by
    apply Nat.pos_of_ne_zero
    intro none
    have := h.zero none
    omega
  have size := h.size _ same
  have large : 10 ^ 309 ≤ d.digits * 10 ^ (309 + more) := by
    rw [pow_add]
    exact (Nat.le_mul_of_pos_right _ (Nat.pow_pos (by decide))).trans
      (Nat.le_mul_of_pos_left _ positive)
  have beyond : Binary64.overflow < 10 ^ 309 := by decide +kernel
  omega

end QuoteGateway.Number.Decimal
