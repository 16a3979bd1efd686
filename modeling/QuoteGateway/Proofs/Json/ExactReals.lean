import QuoteGateway.Proofs.Json.Reals
import QuoteGateway.Proofs.Number.ShortestReads

/-!
# Real numbers that are read back exactly

A significand of at most 53 bits is a binary64 number, and so is a power of ten up to the 22nd. The
quick rule then rounds only once, and what is rounded lies in the interval of the number written.
-/

namespace QuoteGateway.Json

open Number (Binary64 Decimal)
open Number.Binary64 (IsWhole Within ofMagnitude magnitudeBits signBit leadingBit leastExponent)

theorem signBit_xor {magnitude : Nat} (h : magnitude < 2 ^ 63) :
    magnitude ^^^ signBit = signBit + magnitude := by
  have sign : signBit = 2 ^ 63 := rfl
  have apart := Nat.two_pow_add_eq_or_of_lt h 1
  rw [Nat.mul_one] at apart
  rw [sign, apart, Nat.xor_comm]
  apply Nat.eq_of_testBit_eq
  intro i
  rw [Nat.testBit_xor, Nat.testBit_or, Nat.testBit_two_pow]
  by_cases last : 63 = i
  · subst last
    rw [Nat.testBit_lt_two_pow h, decide_eq_true rfl]
    rfl
  · rw [decide_eq_false last, Bool.false_xor, Bool.false_or]

theorem negate_ofMagnitude {magnitude : Nat} (h : magnitude < 2 ^ 63) :
    (ofMagnitude false magnitude).negate = ofMagnitude true magnitude := by
  have range : signBit + magnitude < 2 ^ 64 := by
    unfold signBit
    omega
  simp only [Binary64.negate, ofMagnitude, Bool.false_eq_true, if_false, if_true,
    Binary64.mk.injEq]
  apply UInt64.toNat.inj
  rw [UInt64.toNat_xor, UInt64.toNat_ofNat', UInt64.toNat_ofNat', Nat.mod_eq_of_lt (by omega),
    Nat.mod_eq_of_lt range, ← signBit_xor h]
  rfl

theorem signed_ofMagnitude (negative : Bool) {magnitude : Nat} (h : magnitude < 2 ^ 63) :
    signed negative (ofMagnitude false magnitude) = ofMagnitude negative magnitude := by
  cases negative with
  | false => rfl
  | true => exact negate_ofMagnitude h

theorem isWhole_powerOfTen {k : Nat} (h : k ≤ 22) : IsWhole (powerOfTen k) (10 ^ k) := by
  have all : ∀ k < 23, 10 ^ k < Binary64.overflow ∧
      (Binary64.ofNat (10 ^ k)).units = 10 ^ k * 2 ^ 1074 := by decide +kernel
  obtain ⟨size, units⟩ := all k (by omega)
  exact Binary64.isWhole_ofNat_of_units size units

section Quick

variable {significand mantissa : Nat} {exponent place : Int}

/-- The quick value of a decimal that lies in the interval of a number is this number. -/
theorem quickReal?_of_within (positive : 0 < significand) (whole : significand ≤ 2 ^ 53)
    (near : place.natAbs ≤ 22) (bits : mantissa < 2 ^ 53) (least : leastExponent ≤ exponent)
    (greatest : exponent ≤ 971) (normal : leadingBit ≤ mantissa ∨ exponent = leastExponent)
    (within : Within (significand * 10 ^ place) mantissa exponent) :
    quickReal? significand place = some (ofMagnitude false (magnitudeBits mantissa exponent)) := by
  have digits := Binary64.isWhole_ofNat whole
  have power := isWhole_powerOfTen near
  rcases lt_or_ge place 0 with below | above
  · have opposite : (-place).toNat = place.natAbs := by omega
    have ratio : ((significand : Nat) : ℚ) / (10 ^ place.natAbs : Nat) =
        significand * 10 ^ place := by
      rw [show place = -(place.natAbs : Int) by omega, zpow_neg, zpow_natCast, Int.natAbs_neg,
        Int.natAbs_natCast]
      push_cast
      rfl
    rw [← ratio] at within
    have rounded := Binary64.nearest_of_within false positive (by positivity) bits least greatest
      normal within
    rw [quickReal?, if_neg (Int.not_le.mpr below), opposite, dividedByPower,
      if_pos (near.trans (by decide)),
      Binary64.dividedBy_of_isWhole digits power (by positivity), rounded]
  · have same : place.toNat = place.natAbs := by omega
    have ratio : ((significand * 10 ^ place.natAbs : Nat) : ℚ) / (1 : Nat) =
        significand * 10 ^ place := by
      rw [show place = (place.natAbs : Int) by omega, zpow_natCast, Int.natAbs_natCast]
      push_cast
      rw [div_one]
    rw [← ratio] at within
    have rounded := Binary64.nearest_of_within false (by positivity) one_pos bits least greatest
      normal within
    have finite := Binary64.isFinite_ofMagnitude false
      (Binary64.magnitudeBits_lt_infinite bits least greatest)
    have fits : place ≤ greatestPower := by
      unfold greatestPower
      omega
    simp only [quickReal?]
    rw [if_pos above, if_pos fits, same, Binary64.times_of_isWhole digits power, rounded,
      if_pos finite]

end Quick

theorem asWritten_value (d : Decimal) :
    ((asWritten d).digits : ℚ) * 10 ^ (asWritten d).exponent = d.digits * 10 ^ d.exponent := by
  unfold asWritten
  split_ifs with full
  · have exponent : d.exponent = d.exponent.toNat := by omega
    rw [exponent]
    push_cast
    simp only [zpow_natCast, Int.toNat_natCast, pow_succ, zpow_neg_one]
    field_simp
  · rfl

theorem asWritten_pos {d : Decimal} (h : 0 < d.digits) : 0 < (asWritten d).digits := by
  unfold asWritten
  split_ifs
  · exact Nat.mul_pos h (by positivity)
  · exact h

theorem quickReal?_zero :
    quickReal? (asWritten ⟨0, 0⟩).digits (asWritten ⟨0, 0⟩).exponent =
      some (ofMagnitude false 0) := by
  decide +kernel

/-- The text of a number shows a significand of at most 53 bits and a power of ten which is a
binary64 number. -/
def ShownExactly (x : Binary64) : Prop :=
  (shown x).digits ≤ 2 ^ 53 ∧ (shown x).exponent.natAbs ≤ 22

instance (x : Binary64) : Decidable (ShownExactly x) := inferInstanceAs (Decidable (_ ∧ _))

theorem reread_of_shownExactly {x : Binary64} (finite : x.isFinite = true)
    (exactly : ShownExactly x) : reread x = x := by
  obtain ⟨negative, mantissa, exponent, value⟩ := Binary64.exists_value_of_isFinite finite
  obtain ⟨bits, least, greatest⟩ := Binary64.bounds_of_value value
  have isShown : shown x = asWritten (decimalOf mantissa exponent) := by
    rw [shown, value]
  obtain ⟨whole, near⟩ := exactly
  have quick : quickReal? (shown x).digits (shown x).exponent =
      some (ofMagnitude false (magnitudeBits mantissa exponent)) := by
    rcases Nat.eq_zero_or_pos mantissa with rfl | positive
    · have decimal : decimalOf 0 exponent = ⟨0, 0⟩ := if_pos rfl
      have magnitude : magnitudeBits 0 exponent = 0 := if_pos (by decide)
      rw [isShown, decimal, magnitude]
      exact quickReal?_zero
    · have decimal : decimalOf mantissa exponent = Decimal.shortest mantissa exponent :=
        if_neg positive.ne'
      obtain ⟨some, within⟩ := Decimal.within_shortest positive bits least
      rw [← decimal, ← asWritten_value, ← isShown] at within
      have digits : 0 < (shown x).digits := by
        rw [isShown]
        exact asWritten_pos (decimal ▸ some)
      exact quickReal?_of_within digits whole near bits least greatest
        (Binary64.normal_of_value value) within
  have size := Binary64.magnitudeBits_lt_infinite bits least greatest
  rw [reread_eq value quick, signed_ofMagnitude negative (size.trans (by decide)),
    ← Binary64.eq_ofMagnitude_of_value value]

end QuoteGateway.Json
