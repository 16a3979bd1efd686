import QuoteGateway.Proofs.Number.Nearest

/-!
# Shortest decimals are found and read back

Seventeen digits always suffice, because half a step of their grid is less than the distance of a
number to the ends of its interval. What is found lies in the interval, so the number nearest to it
is the number that was written.
-/

namespace QuoteGateway.Number.Decimal

open Binary64 (Within leadingBit leastExponent)

theorem le_balanced_iff (c : Nat) (k : Int) (x : Nat) (e : Int) :
    (balanced c k x e).2 ≤ (balanced c k x e).1 ↔ (x : ℚ) * 2 ^ e ≤ c * 10 ^ k := by
  rw [← Nat.cast_le (α := ℚ), balanced_fst, balanced_snd]
  exact mul_le_mul_iff_of_pos_right (balance_pos k e)

theorem balanced_lt_iff (c : Nat) (k : Int) (x : Nat) (e : Int) :
    (balanced c k x e).1 < (balanced c k x e).2 ↔ (c : ℚ) * 10 ^ k < x * 2 ^ e := by
  rw [← not_le, le_balanced_iff, not_le]

theorem lt_balanced_iff (c : Nat) (k : Int) (x : Nat) (e : Int) :
    (balanced c k x e).2 < (balanced c k x e).1 ↔ (x : ℚ) * 2 ^ e < c * 10 ^ k := by
  rw [← not_le, balanced_le_iff, not_le]

section ReadsBack

variable {c : Nat} {k : Int} {mantissa : Nat} {exponent : Int}

theorem within_of_readsBack (h : readsBack c k mantissa exponent = true) :
    Within (c * 10 ^ k) mantissa exponent := by
  obtain ⟨low, high⟩ := readsBack_spec h
  refine ⟨(le_balanced_iff ..).mp low, (balanced_le_iff ..).mp high, ?_⟩
  intro isOdd
  rw [readsBack, if_neg (by omega), Bool.and_eq_true, decide_eq_true_eq, decide_eq_true_eq,
    lt_balanced_iff, balanced_lt_iff] at h
  exact h

theorem readsBack_of_between
    (low : (lowerEnd mantissa exponent : ℚ) * 2 ^ (exponent - 2) < c * 10 ^ k)
    (high : (c : ℚ) * 10 ^ k < upperEnd mantissa * 2 ^ (exponent - 2)) :
    readsBack c k mantissa exponent = true := by
  have above := (lt_balanced_iff ..).mpr low
  have below := (balanced_lt_iff ..).mpr high
  simp only [readsBack]
  split_ifs
  · simp [above.le, below.le]
  · simp [above, below]

/-- The ends of the interval are no nearer than the 54th bit. -/
theorem readsBack_of_near (positive : 0 < mantissa) (bits : mantissa < 2 ^ 53)
    (near : |(c : ℚ) * 10 ^ k - mantissa * 2 ^ exponent| < mantissa * 2 ^ exponent / 2 ^ 54) :
    readsBack c k mantissa exponent = true := by
  have unit : (0 : ℚ) < 2 ^ (exponent - 2) := by positivity
  have whole : (2 : ℚ) ^ exponent = 4 * 2 ^ (exponent - 2) := by
    rw [zpow_sub₀ two_ne_zero]
    ring
  obtain ⟨below, above⟩ := abs_lt.mp near
  rw [whole] at below above
  have small : (mantissa : ℚ) * 2 ^ (exponent - 2) < 2 ^ 53 * 2 ^ (exponent - 2) := by
    apply mul_lt_mul_of_pos_right _ unit
    exact_mod_cast bits
  apply readsBack_of_between
  · unfold lowerEnd
    split_ifs with power
    · obtain ⟨rfl, -⟩ := power
      have ends : ((4 * leadingBit - 1 : Nat) : ℚ) = 2 ^ 54 - 1 := by
        norm_num [leadingBit]
      have leading : (leadingBit : ℚ) = 2 ^ 52 := by norm_num [leadingBit]
      rw [leading] at below
      rw [ends]
      linarith
    · have ends : ((4 * mantissa - 2 : Nat) : ℚ) = 4 * mantissa - 2 := by
        rw [Nat.cast_sub (by omega)]
        push_cast
        rfl
      rw [ends]
      linarith
  · have ends : (upperEnd mantissa : ℚ) = 4 * mantissa + 2 := by
      rw [upperEnd]
      push_cast
      rfl
    rw [ends]
    linarith

end ReadsBack

section Found

variable {mantissa : Nat} {exponent : Int}

theorem le_of_scaled {scale : Nat}
    (some : 0 < (mantissa * tenTo scale) <<< exponent.toNat >>> (-exponent).toNat) :
    (10 : ℚ) ^ (((Nat.toDigits 10 ((mantissa * tenTo scale) <<<
      exponent.toNat >>> (-exponent).toNat)).length : Int) - 1 - scale) ≤
        mantissa * 2 ^ exponent := by
  generalize scaled : (mantissa * tenTo scale) <<< exponent.toNat >>> (-exponent).toNat = s at *
  obtain ⟨more, length⟩ := Nat.exists_eq_add_of_lt (Nat.length_toDigits_pos (b := 10) (n := s))
  rw [Nat.zero_add] at length
  have digits : 10 ^ more ≤ s := by
    rcases Nat.eq_zero_or_pos more with rfl | positive
    · exact some
    · by_contra fewer
      have short := (Nat.length_toDigits_le_iff (by decide) positive).mpr (Nat.lt_of_not_le fewer)
      omega
  rw [Nat.shiftLeft_eq, Nat.shiftRight_eq_div_pow, tenTo, Nat.pow_eq] at scaled
  subst scaled
  rw [Nat.le_div_iff_mul_le (Nat.two_pow_pos _)] at digits
  have fractions : (10 : ℚ) ^ more * 2 ^ (-exponent).toNat ≤
      mantissa * 10 ^ scale * 2 ^ exponent.toNat := by exact_mod_cast digits
  rw [← zpow_mul_pow_neg (show (2 : ℚ) ≠ 0 by norm_num) exponent] at fractions
  rw [length, Nat.cast_add, Nat.cast_one, add_sub_cancel_right, zpow_sub₀ (by norm_num),
    zpow_natCast, zpow_natCast, div_le_iff₀ (by positivity)]
  apply le_of_mul_le_mul_right _ (show (0 : ℚ) < 2 ^ (-exponent).toNat by positivity)
  calc (10 : ℚ) ^ more * 2 ^ (-exponent).toNat
      ≤ mantissa * 10 ^ scale * (2 ^ exponent * 2 ^ (-exponent).toNat) := fractions
    _ = mantissa * 2 ^ exponent * 10 ^ scale * 2 ^ (-exponent).toNat := by ring

theorem pow_leadingPlace_le (positive : 0 < mantissa) (least : leastExponent ≤ exponent) :
    (10 : ℚ) ^ leadingPlace mantissa exponent ≤ mantissa * 2 ^ exponent := by
  have some : 0 < (mantissa * tenTo 400) <<< exponent.toNat >>> (-exponent).toNat := by
    have power : 2 ^ (-exponent).toNat ≤ tenTo 400 := by
      calc 2 ^ (-exponent).toNat ≤ 2 ^ 1074 := by
            apply Nat.pow_le_pow_right (by decide)
            unfold leastExponent at least
            omega
        _ ≤ tenTo 400 := by decide +kernel
    rw [Nat.shiftLeft_eq, Nat.shiftRight_eq_div_pow]
    apply Nat.div_pos _ (Nat.two_pow_pos _)
    calc 2 ^ (-exponent).toNat ≤ mantissa * tenTo 400 :=
          power.trans (Nat.le_mul_of_pos_left _ positive)
      _ ≤ mantissa * tenTo 400 * 2 ^ exponent.toNat := Nat.le_mul_of_pos_right _ (by positivity)
  refine le_trans (le_of_eq ?_) (le_of_scaled some)
  unfold leadingPlace
  simp only
  congr 1
  omega

theorem lt_neighbour (k : Int) (mantissa : Nat) (exponent : Int) :
    (mantissa : ℚ) * 2 ^ exponent < (neighbour k mantissa exponent + 1) * 10 ^ k := by
  have step : 0 < (balanced 1 k mantissa exponent).1 := by
    rw [← Nat.cast_pos (α := ℚ), balanced_fst, Nat.cast_one, one_mul]
    exact mul_pos (by positivity) (balance_pos k exponent)
  have whole := Nat.lt_mul_div_succ (balanced 1 k mantissa exponent).2 step
  rw [← Nat.cast_lt (α := ℚ), Nat.cast_mul, balanced_fst, balanced_snd, Nat.cast_one, one_mul]
    at whole
  apply lt_of_mul_lt_mul_right _ (balance_pos k exponent).le
  calc (mantissa : ℚ) * 2 ^ exponent * balance k exponent
      < 10 ^ k * balance k exponent * (neighbour k mantissa exponent + 1 : Nat) := whole
    _ = (neighbour k mantissa exponent + 1) * 10 ^ k * balance k exponent := by
        push_cast
        ring

/-- If one of the two neighbours on a grid reads back, something is found there. -/
theorem exists_onGrid_of_neighbour {k : Int}
    (h : readsBack (neighbour k mantissa exponent) k mantissa exponent = true ∨
      readsBack (neighbour k mantissa exponent + 1) k mantissa exponent = true) :
    ∃ c, onGrid k mantissa exponent = some c := by
  unfold onGrid
  unfold neighbour at h
  simp only
  generalize (balanced 1 k mantissa exponent).2 / (balanced 1 k mantissa exponent).1 = below at *
  cases low : readsBack below k mantissa exponent with
  | false =>
    have high := h.resolve_left (by simp [low])
    exact ⟨below + 1, by simp [high]⟩
  | true =>
    cases high : readsBack (below + 1) k mantissa exponent with
    | false => exact ⟨below, rfl⟩
    | true =>
      simp only
      split_ifs
      · exact ⟨below, rfl⟩
      · exact ⟨below + 1, rfl⟩

/-- One of the two neighbours on the grid of seventeen digits reads back. -/
theorem exists_onGrid (positive : 0 < mantissa) (bits : mantissa < 2 ^ 53)
    (least : leastExponent ≤ exponent) :
    ∃ c, onGrid (leadingPlace mantissa exponent - (16 : Nat)) mantissa exponent = some c := by
  have place := pow_leadingPlace_le positive least
  generalize grid : leadingPlace mantissa exponent - (16 : Nat) = k
  have step : (10 : ℚ) ^ k * 10 ^ 16 ≤ mantissa * 2 ^ exponent := by
    rw [← grid, zpow_sub₀ (by norm_num), zpow_natCast, div_mul_cancel₀ _ (by positivity)]
    exact place
  have unit : (0 : ℚ) < 10 ^ k := by positivity
  -- The number lies between two neighbours, so one of them is at most half a step away.
  have under := neighbour_le k mantissa exponent
  have above := lt_neighbour k mantissa exponent
  apply exists_onGrid_of_neighbour
  generalize neighbour k mantissa exponent = below at *
  by_cases half : 2 * (mantissa * 2 ^ exponent - below * 10 ^ k) ≤ (10 : ℚ) ^ k
  · left
    apply readsBack_of_near positive bits
    rw [abs_lt]
    constructor <;> linarith
  · right
    apply readsBack_of_near positive bits
    rw [abs_lt]
    push_cast
    constructor <;> linarith

/-- The shortest decimal is there, and it lies in the interval of its number. -/
theorem within_shortest (positive : 0 < mantissa) (bits : mantissa < 2 ^ 53)
    (least : leastExponent ≤ exponent) :
    0 < (shortest mantissa exponent).digits ∧
      Within ((shortest mantissa exponent).digits * 10 ^ (shortest mantissa exponent).exponent)
        mantissa exponent := by
  obtain ⟨seventeen, last⟩ := exists_onGrid positive bits least
  unfold shortest
  simp only
  cases search : (List.range 17).findSome? fun extra : Nat =>
      (onGrid (leadingPlace mantissa exponent - (extra : Int)) mantissa exponent).map fun c =>
        stripped 17 c (leadingPlace mantissa exponent - (extra : Int)) with
  | none =>
    have missing := List.findSome?_eq_none_iff.mp search 16 (by decide)
    rw [last] at missing
    cases missing
  | some d =>
    obtain ⟨extra, -, there⟩ := List.exists_of_findSome?_eq_some search
    obtain ⟨c, found, rfl⟩ := Option.map_eq_some_iff.mp there
    obtain ⟨reads, -⟩ := onGrid_spec found
    obtain ⟨zeros, shifted, digits⟩ :=
      stripped_spec 17 c (leadingPlace mantissa exponent - (extra : Int))
    have pos := pos_of_readsBack positive reads
    have within := within_of_readsBack reads
    rw [Option.getD_some]
    generalize stripped 17 c (leadingPlace mantissa exponent - (extra : Int)) = d at *
    subst digits
    refine ⟨Nat.pos_of_mul_pos_right pos, ?_⟩
    rw [shifted, zpow_add₀ (by norm_num), zpow_natCast]
    push_cast at within
    rwa [mul_comm (10 ^ _) (10 ^ _), ← mul_assoc]

end Found

end QuoteGateway.Number.Decimal
