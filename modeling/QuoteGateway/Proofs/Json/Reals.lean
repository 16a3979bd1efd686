import QuoteGateway.Proofs.Json.Scalars
import QuoteGateway.Proofs.Number.ShortestBounds

/-!
# Written real numbers read back

The text of a finite number is read as the quick value of the decimal that it shows. The quick rule
may miss the number that was written, but it never overflows on a shortest decimal.
-/

namespace QuoteGateway.Json

open Number (Binary64 Decimal Layout)

theorem quickReal?_of_neg (significand : Nat) {exponent : Int} (h : exponent < 0) :
    ∃ x, quickReal? significand exponent = some x := by
  simp only [quickReal?, if_neg (Int.not_le.mpr h), Option.some.injEq, exists_eq']

/-- A power of ten may be multiplied by numbers up to a bound without an overflow. -/
def SafePower (bound k : Nat) : Prop :=
  (powerOfTen k).isFinite = true ∧ bound * (powerOfTen k).units < Binary64.overflow * 2 ^ 1074

theorem SafePower.quickReal? {bound k significand : Nat} (safe : SafePower bound k)
    (power : k ≤ greatestPower) (fits : significand < 2 ^ 64)
    (small : (Binary64.ofNat significand).units ≤ bound * 2 ^ 1074) :
    ∃ x, quickReal? significand k = some x := by
  have units : 2 ^ 1074 * 2 ^ 1074 = 2 ^ 2148 := by decide +kernel
  have finite : ((Binary64.ofNat significand).times (powerOfTen k)).isFinite = true := by
    apply Binary64.isFinite_times (Binary64.isFinite_ofNat fits) safe.1
    calc (Binary64.ofNat significand).units * (powerOfTen k).units
        ≤ bound * 2 ^ 1074 * (powerOfTen k).units := Nat.mul_le_mul_right _ small
      _ = bound * (powerOfTen k).units * 2 ^ 1074 := Nat.mul_right_comm _ _ _
      _ < Binary64.overflow * 2 ^ 1074 * 2 ^ 1074 :=
          Nat.mul_lt_mul_of_pos_right safe.2 (by positivity)
      _ = Binary64.overflow * 2 ^ 2148 := (Nat.mul_assoc _ _ _).trans (congrArg _ units)
  have whole : (0 : Int) ≤ k ∧ (k : Int) ≤ greatestPower := by omega
  refine ⟨(Binary64.ofNat significand).times (powerOfTen k), ?_⟩
  rw [Json.quickReal?, if_pos whole.1, if_pos whole.2, Int.toNat_natCast, if_pos finite]

instance (bound k : Nat) : Decidable (SafePower bound k) := inferInstanceAs (Decidable (_ ∧ _))

theorem safePower_of_lt {k : Nat} : k < 292 → SafePower (10 ^ 17 + 2 ^ 3) k := by
  have all : ∀ k < 292, SafePower (10 ^ 17 + 2 ^ 3) k := by decide +kernel
  exact all k

theorem safePower_last : SafePower 17976931348623157 292 := by decide +kernel

/-- For the greatest powers, every number that does not overflow itself is safe. -/
theorem safePower_of_gt {k : Nat} (h : 292 < k) (power : k ≤ greatestPower) :
    SafePower (Binary64.overflow / 10 ^ k) k := by
  have all : ∀ more < 16, SafePower (Binary64.overflow / 10 ^ (293 + more)) (293 + more) := by
    decide +kernel
  obtain ⟨more, rfl⟩ := Nat.exists_eq_add_of_lt h
  unfold greatestPower at power
  have safe := all more (by omega)
  rwa [show 293 + more = 292 + more + 1 by omega] at safe

/-- The quick rule does not overflow on a shortest decimal. -/
theorem quickReal?_of_bounded {d : Decimal} (h : d.Bounded) :
    ∃ x, quickReal? d.digits d.exponent = some x := by
  have seventeen := h.digits
  have greatest := h.exponent_le
  by_cases sign : d.exponent < 0
  · exact quickReal?_of_neg _ sign
  obtain ⟨k, exponent⟩ := Int.eq_ofNat_of_zero_le (Int.not_lt.mp sign)
  have power : k ≤ greatestPower := by
    unfold greatestPower
    omega
  have fits : d.digits < 2 ^ 64 := by omega
  have size : d.digits ≤ Binary64.overflow / 10 ^ k :=
    (Nat.le_div_iff_mul_le (Nat.pow_pos (by decide))).mpr (h.size k exponent)
  rw [exponent]
  rcases Nat.lt_trichotomy k 292 with below | rfl | above
  · apply (safePower_of_lt below).quickReal? power fits
    have error := Binary64.units_ofNat_le 3 (show d.digits < 2 ^ 57 by omega) (by decide)
    exact error.trans (Nat.mul_le_mul_right _ (by omega))
  · have limit : Binary64.overflow / 10 ^ 292 = 17976931348623158 := by decide +kernel
    rw [limit] at size
    have last : d.digits ≠ 17976931348623158 := by
      intro same
      exact h.notLast (Decimal.mk.injEq .. ▸ ⟨same, exponent⟩)
    apply safePower_last.quickReal? power fits
    by_cases even : d.digits = 17976931348623157
    · rw [even]
      decide +kernel
    · have error := Binary64.units_ofNat_le 0 (show d.digits < 2 ^ 54 by omega) (by decide)
      exact error.trans (Nat.mul_le_mul_right _ (by omega))
  · apply (safePower_of_gt above power).quickReal? power fits
    have exact : d.digits < 2 ^ 53 := by
      have limit : Binary64.overflow / 10 ^ 293 < 2 ^ 53 := by decide +kernel
      have smaller (m : Nat) (order : m ≤ k) :
          Binary64.overflow / 10 ^ k ≤ Binary64.overflow / 10 ^ m :=
        Nat.div_le_div_left (Nat.pow_le_pow_right (by decide) order) (Nat.pow_pos (by decide))
      exact (size.trans (smaller 293 above)).trans_lt limit
    rw [Binary64.units_ofNat exact]
    exact Nat.mul_le_mul_right _ size

theorem realBefore_of_some {significand : Nat} {exponent : Int} {x : Binary64}
    (h : quickReal? significand exponent = some x) (negative : Bool) (rest : List Char) :
    realBefore negative significand exponent rest = .ok (.real (signed negative x), rest) := by
  rw [realBefore, h]

/-- A text shows a significand and an exponent, whatever value or end of a list or object comes
next. -/
def Shows (negative : Bool) (text : List Char) (significand : Nat) (exponent : Int) : Prop :=
  ∀ rest, EndsValue rest →
    unsignedNumeral negative (text ++ rest) = realBefore negative significand exponent rest

section Digits

variable (negative : Bool) {significand : Nat} (scale : Int) {digits : List Char}
  (nonempty : digits ≠ []) (allDigits : ∀ c ∈ digits, c.isDigit = true)
  (fits : Nat.ofDigitChars 10 digits significand < UInt64.size)
include nonempty allDigits fits

theorem afterPoint_endsValue {rest : List Char} (ends : EndsValue rest) :
    afterPoint negative significand scale (digits ++ rest) =
      realBefore negative (Nat.ofDigitChars 10 digits significand) (scale - digits.length)
        rest := by
  have some : digits.isEmpty = false := List.isEmpty_eq_false_iff.mpr nonempty
  have span := span_digits allDigits (startsWithDigit_of_endsValue ends)
  simp only [afterPoint, span, some, fittingDigits_of_lt digits _ fits, Bool.false_eq_true,
    if_false, List.length_nil, Nat.sub_zero]
  cases rest with
  | nil => rfl
  | cons c tail => rcases ends c rfl with rfl | rfl | rfl <;> rfl

theorem afterPoint_mark (after : List Char) :
    afterPoint negative significand scale (digits ++ 'e' :: after) =
      afterExponentMark negative (Nat.ofDigitChars 10 digits significand)
        (scale - digits.length) after := by
  have some : digits.isEmpty = false := List.isEmpty_eq_false_iff.mpr nonempty
  have span := span_digits allDigits (show startsWithDigit ('e' :: after) = false from rfl)
  simp only [afterPoint, span, some, fittingDigits_of_lt digits _ fits, Bool.false_eq_true,
    if_false, List.length_nil, Nat.sub_zero]

end Digits

theorem wholePart_singleton {c : Char} (digit : c.isDigit = true) : WholePart [c] where
  nonempty := List.cons_ne_nil c []
  allDigits other member := by
    obtain rfl := List.mem_singleton.mp member
    exact digit
  noLeadingZero := by
    rintro ⟨⟩
    rfl

theorem shows_point (negative : Bool) {whole digits : List Char} (isWhole : WholePart whole)
    (nonempty : digits ≠ []) (allDigits : ∀ c ∈ digits, c.isDigit = true)
    (fits : Nat.ofDigitChars 10 (whole ++ digits) 0 < UInt64.size) :
    Shows negative (whole ++ '.' :: digits) (Nat.ofDigitChars 10 (whole ++ digits) 0)
      (-digits.length) := by
  rw [Nat.ofDigitChars_append] at fits ⊢
  have fitsWhole : Nat.ofDigitChars 10 whole 0 < UInt64.size :=
    (le_ofDigitChars digits _).trans_lt fits
  intro rest ends
  rw [List.append_assoc, List.cons_append,
    unsignedNumeral_wholePart negative isWhole fitsWhole rfl, afterWhole,
    afterPoint_endsValue negative _ nonempty allDigits fits ends, Nat.cast_zero, Int.zero_sub]

theorem fittingExponent_of_le (digits : List Char) (n : Nat)
    (h : Nat.ofDigitChars 10 digits n ≤ exponentLimit) :
    fittingExponent n digits = (Nat.ofDigitChars 10 digits n, none) := by
  induction digits generalizing n with
  | nil => rfl
  | cons c rest ih =>
    rw [Nat.ofDigitChars_cons, Nat.mul_comm] at h
    have fits : n * 10 + (c.toNat - 48) ≤ exponentLimit := (le_ofDigitChars rest _).trans h
    have rest := ih (n * 10 + (c.toNat - 48)) h
    rw [fittingExponent, if_pos fits, rest, Nat.ofDigitChars_cons, Nat.mul_comm 10 n]
    rfl

theorem afterExponentMark_place (negative : Bool) (significand : Nat) (scale place : Int)
    (small : place.natAbs ≤ exponentLimit) (low : -(exponentLimit : Int) - 1 ≤ scale + place)
    (high : scale + place ≤ exponentLimit) {rest : List Char} (ends : EndsValue rest) :
    afterExponentMark negative significand scale
        ((if place < 0 then '-' else '+') :: (Nat.toDigits 10 place.natAbs ++ rest)) =
      realBefore negative significand (scale + place) rest := by
  obtain ⟨nonempty, allDigits, -⟩ := wholePart_toDigits place.natAbs
  have span := span_digits allDigits (startsWithDigit_of_endsValue ends)
  have fitting : fittingExponent 0 (Nat.toDigits 10 place.natAbs) = (place.natAbs, none) := by
    have value := Nat.ofDigitChars_ten_toDigits (n := place.natAbs)
    rw [fittingExponent_of_le _ 0 (value.trans_le small), value]
  have clamped : max (-(exponentLimit : Int) - 1) (min exponentLimit (scale + place)) =
      scale + place := by omega
  cases digits : Nat.toDigits 10 place.natAbs with
  | nil => exact absurd digits nonempty
  | cons c tail =>
    rw [digits] at allDigits span fitting
    have digit := allDigits c List.mem_cons_self
    by_cases downward : place < 0
    · have sum : scale - (place.natAbs : Int) = scale + place := by omega
      rw [List.cons_append] at span ⊢
      simp only [afterExponentMark, if_pos downward, digit, span, fitting, sum, clamped,
        Bool.not_true, Bool.false_eq_true, if_false, if_true]
    · have sum : scale + (place.natAbs : Int) = scale + place := by omega
      rw [List.cons_append] at span ⊢
      simp only [afterExponentMark, if_neg downward, digit, span, fitting, sum, clamped,
        Bool.not_true, Bool.false_eq_true, if_false]

theorem unsignedNumeral_powered (negative : Bool) {digits : List Char} (isWhole : WholePart digits)
    (fits : Nat.ofDigitChars 10 digits 0 < UInt64.size) (few : digits.length ≤ 18) {exponent : Int}
    (least : -416 ≤ exponent) (greatest : exponent ≤ 308) {rest : List Char}
    (ends : EndsValue rest) :
    unsignedNumeral negative (Layout.powered digits (exponent + digits.length - 1) ++ rest) =
      realBefore negative (Nat.ofDigitChars 10 digits 0) exponent rest := by
  have limit : exponentLimit = 2147483647 := rfl
  generalize same : exponent + digits.length - 1 = place
  rcases digits with _ | ⟨first, _ | ⟨second, more⟩⟩
  · exact absurd rfl isWhole.nonempty
  · rw [List.length_singleton] at same
    have sum : ((0 : Nat) : Int) + place = exponent := by omega
    have text : Layout.powered [first] place ++ rest =
        [first] ++ 'e' :: ((if place < 0 then '-' else '+') ::
          (Nat.toDigits 10 place.natAbs ++ rest)) := by simp [Layout.powered]
    rw [text, unsignedNumeral_wholePart negative isWhole fits rfl, afterWhole,
      afterExponentMark_place negative _ _ place (by omega) (by omega) (by omega) ends, sum]
  · rw [List.length_cons] at same few
    have sum : ((0 : Nat) : Int) - (second :: more).length + place = exponent := by omega
    have text : Layout.powered (first :: second :: more) place ++ rest =
        [first] ++ '.' :: (second :: more ++ 'e' :: ((if place < 0 then '-' else '+') ::
          (Nat.toDigits 10 place.natAbs ++ rest))) := by simp [Layout.powered]
    have parts : Nat.ofDigitChars 10 (first :: second :: more) 0 =
        Nat.ofDigitChars 10 (second :: more) (Nat.ofDigitChars 10 [first] 0) := rfl
    have whole := wholePart_singleton (isWhole.allDigits first List.mem_cons_self)
    have allDigits : ∀ c ∈ second :: more, c.isDigit = true :=
      fun c member => isWhole.allDigits c (List.mem_cons_of_mem first member)
    rw [parts] at fits ⊢
    rw [text, unsignedNumeral_wholePart negative whole ((le_ofDigitChars _ _).trans_lt fits) rfl,
      afterWhole, afterPoint_mark negative _ (List.cons_ne_nil second more) allDigits fits,
      afterExponentMark_place negative _ _ place (by omega) (by omega) (by omega) ends, sum]

theorem shows_fraction (negative : Bool) {n : Nat} (fits : n < UInt64.size) (zeros : Nat) :
    Shows negative (['0'] ++ '.' :: (List.replicate zeros '0' ++ Nat.toDigits 10 n)) n
      (-(zeros + (Nat.toDigits 10 n).length : Nat)) := by
  obtain ⟨nonempty, allDigits, -⟩ := wholePart_toDigits n
  have value : Nat.ofDigitChars 10 (['0'] ++ (List.replicate zeros '0' ++ Nat.toDigits 10 n)) 0 =
      n := by
    have none : Nat.ofDigitChars 10 ['0'] 0 = 0 := rfl
    rw [Nat.ofDigitChars_append, Nat.ofDigitChars_append, none, Nat.ofDigitChars_replicate_zero,
      Nat.mul_zero, Nat.ofDigitChars_ten_toDigits]
  have decimals : ∀ c ∈ List.replicate zeros '0' ++ Nat.toDigits 10 n, c.isDigit = true := by
    intro c member
    rcases List.mem_append.mp member with zero | digit
    · rw [List.eq_of_mem_replicate zero]
      rfl
    · exact allDigits c digit
  have isShown := shows_point negative (wholePart_singleton rfl)
    (List.append_ne_nil_of_right_ne_nil _ nonempty) decimals (value.trans_lt fits)
  rwa [value, List.length_append, List.length_replicate] at isShown

theorem shows_whole (negative : Bool) {n zeros : Nat}
    (few : (Nat.toDigits 10 n).length + zeros ≤ 16) (none : n = 0 → zeros = 0) :
    Shows negative (Nat.toDigits 10 n ++ List.replicate zeros '0' ++ '.' :: ['0'])
      (n * 10 ^ (zeros + 1)) (-1) := by
  obtain ⟨nonempty, allDigits, -⟩ := wholePart_toDigits n
  have value : Nat.ofDigitChars 10 (Nat.toDigits 10 n ++ List.replicate zeros '0' ++ ['0']) 0 =
      n * 10 ^ (zeros + 1) := by
    rw [Nat.ofDigitChars_append, Nat.ofDigitChars_append, Nat.ofDigitChars_ten_toDigits,
      Nat.ofDigitChars_replicate_zero]
    change 10 * (10 ^ zeros * n) + 0 = _
    ring
  have isWhole : WholePart (Nat.toDigits 10 n ++ List.replicate zeros '0') := by
    refine ⟨List.append_ne_nil_of_left_ne_nil nonempty _, ?_, ?_⟩
    · intro c member
      rcases List.mem_append.mp member with digit | zero
      · exact allDigits c digit
      · rw [List.eq_of_mem_replicate zero]
        rfl
    · intro leading
      rw [List.head?_append_of_ne_nil _ nonempty] at leading
      rcases Nat.eq_zero_or_pos n with zero | positive
      · rw [none zero, zero]
        rfl
      · exact absurd leading (head_toDigits_ne_zero positive)
  have fits : n * 10 ^ (zeros + 1) < UInt64.size := by
    have size : n < 10 ^ (Nat.toDigits 10 n).length :=
      (Nat.length_toDigits_le_iff (by decide) Nat.length_toDigits_pos).mp le_rfl
    calc n * 10 ^ (zeros + 1)
        < 10 ^ (Nat.toDigits 10 n).length * 10 ^ (zeros + 1) :=
          Nat.mul_lt_mul_of_pos_right size (by positivity)
      _ = 10 ^ ((Nat.toDigits 10 n).length + (zeros + 1)) := (pow_add _ _ _).symm
      _ ≤ 10 ^ 17 := Nat.pow_le_pow_right (by decide) (by omega)
      _ < UInt64.size := by decide
  have decimals : ∀ c ∈ ['0'], c.isDigit = true := by
    intro c member
    rw [List.mem_singleton.mp member]
    rfl
  have isShown := shows_point negative isWhole (List.cons_ne_nil _ _) decimals
    (value.trans_lt fits)
  rwa [value] at isShown

theorem shows_split (negative : Bool) {n : Nat} (fits : n < UInt64.size) {units : Nat}
    (some : 0 < units) (more : units < (Nat.toDigits 10 n).length) :
    Shows negative ((Nat.toDigits 10 n).take units ++ '.' :: (Nat.toDigits 10 n).drop units) n
      (-((Nat.toDigits 10 n).length - units : Nat)) := by
  obtain ⟨nonempty, allDigits, noLeadingZero⟩ := wholePart_toDigits n
  have value : Nat.ofDigitChars 10
      ((Nat.toDigits 10 n).take units ++ (Nat.toDigits 10 n).drop units) 0 = n := by
    rw [List.take_append_drop, Nat.ofDigitChars_ten_toDigits]
  have isWhole : WholePart ((Nat.toDigits 10 n).take units) := by
    refine ⟨?_, fun c member => allDigits c (List.mem_of_mem_take member), ?_⟩
    · simp [nonempty, some.ne']
    · intro leading
      rw [List.head?_take, if_neg some.ne'] at leading
      rw [noLeadingZero leading] at more
      simp only [List.length_singleton] at more
      omega
  have isShown := shows_point negative isWhole (by simp [more])
    (fun c member => allDigits c (List.mem_of_mem_drop member)) (value.trans_lt fits)
  rwa [value, List.length_drop] at isShown

/-- The significand and the exponent that the text of a decimal shows. A whole number that is
written in full ends in `.0`. -/
def asWritten (d : Decimal) : Decimal :=
  if 0 ≤ d.exponent ∧ d.exponent + (Nat.toDigits 10 d.digits).length ≤ 16 then
    ⟨d.digits * 10 ^ (d.exponent.toNat + 1), -1⟩
  else d

section Layouts

variable {d : Decimal} (h : d.Bounded)
include h

theorem digits_fit : d.digits < UInt64.size := by
  have seventeen := h.digits
  have size : UInt64.size = 18446744073709551616 := rfl
  omega

theorem shows_powered (negative : Bool) :
    Shows negative (Layout.powered (Nat.toDigits 10 d.digits)
      (d.exponent + (Nat.toDigits 10 d.digits).length - 1)) d.digits d.exponent := by
  have seventeen := h.digits
  have few := (Nat.length_toDigits_le_iff (b := 10) (n := d.digits) (k := 18) (by decide)
    (by decide)).mpr (by omega)
  have value := Nat.ofDigitChars_ten_toDigits (n := d.digits)
  intro rest ends
  rw [unsignedNumeral_powered negative (wholePart_toDigits d.digits)
    (value.trans_lt (digits_fit h)) few h.exponent h.exponent_le ends, value]

theorem shows_full (negative : Bool) (layout : Layout) (point : layout.pointAlways = true)
    (place : d.exponent + (Nat.toDigits 10 d.digits).length - 1 ≤ 15) :
    Shows negative (layout.full (Nat.toDigits 10 d.digits)
      (d.exponent + (Nat.toDigits 10 d.digits).length - 1))
      (asWritten d).digits (asWritten d).exponent := by
  have zero := h.zero
  have first : 0 < (Nat.toDigits 10 d.digits).length := Nat.length_toDigits_pos
  unfold Layout.full asWritten
  generalize same : d.exponent + (Nat.toDigits 10 d.digits).length - 1 = p at *
  by_cases below : p < 0
  · have isShown := shows_fraction negative (digits_fit h) (-p - 1).toNat
    have exponent : (-((-p - 1).toNat + (Nat.toDigits 10 d.digits).length : Nat) : Int) =
        d.exponent := by omega
    rw [if_pos below, if_neg (by omega)]
    rwa [exponent] at isShown
  rw [if_neg below]
  simp only [point, if_true]
  by_cases whole : (Nat.toDigits 10 d.digits).length ≤ p.toNat + 1
  · have zeros : p.toNat + 1 - (Nat.toDigits 10 d.digits).length = d.exponent.toNat := by omega
    rw [if_pos whole, if_pos (by omega), zeros]
    apply shows_whole negative
    · omega
    · intro none
      rw [zero none]
      rfl
  · have isShown := shows_split negative (digits_fit h) (Nat.succ_pos p.toNat) (by omega)
    have exponent : (-((Nat.toDigits 10 d.digits).length - (p.toNat + 1) : Nat) : Int) =
        d.exponent := by omega
    rw [if_neg whole, if_neg (by omega)]
    rwa [exponent] at isShown

theorem quickReal?_asWritten :
    ∃ x, quickReal? (asWritten d).digits (asWritten d).exponent = some x := by
  unfold asWritten
  split_ifs
  · exact quickReal?_of_neg _ (Int.negSucc_lt_zero 0)
  · exact quickReal?_of_bounded h

end Layouts

theorem startsWithDigit_of_unsignedNumeral {negative : Bool} {cs : List Char}
    {found : Numeral × List Char} (h : unsignedNumeral negative cs = .ok found) :
    startsWithDigit cs = true := by
  cases cs with
  | nil => cases h
  | cons c rest =>
    by_cases zero : c = '0'
    · subst zero
      rfl
    · by_cases digit : c.isDigit
      · exact digit
      · simp [unsignedNumeral, zero, digit, stopWithin] at h

theorem reads_of_shows {negative : Bool} {text : List Char} {significand : Nat} {exponent : Int}
    {x : Binary64} (h : Shows negative text significand exponent)
    (quick : quickReal? significand exponent = some x) :
    Reads real ((if negative then ['-'] else []) ++ text) (signed negative x) := by
  have number (rest : List Char) (ends : EndsValue rest) :
      unsignedNumeral negative (text ++ rest) = .ok (.real (signed negative x), rest) :=
    (h rest ends).trans (realBefore_of_some quick negative rest)
  have starts : startsWithDigit (text ++ []) = true :=
    startsWithDigit_of_unsignedNumeral (number [] endsValue_nil)
  rw [List.append_nil] at starts
  intro rest ends
  cases negative with
  | true => exact numberAs_numeral (.inl rfl) (number rest ends) rfl
  | false =>
    have after := number rest ends
    rw [← numeral_of_startsWithDigit (startsWithDigit_of_unsignedNumeral after)] at after
    exact numberAs_numeral (.inr starts) after rfl

theorem writesInFull_ofRecords_iff (place : Int) :
    Layout.ofRecords.writesInFull place = true ↔ -5 ≤ place ∧ place ≤ 15 := by
  simp only [Layout.writesInFull, Layout.ofRecords, Option.all_some, Bool.and_eq_true,
    decide_eq_true_eq]

def recorded (d : Decimal) : List Char :=
  if Layout.ofRecords.writesInFull (d.exponent + (Nat.toDigits 10 d.digits).length - 1) then
    Layout.ofRecords.full (Nat.toDigits 10 d.digits)
      (d.exponent + (Nat.toDigits 10 d.digits).length - 1)
  else
    Layout.powered (Nat.toDigits 10 d.digits) (d.exponent + (Nat.toDigits 10 d.digits).length - 1)

theorem shows_recorded {d : Decimal} (h : d.Bounded) (negative : Bool) :
    Shows negative (recorded d) (asWritten d).digits (asWritten d).exponent := by
  unfold recorded
  split_ifs with full
  · rw [writesInFull_ofRecords_iff] at full
    exact shows_full h negative Layout.ofRecords rfl full.2
  · rw [writesInFull_ofRecords_iff] at full
    have same : asWritten d = d := if_neg (by omega)
    rw [same]
    exact shows_powered h negative

/-- The shortest decimal of a finite number, without its sign. -/
def decimalOf (mantissa : Nat) (exponent : Int) : Decimal :=
  if mantissa = 0 then ⟨0, 0⟩ else Decimal.shortest mantissa exponent

theorem bounded_decimalOf {mantissa : Nat} {exponent : Int} (bits : mantissa < 2 ^ 53)
    (greatest : exponent ≤ 971) : (decimalOf mantissa exponent).Bounded := by
  unfold decimalOf
  split_ifs with zero
  · exact Decimal.bounded_zero
  · exact Decimal.bounded_shortest (Nat.pos_of_ne_zero zero) bits greatest

/-- What the text of a finite number shows, without its sign. -/
def shown (x : Binary64) : Decimal :=
  match x.value with
  | .finite _ mantissa exponent => asWritten (decimalOf mantissa exponent)
  | _ => ⟨0, 0⟩

/-- The number that the text of a finite number is read as. -/
def reread (x : Binary64) : Binary64 :=
  match x.value, quickReal? (shown x).digits (shown x).exponent with
  | .finite negative _ _, some magnitude => signed negative magnitude
  | _, _ => .nan

theorem reread_eq {x magnitude : Binary64} {negative : Bool} {mantissa : Nat} {exponent : Int}
    (value : x.value = .finite negative mantissa exponent)
    (quick : quickReal? (shown x).digits (shown x).exponent = some magnitude) :
    reread x = signed negative magnitude := by
  simp only [reread, value, quick]

/-- A finite number is read back as the quick value of what its text shows. -/
theorem reads_real {x : Binary64} (finite : x.isFinite = true) :
    Reads real (Document.writeReal x) (reread x) := by
  obtain ⟨negative, mantissa, exponent, value⟩ := Binary64.exists_value_of_isFinite finite
  obtain ⟨bits, -, greatest⟩ := Binary64.bounds_of_value value
  have bounded := bounded_decimalOf bits greatest
  have isShown : shown x = asWritten (decimalOf mantissa exponent) := by
    rw [shown, value]
  obtain ⟨magnitude, quick⟩ := quickReal?_asWritten bounded
  have text : Document.writeReal x =
      (if negative then ['-'] else []) ++ recorded (decimalOf mantissa exponent) := by
    rw [Document.writeReal, if_pos finite, Layout.write, value]
    rfl
  rw [text, reread_eq value (isShown ▸ quick)]
  exact reads_of_shows (shows_recorded bounded negative) quick

end QuoteGateway.Json
