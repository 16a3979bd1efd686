import Mathlib.Data.List.TakeDrop
import Mathlib.Tactic.IntervalCases
import QuoteGateway.Json.Document

/-!
# Written texts and whole numbers read back

What a document writes for a text or a whole number is read as the same text or number, whatever
value or end of a list or object comes next.
-/

namespace QuoteGateway.Json

/-- What may follow a written value: nothing, a comma, or the end of a list or an object. -/
def EndsValue (rest : List Char) : Prop :=
  ∀ c ∈ rest.head?, c = ',' ∨ c = ']' ∨ c = '}'

theorem endsValue_nil : EndsValue [] := by
  intro c hc
  cases hc

theorem endsValue_cons {c : Char} (rest : List Char) (h : c = ',' ∨ c = ']' ∨ c = '}') :
    EndsValue (c :: rest) := by
  intro d hd
  cases hd
  exact h

/-- A reader takes a value from its text and leaves what comes after it. -/
def Reads {α : Type} (reader : Reader α) (text : List Char) (a : α) : Prop :=
  ∀ rest, EndsValue rest → reader (text ++ rest) = .ok (a, rest)

/-- A value starts with a character that is neither a blank nor the end of a list or object. -/
def Opens (text : List Char) : Prop :=
  ∃ c tail, text = c :: tail ∧ isBlank c = false ∧ c ≠ ']' ∧ c ≠ '}'

theorem skipBlanks_cons {c : Char} (rest : List Char) (h : isBlank c = false) :
    skipBlanks (c :: rest) = c :: rest := by
  simp [skipBlanks, h]

theorem valueStart_cons {c : Char} (rest : List Char) (h : isBlank c = false) :
    valueStart (c :: rest) = .ok (c :: rest) := by
  rw [valueStart, skipBlanks_cons rest h]

theorem hexDigit?_digitChar {n : Nat} (h : n < 16) : Text.hexDigit? (Nat.digitChar n) = some n := by
  interval_cases n <;> rfl

theorem numberedEscape_control {n : Nat} (h : n < 0x20) (rest : List Char) :
    numberedEscape ('0' :: '0' :: Nat.digitChar (n / 16) :: Nat.digitChar (n % 16) :: rest) =
      .ok (Char.ofNat n, 4) := by
  have upper := hexDigit?_digitChar (show n / 16 < 16 by omega)
  have lower := hexDigit?_digitChar (show n % 16 < 16 by omega)
  have zero : Text.hexDigit? '0' = some 0 := rfl
  have number : ((0 * 16 + 0) * 16 + n / 16) * 16 + n % 16 = n := by omega
  have noTrail : isTrailingSurrogate n = false := by simp [isTrailingSurrogate]; omega
  have noLead : isLeadingSurrogate n = false := by simp [isLeadingSurrogate]; omega
  simp only [numberedEscape, fourHexDigits, zero, upper, lower, bind, Except.bind, number, noTrail,
    noLead, Bool.not_false, Bool.false_eq_true, if_false, if_true]

theorem textAfter_escapedChar (c : Char) {cs rest after : List Char}
    (h : textAfter 0 rest = .ok (cs, after)) :
    textAfter 0 (escapedChar c ++ rest) = .ok (c :: cs, after) := by
  unfold escapedChar
  split
  case h_8 notQuote notBackslash _ _ _ _ _ =>
    have plain : ¬ c = '"' ∧ ¬ c = '\\' := ⟨notQuote, notBackslash⟩
    split
    · rename_i control
      have escape := numberedEscape_control control rest
      simp [textAfter, escapeAt, escape, h, bind, Except.bind, Except.map]
    · rename_i printable
      simp [textAfter, plain, printable, h, bind, Except.bind]
  all_goals simp [textAfter, escapeAt, letterEscape?, h, bind, Except.bind]

theorem textAfter_flatMap (cs rest : List Char) :
    textAfter 0 (cs.flatMap escapedChar ++ '"' :: rest) = .ok (cs, rest) := by
  induction cs with
  | nil => simp [textAfter]
  | cons c cs ih =>
    rw [List.flatMap_cons, List.append_assoc]
    exact textAfter_escapedChar c ih

theorem openText_written (s : String) (rest : List Char) :
    openText (s.toList.flatMap escapedChar ++ '"' :: rest) = .ok (s, rest) := by
  simp only [openText, textAfter_flatMap, bind, Except.bind, String.ofList_toList]

theorem writeText_append (s : String) (rest : List Char) :
    writeText s ++ rest = '"' :: (s.toList.flatMap escapedChar ++ '"' :: rest) := by
  simp [writeText]

theorem parsedText_written {α : Type} {expected : String} {parse : String → Except Fault α}
    {s : String} {a : α} (h : parse s = .ok a) (rest : List Char) :
    parsedText expected parse (writeText s ++ rest) = .ok (a, rest) := by
  rw [writeText_append]
  simp only [parsedText, valueStart_cons _ (show isBlank '"' = false from rfl), bind, Except.bind,
    openText_written, h]

theorem reads_text (s : String) : Reads text (writeText s) s :=
  fun rest _ => parsedText_written rfl rest

theorem reads_optional_text {α : Type} {reader : Reader α} {s : String} {a : α}
    (h : Reads reader (writeText s) a) : Reads (optional reader) (writeText s) (some a) := by
  intro rest ends
  have read := h rest ends
  rw [writeText_append] at read ⊢
  rw [optional, skipBlanks_cons _ (show isBlank '"' = false from rfl)]
  change (reader _).bind (fun result => .ok (some result.1, result.2)) = _
  rw [read]
  rfl

theorem reads_oneOf {α : Type} {options : List (String × α)} {name : String} {a : α}
    (h : options.lookup name = some a) : Reads (oneOf options) (writeText name) a := by
  intro rest _
  have read : optionName options (writeText name ++ rest) = .ok (a, rest) :=
    parsedText_written (by rw [h]) rest
  rw [writeText_append] at read ⊢
  rw [oneOf, skipBlanks_cons _ (show isBlank '"' = false from rfl)]
  exact read

/-- Digits as they stand before a point or an exponent: without a leading zero, unless it is the
only one. -/
structure WholePart (digits : List Char) : Prop where
  nonempty : digits ≠ []
  allDigits : ∀ c ∈ digits, c.isDigit = true
  noLeadingZero : digits.head? = some '0' → digits = ['0']

theorem head_toDigits_ne_zero {n : Nat} (h : 0 < n) : (Nat.toDigits 10 n).head? ≠ some '0' := by
  induction n using Nat.strongRecOn with
  | ind n ih =>
    by_cases small : n < 10
    · rw [Nat.toDigits_of_lt_base small]
      interval_cases n <;> decide
    · rw [Nat.toDigits_of_base_le (by decide) (by omega)]
      have rest := ih (n / 10) (by omega) (by omega)
      cases digits : Nat.toDigits 10 (n / 10) with
      | nil => exact absurd digits Nat.toDigits_ne_nil
      | cons c cs =>
        rw [digits] at rest
        exact rest

theorem wholePart_toDigits (n : Nat) : WholePart (Nat.toDigits 10 n) where
  nonempty := Nat.toDigits_ne_nil
  allDigits _ hc := Nat.isDigit_of_mem_toDigits (by decide) (by decide) hc
  noLeadingZero h := by
    rcases Nat.eq_zero_or_pos n with rfl | positive
    · exact Nat.toDigits_zero 10
    · exact absurd h (head_toDigits_ne_zero positive)

theorem span_digits {digits rest : List Char} (allDigits : ∀ c ∈ digits, c.isDigit = true)
    (stops : startsWithDigit rest = false) :
    (digits ++ rest).span Char.isDigit = (digits, rest) := by
  have untaken : rest.takeWhile Char.isDigit = [] ∧ rest.dropWhile Char.isDigit = rest := by
    cases rest with
    | nil => simp
    | cons c tail =>
      have notDigit : c.isDigit = false := by simpa [startsWithDigit] using stops
      simp [notDigit]
  rw [List.span_eq_takeWhile_dropWhile, List.takeWhile_append_of_pos allDigits,
    List.dropWhile_append_of_pos allDigits, untaken.1, untaken.2, List.append_nil]

theorem le_ofDigitChars (digits : List Char) (n : Nat) : n ≤ Nat.ofDigitChars 10 digits n := by
  induction digits generalizing n with
  | nil => simp
  | cons c rest ih =>
    rw [Nat.ofDigitChars_cons]
    exact le_trans (by omega) (ih _)

theorem fittingDigits_of_lt (digits : List Char) (n : Nat)
    (h : Nat.ofDigitChars 10 digits n < UInt64.size) :
    fittingDigits n digits = (Nat.ofDigitChars 10 digits n, []) := by
  induction digits generalizing n with
  | nil => rfl
  | cons c rest ih =>
    rw [Nat.ofDigitChars_cons, Nat.mul_comm] at h
    have fits : n * 10 + (c.toNat - 48) < UInt64.size := lt_of_le_of_lt (le_ofDigitChars rest _) h
    have rest := ih (n * 10 + (c.toNat - 48)) h
    rw [fittingDigits, if_pos fits, rest, Nat.ofDigitChars_cons, Nat.mul_comm 10 n]
    rfl

/-- A whole part is followed by what the rest of a number makes of it. -/
theorem unsignedNumeral_wholePart {digits : List Char} (negative : Bool) (whole : WholePart digits)
    (fits : Nat.ofDigitChars 10 digits 0 < UInt64.size) {rest : List Char}
    (stops : startsWithDigit rest = false) :
    unsignedNumeral negative (digits ++ rest) =
      afterWhole negative (Nat.ofDigitChars 10 digits 0) 0 rest := by
  obtain ⟨nonempty, allDigits, noLeadingZero⟩ := whole
  have span := span_digits allDigits stops
  have fitting := fittingDigits_of_lt digits 0 fits
  cases digits with
  | nil => exact absurd rfl nonempty
  | cons c tail =>
    rw [List.cons_append] at span ⊢
    by_cases zero : c = '0'
    · subst zero
      have only : tail = [] := List.cons.inj (noLeadingZero rfl) |>.2
      subst only
      simp [unsignedNumeral, stops, Nat.ofDigitChars_cons]
    · have digit : c.isDigit = true := allDigits c List.mem_cons_self
      simp only [unsignedNumeral, zero, digit, span, fitting, if_false, if_true, List.length_nil]

theorem startsWithDigit_of_endsValue {rest : List Char} (h : EndsValue rest) :
    startsWithDigit rest = false := by
  cases rest with
  | nil => rfl
  | cons c tail => rcases h c rfl with rfl | rfl | rfl <;> rfl

theorem afterWhole_endsValue (negative : Bool) (n : Nat) {rest : List Char} (h : EndsValue rest) :
    afterWhole negative n 0 rest =
      if !negative then .ok (.natural n, rest)
      else if n = 0 ∨ -(n : Int) < Int64.minValue.toInt then
        .ok (.real (Number.Binary64.ofNat n).negate, rest)
      else .ok (.negative (-(n : Int)), rest) := by
  cases rest with
  | nil => simp [afterWhole]
  | cons c tail => rcases h c rfl with rfl | rfl | rfl <;> simp [afterWhole]

theorem numeral_of_startsWithDigit {cs : List Char} (h : startsWithDigit cs = true) :
    numeral cs = unsignedNumeral false cs := by
  unfold numeral
  split
  · cases h
  · rfl

theorem numeral_integerNumeral {i : Int} (low : Int64.minValue.toInt ≤ i)
    (high : i ≤ Int64.maxValue.toInt) {rest : List Char} (h : EndsValue rest) :
    numeral (Text.integerNumeral i ++ rest) =
      .ok (if 0 ≤ i then .natural i.toNat else .negative i, rest) := by
  have least : Int64.minValue.toInt = -9223372036854775808 := rfl
  have greatest : Int64.maxValue.toInt = 9223372036854775807 := rfl
  have stops := startsWithDigit_of_endsValue h
  cases i with
  | ofNat n =>
    have value := Nat.ofDigitChars_ten_toDigits (n := n)
    have fits : Nat.ofDigitChars 10 (Nat.toDigits 10 n) 0 < UInt64.size := by
      rw [value]
      show n < 18446744073709551616
      have bound : (n : Int) ≤ Int64.maxValue.toInt := high
      omega
    have read := unsignedNumeral_wholePart false (wholePart_toDigits n) fits stops
    rw [value, afterWhole_endsValue _ _ h] at read
    have starts : startsWithDigit (Nat.toDigits 10 n ++ rest) = true := by
      obtain ⟨nonempty, allDigits, -⟩ := wholePart_toDigits n
      cases digits : Nat.toDigits 10 n with
      | nil => exact absurd digits nonempty
      | cons c tail =>
        rw [digits] at allDigits
        exact allDigits c List.mem_cons_self
    rw [Text.integerNumeral, numeral_of_startsWithDigit starts, read]
    simp
  | negSucc n =>
    have value := Nat.ofDigitChars_ten_toDigits (n := n + 1)
    have fits : Nat.ofDigitChars 10 (Nat.toDigits 10 (n + 1)) 0 < UInt64.size := by
      rw [value]
      show n + 1 < 18446744073709551616
      omega
    have read := unsignedNumeral_wholePart true (wholePart_toDigits (n + 1)) fits stops
    rw [value, afterWhole_endsValue _ _ h] at read
    have inside : ¬ (n + 1 = 0 ∨ -((n + 1 : Nat) : Int) < Int64.minValue.toInt) := by omega
    rw [Text.integerNumeral, List.cons_append, numeral, read, if_neg (by simp), if_neg inside,
      if_neg (by omega)]
    rfl

theorem head_integerNumeral (i : Int) :
    (Text.integerNumeral i).head? = some '-' ∨ startsWithDigit (Text.integerNumeral i) = true := by
  cases i with
  | ofNat n =>
    right
    obtain ⟨nonempty, allDigits, -⟩ := wholePart_toDigits n
    rw [Text.integerNumeral]
    cases digits : Nat.toDigits 10 n with
    | nil => exact absurd digits nonempty
    | cons c tail =>
      rw [digits] at allDigits
      exact allDigits c List.mem_cons_self
  | negSucc n => exact .inl rfl

theorem not_blank_of_isDigit {c : Char} (h : c.isDigit = true) :
    isBlank c = false ∧ c ≠ ']' ∧ c ≠ '}' := by
  refine ⟨?_, ?_, ?_⟩
  · by_contra blank
    simp only [Bool.not_eq_false, isBlank, Bool.or_eq_true, beq_iff_eq] at blank
    rcases blank with ((rfl | rfl) | rfl) | rfl <;> revert h <;> decide
  · rintro rfl
    revert h
    decide
  · rintro rfl
    revert h
    decide

theorem opens_of_number {text : List Char}
    (h : text.head? = some '-' ∨ startsWithDigit text = true) : Opens text := by
  cases text with
  | nil => rcases h with h | h <;> cases h
  | cons c tail =>
    refine ⟨c, tail, rfl, ?_⟩
    rcases h with h | h
    · obtain rfl : c = '-' := Option.some.inj h
      decide
    · exact not_blank_of_isDigit h

theorem numberAs_numeral {α : Type} {expected : String} {take : Numeral → Except Fault α}
    {text rest : List Char} {n : Numeral} {a : α}
    (opens : text.head? = some '-' ∨ startsWithDigit text = true)
    (read : numeral (text ++ rest) = .ok (n, rest)) (taken : take n = .ok a) :
    numberAs expected take (text ++ rest) = .ok (a, rest) := by
  obtain ⟨c, tail, rfl, notBlank, -⟩ := opens_of_number opens
  have start : valueStart (c :: tail ++ rest) = .ok (c :: tail ++ rest) :=
    valueStart_cons _ notBlank
  have number : (c :: tail ++ rest).head? = some '-' ∨
      startsWithDigit (c :: tail ++ rest) = true := opens
  simp only [numberAs, start, bind, Except.bind, if_pos number, read, taken]

theorem reads_signed64 (t : Int64) : Reads signed64 (Text.integerNumeral t.toInt) t := by
  intro rest h
  have low := t.minValue_le_toInt
  have high := t.toInt_le
  have whole : integerWithin "i64" Int64.minValue.toInt Int64.maxValue.toInt
      (Text.integerNumeral t.toInt ++ rest) = .ok (t.toInt, rest) := by
    refine numberAs_numeral (head_integerNumeral _) (numeral_integerNumeral low high h) ?_
    by_cases sign : 0 ≤ t.toInt
    · have same : ((t.toInt.toNat : Nat) : Int) = t.toInt := Int.toNat_of_nonneg sign
      simp only [if_pos sign, same, if_pos high]
    · simp only [if_neg sign, if_pos low]
  simp only [signed64, whole, bind, Except.bind, Int64.ofInt_toInt]

end QuoteGateway.Json
