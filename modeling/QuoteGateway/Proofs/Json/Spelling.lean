import Mathlib.Data.List.TakeWhile
import QuoteGateway.Proofs.Json.Scalars

/-!
# Spellings of texts

Inside its quotes a text may be spelled in many ways: plain characters stand for themselves, and any
character may be given by an escape. A text is read from each of its spellings, with blanks around
it, and from nothing else.
-/

namespace QuoteGateway.Json

/-- Four hexadecimal digits and their number. -/
inductive FourDigits : List Char → Nat → Prop
  | of {a b c d : Char} {i j k l : Nat} (first : Text.hexDigit? a = some i)
    (second : Text.hexDigit? b = some j) (third : Text.hexDigit? c = some k)
    (fourth : Text.hexDigit? d = some l) :
    FourDigits [a, b, c, d] (((i * 16 + j) * 16 + k) * 16 + l)

def letterEscapes : List (Char × Char) := [('"', '"'), ('\\', '\\'), ('/', '/'), ('b', '\x08'),
  ('f', '\x0c'), ('n', '\n'), ('r', '\r'), ('t', '\t')]

/-- What may stand after the backslash of an escape, and the character that it gives. Characters
beyond the first plane are given by two surrogates. -/
inductive Escape : List Char → Char → Prop
  | letter {letter c : Char} (listed : (letter, c) ∈ letterEscapes) : Escape [letter] c
  | numbered {digits : List Char} {c : Char} (number : FourDigits digits c.toNat) :
    Escape ('u' :: digits) c
  | paired {leading trailing : List Char} {m n : Nat} {c : Char}
    (first : FourDigits leading m) (second : FourDigits trailing n)
    (leads : 0xD800 ≤ m ∧ m ≤ 0xDBFF) (trails : 0xDC00 ≤ n ∧ n ≤ 0xDFFF)
    (number : c.toNat = (m - 0xD800) * 0x400 + (n - 0xDC00) + 0x10000) :
    Escape ('u' :: (leading ++ '\\' :: 'u' :: trailing)) c

/-- What may stand between the quotes, and the characters that it gives. -/
inductive Spells : List Char → List Char → Prop
  | nil : Spells [] []
  | plain {c : Char} {spelled cs : List Char} (notQuote : c ≠ '"') (notBackslash : c ≠ '\\')
    (notControl : 0x20 ≤ c.toNat) (more : Spells spelled cs) : Spells (c :: spelled) (c :: cs)
  | escaped {escape spelled cs : List Char} {c : Char} (first : Escape escape c)
    (more : Spells spelled cs) : Spells ('\\' :: (escape ++ spelled)) (c :: cs)

/-- A text that is one text in quotes, with nothing but blanks around it. -/
def IsQuoted (source content : String) : Prop :=
  ∃ before spelled after, source.toList = before ++ '"' :: (spelled ++ '"' :: after) ∧
    (∀ c ∈ before, isBlank c = true) ∧ (∀ c ∈ after, isBlank c = true) ∧
      Spells spelled content.toList

theorem FourDigits.read {digits : List Char} {n : Nat} (h : FourDigits digits n)
    (rest : List Char) : fourHexDigits (digits ++ rest) = .ok (n, rest) := by
  obtain ⟨first, second, third, fourth⟩ := h
  simp only [fourHexDigits, List.cons_append, List.nil_append, first, second, third, fourth]

theorem fourDigits_of_read {cs rest : List Char} {n : Nat}
    (h : fourHexDigits cs = .ok (n, rest)) : ∃ digits, FourDigits digits n ∧ cs = digits ++ rest := by
  unfold fourHexDigits at h
  extract_lets failure at h
  have refused : failure ≠ .ok (n, rest) := by
    unfold failure
    split <;> nofun
  split at h
  · split at h
    · rename_i first second third fourth
      obtain ⟨rfl, rfl⟩ := Prod.mk.inj (Except.ok.inj h)
      exact ⟨_, .of first second third fourth, rfl⟩
    · exact absurd h refused
  · exact absurd h refused

theorem hexDigit?_lt {c : Char} {n : Nat} (h : Text.hexDigit? c = some n) : n < 16 := by
  unfold Text.hexDigit? at h
  split at h
  · rename_i digit
    have high : c.toNat ≤ 57 := digit.2
    have value := Option.some.inj h
    omega
  · split at h
    · rename_i small
      have high : c.toNat ≤ 102 := small.2
      have value := Option.some.inj h
      omega
    · split at h
      · rename_i capital
        have high : c.toNat ≤ 70 := capital.2
        have value := Option.some.inj h
        omega
      · cases h

theorem FourDigits.lt {digits : List Char} {n : Nat} (h : FourDigits digits n) : n < 0x10000 := by
  obtain ⟨first, second, third, fourth⟩ := h
  have := hexDigit?_lt first
  have := hexDigit?_lt second
  have := hexDigit?_lt third
  have := hexDigit?_lt fourth
  omega

theorem FourDigits.length_eq {digits : List Char} {n : Nat} (h : FourDigits digits n) :
    digits.length = 4 := by
  cases h
  rfl

theorem letterEscape?_eq_some_iff {letter c : Char} :
    letterEscape? letter = some c ↔ (letter, c) ∈ letterEscapes := by
  constructor
  · intro h
    unfold letterEscape? at h
    split at h <;> cases h <;> decide
  · intro h
    simp only [letterEscapes, List.mem_cons, Prod.mk.injEq, List.not_mem_nil, or_false] at h
    rcases h with h | h | h | h | h | h | h | h <;> rw [h.1, h.2] <;> rfl

theorem not_surrogate (c : Char) :
    isLeadingSurrogate c.toNat = false ∧ isTrailingSurrogate c.toNat = false := by
  have valid : c.toNat < 0xD800 ∨ 0xDFFF < c.toNat ∧ c.toNat < 0x110000 := c.valid
  simp only [isLeadingSurrogate, isTrailingSurrogate, Bool.and_eq_false_iff,
    decide_eq_false_iff_not]
  omega

theorem toNat_ofNat {n : Nat} (valid : n.isValidChar) : (Char.ofNat n).toNat = n := by
  rw [Char.ofNat, dif_pos valid]
  rfl

theorem toNat_pairedSurrogates {m n : Nat} (leads : 0xD800 ≤ m ∧ m ≤ 0xDBFF)
    (trails : 0xDC00 ≤ n ∧ n ≤ 0xDFFF) :
    (pairedSurrogates m n).toNat = (m - 0xD800) * 0x400 + (n - 0xDC00) + 0x10000 := by
  apply toNat_ofNat
  right
  omega

theorem isLeadingSurrogate_iff {n : Nat} :
    isLeadingSurrogate n = true ↔ 0xD800 ≤ n ∧ n ≤ 0xDBFF := by
  simp [isLeadingSurrogate]

theorem isTrailingSurrogate_iff {n : Nat} :
    isTrailingSurrogate n = true ↔ 0xDC00 ≤ n ∧ n ≤ 0xDFFF := by
  simp [isTrailingSurrogate]

theorem escape_of_numberedEscape {cs : List Char} {c : Char} {n : Nat}
    (h : numberedEscape cs = .ok (c, n)) :
    ∃ numbers rest, Escape ('u' :: numbers) c ∧ cs = numbers ++ rest ∧ n = numbers.length := by
  unfold numberedEscape at h
  cases first : fourHexDigits cs with
  | error stop =>
    rw [first] at h
    cases h
  | ok read =>
    obtain ⟨m, rest⟩ := read
    obtain ⟨digits, number, rfl⟩ := fourDigits_of_read first
    have lt := number.lt
    simp only [first, bind, Except.bind] at h
    split at h
    · cases h
    rename_i noTrail
    split at h
    · rename_i noLead
      obtain ⟨rfl, rfl⟩ := Prod.mk.inj (Except.ok.inj h)
      rw [isTrailingSurrogate_iff] at noTrail
      rw [Bool.not_eq_true', ← Bool.not_eq_true, isLeadingSurrogate_iff] at noLead
      have same : (Char.ofNat m).toNat = m := by
        apply toNat_ofNat
        show m < 0xD800 ∨ 0xDFFF < m ∧ m < 0x110000
        omega
      refine ⟨digits, rest, .numbered ?_, rfl, number.length_eq.symm⟩
      rw [same]
      exact number
    rename_i leads
    rw [Bool.not_eq_true', Bool.not_eq_false, isLeadingSurrogate_iff] at leads
    split at h
    · cases h
    · cases h
    · rename_i later
      cases second : fourHexDigits later with
      | error stop =>
        rw [second] at h
        cases h
      | ok read =>
        obtain ⟨n, after⟩ := read
        obtain ⟨trailing, number', rfl⟩ := fourDigits_of_read second
        simp only [second] at h
        split at h
        · rename_i trails
          rw [isTrailingSurrogate_iff] at trails
          obtain ⟨rfl, rfl⟩ := Prod.mk.inj (Except.ok.inj h)
          refine ⟨digits ++ '\\' :: 'u' :: trailing, after,
            .paired number number' leads trails (toNat_pairedSurrogates leads trails), ?_, ?_⟩
          · simp
          · simp [number.length_eq, number'.length_eq]
        · cases h
    · cases h
    · cases h

theorem numberedEscape_of_escape {numbers : List Char} {c : Char}
    (h : Escape ('u' :: numbers) c) (rest : List Char) :
    numberedEscape (numbers ++ rest) = .ok (c, numbers.length) := by
  cases h with
  | letter listed => simp [letterEscapes] at listed
  | numbered number =>
    obtain ⟨noLead, noTrail⟩ := not_surrogate c
    simp [numberedEscape, number.read, bind, Except.bind, noLead, noTrail, number.length_eq]
  | paired first second leads trails number =>
    rename_i leading trailing m n
    have lead := isLeadingSurrogate_iff.mpr leads
    have trail := isTrailingSurrogate_iff.mpr trails
    have noTrail : isTrailingSurrogate m = false := by
      rw [← Bool.not_eq_true, isTrailingSurrogate_iff]
      omega
    have same : pairedSurrogates m n = c := by
      rw [← Char.toNat_inj, toNat_pairedSurrogates leads trails, number]
    have split : leading ++ '\\' :: 'u' :: trailing ++ rest =
        leading ++ ('\\' :: 'u' :: (trailing ++ rest)) := by simp
    simp [numberedEscape, split, first.read, second.read, bind, Except.bind, noTrail, lead, trail,
      same, first.length_eq, second.length_eq]

theorem escape_of_escapeAt {cs : List Char} {c : Char} {n : Nat} (h : escapeAt cs = .ok (c, n)) :
    ∃ escape rest, Escape escape c ∧ cs = escape ++ rest ∧ n = escape.length := by
  unfold escapeAt at h
  split at h
  · cases h
  · rename_i digits
    cases numbered : numberedEscape digits with
    | error stop =>
      rw [numbered] at h
      cases h
    | ok read =>
      rw [numbered] at h
      obtain ⟨rfl, rfl⟩ := Prod.mk.inj (Except.ok.inj h)
      obtain ⟨numbers, rest, escape, rfl, same⟩ := escape_of_numberedEscape numbered
      exact ⟨_, rest, escape, rfl, by rw [same, List.length_cons]⟩
  · split at h
    · rename_i letter rest _ _ c' listed
      obtain ⟨rfl, rfl⟩ := Prod.mk.inj (Except.ok.inj h)
      exact ⟨[letter], rest, .letter (letterEscape?_eq_some_iff.mp listed), rfl, rfl⟩
    · cases h

theorem escapeAt_of_escape {escape : List Char} {c : Char} (h : Escape escape c)
    (rest : List Char) : escapeAt (escape ++ rest) = .ok (c, escape.length) := by
  by_cases numbered : ∃ numbers, escape = 'u' :: numbers
  · obtain ⟨numbers, rfl⟩ := numbered
    simp [escapeAt, numberedEscape_of_escape h, Except.map]
  · cases h with
    | letter listed =>
      rename_i letter
      have other : letter ≠ 'u' := by
        rintro rfl
        exact numbered ⟨[], rfl⟩
      simp [escapeAt, letterEscape?_eq_some_iff.mpr listed]
    | numbered number => exact absurd ⟨_, rfl⟩ numbered
    | paired first second leads trails number => exact absurd ⟨_, rfl⟩ numbered

theorem textAfter_skipped (taken rest : List Char) :
    textAfter taken.length (taken ++ rest) = textAfter 0 rest := by
  induction taken with
  | nil => rfl
  | cons c taken ih =>
    rw [List.length_cons, List.cons_append, textAfter]
    exact ih

/-- A text is read from each of its spellings. -/
theorem textAfter_of_spells {spelled content : List Char} (h : Spells spelled content)
    (rest : List Char) : textAfter 0 (spelled ++ '"' :: rest) = .ok (content, rest) := by
  induction h with
  | nil => rfl
  | plain notQuote notBackslash notControl more ih =>
    simp [textAfter, notQuote, notBackslash, Nat.not_lt.mpr notControl, ih, bind, Except.bind]
  | escaped first more ih =>
    simp [textAfter, escapeAt_of_escape first, textAfter_skipped, ih, bind, Except.bind]

/-- What is read as a text is one of its spellings. -/
theorem spells_of_textAfter {cs content after : List Char}
    (h : textAfter 0 cs = .ok (content, after)) :
    ∃ spelled, cs = spelled ++ '"' :: after ∧ Spells spelled content := by
  -- An escape takes several characters at once, so the induction is on the length.
  induction length : cs.length using Nat.strongRecOn generalizing cs content with
  | ind n ih =>
    have later {rest more : List Char} (shorter : rest.length < n)
        (read : textAfter 0 rest = .ok (more, after)) :
        ∃ spelled, rest = spelled ++ '"' :: after ∧ Spells spelled more :=
      ih rest.length shorter read rfl
    cases cs with
    | nil => cases h
    | cons c rest =>
      rw [List.length_cons] at length
      rw [textAfter] at h
      by_cases quote : c = '"'
      · rw [if_pos quote] at h
        obtain ⟨rfl, rfl⟩ := Prod.mk.inj (Except.ok.inj h)
        exact ⟨[], by rw [quote, List.nil_append], .nil⟩
      rw [if_neg quote] at h
      by_cases backslash : c = '\\'
      · rw [if_pos backslash] at h
        cases escaped : escapeAt rest with
        | error stop =>
          rw [escaped] at h
          cases h
        | ok read =>
          obtain ⟨d, taken⟩ := read
          obtain ⟨escape, more, spells, rfl, rfl⟩ := escape_of_escapeAt escaped
          simp only [escaped, bind, Except.bind, textAfter_skipped] at h
          cases rest : textAfter 0 more with
          | error stop =>
            rw [rest] at h
            cases h
          | ok read =>
            rw [rest] at h
            obtain ⟨rfl, rfl⟩ := Prod.mk.inj (Except.ok.inj h)
            rw [List.length_append] at length
            obtain ⟨spelled, rfl, spells'⟩ := later (by omega) rest
            exact ⟨_, by rw [backslash]; simp, .escaped spells spells'⟩
      rw [if_neg backslash] at h
      split at h
      · cases h
      · rename_i notControl
        cases more : textAfter 0 rest with
        | error stop =>
          rw [more] at h
          cases h
        | ok read =>
          simp only [more, bind, Except.bind] at h
          obtain ⟨rfl, rfl⟩ := Prod.mk.inj (Except.ok.inj h)
          obtain ⟨spelled, rfl, spells⟩ := later (by omega) more
          exact ⟨c :: spelled, rfl, .plain quote backslash (Nat.not_lt.mp notControl) spells⟩

theorem skipBlanks_append {before : List Char} (blank : ∀ c ∈ before, isBlank c = true)
    (rest : List Char) : skipBlanks (before ++ rest) = skipBlanks rest :=
  List.dropWhile_append_of_pos blank

theorem skipBlanks_of_blank {cs : List Char} (blank : ∀ c ∈ cs, isBlank c = true) :
    skipBlanks cs = [] :=
  List.dropWhile_eq_nil_iff.mpr blank

theorem exists_blanks (cs : List Char) :
    ∃ before, (∀ c ∈ before, isBlank c = true) ∧ cs = before ++ skipBlanks cs :=
  ⟨cs.takeWhile isBlank, fun _ mem => List.mem_takeWhile_imp mem,
    List.takeWhile_append_dropWhile.symm⟩

theorem wrongType_ne_ok {α : Type} (expected : String) (cs : List Char) (read : α × List Char) :
    wrongType expected cs ≠ .ok read := by
  have refused {β : Type} (first : Except Stop β) (stop : β → Except Stop (α × List Char))
      (stops : ∀ b, stop b ≠ .ok read) : (first >>= stop) ≠ .ok read := by
    cases first with
    | error cause => nofun
    | ok b => exact stops b
  unfold wrongType
  split
  · nofun
  · split_ifs
    · exact refused _ _ nofun
    · exact refused _ _ nofun
    · exact refused _ _ nofun
    · exact refused _ _ nofun
    · exact refused _ _ nofun
    · nofun
    · nofun
    · nofun

theorem text_of_spells {before spelled : List Char} {s : String}
    (blank : ∀ c ∈ before, isBlank c = true) (spells : Spells spelled s.toList)
    (after : List Char) : text (before ++ '"' :: (spelled ++ '"' :: after)) = .ok (s, after) := by
  have quote : isBlank '"' = false := rfl
  have start : valueStart (before ++ '"' :: (spelled ++ '"' :: after)) =
      .ok ('"' :: (spelled ++ '"' :: after)) := by
    rw [valueStart, skipBlanks_append blank, skipBlanks_cons _ quote]
  simp only [text, parsedText, start, openText, textAfter_of_spells spells, bind, Except.bind,
    String.ofList_toList]

theorem exists_spells_of_text {cs after : List Char} {s : String} (h : text cs = .ok (s, after)) :
    ∃ before spelled, cs = before ++ '"' :: (spelled ++ '"' :: after) ∧
      (∀ c ∈ before, isBlank c = true) ∧ Spells spelled s.toList := by
  obtain ⟨before, blank, split⟩ := exists_blanks cs
  rw [text, parsedText, valueStart] at h
  cases start : skipBlanks cs with
  | nil =>
    rw [start] at h
    cases h
  | cons c rest =>
    simp only [start, bind, Except.bind] at h
    split at h
    · rename_i rest' same
      obtain ⟨rfl, rfl⟩ := List.cons.inj same
      cases opened : textAfter 0 rest with
      | error stop =>
        simp only [openText, opened, bind, Except.bind] at h
        cases h
      | ok read =>
        simp only [openText, opened, bind, Except.bind] at h
        obtain ⟨rfl, rfl⟩ := Prod.mk.inj (Except.ok.inj h)
        obtain ⟨spelled, rfl, spells⟩ := spells_of_textAfter opened
        refine ⟨before, spelled, by rw [split, start], blank, ?_⟩
        rwa [String.toList_ofList]
    · exact absurd h (wrongType_ne_ok _ _ _)

/-- What is made from a text is made from the content of any text in quotes, and from nothing
else. -/
theorem readText_textFor_eq_ok_iff {α : Type} {make : String → Except Fault α} {source : String}
    {a : α} : readText (textFor make) source = .ok a ↔
      ∃ content, IsQuoted source content ∧ make content = .ok a := by
  constructor
  · intro h
    cases read : text source.toList with
    | error stop =>
      simp only [readText, textFor, read, bind, Except.bind] at h
      cases h
    | ok found =>
      obtain ⟨content, rest⟩ := found
      obtain ⟨before, spelled, shape, blank, spells⟩ := exists_spells_of_text read
      simp only [readText, textFor, read, bind, Except.bind] at h
      cases made : make content with
      | error fault =>
        simp only [made] at h
        cases h
      | ok b =>
        simp only [made] at h
        obtain ⟨after, blank', split⟩ := exists_blanks rest
        cases nothing : skipBlanks rest with
        | cons c more =>
          rw [nothing] at h
          cases h
        | nil =>
          rw [nothing] at h split
          rw [List.append_nil] at split
          obtain rfl : b = a := Except.ok.inj h
          exact ⟨content, ⟨before, spelled, rest, shape, blank, split ▸ blank', spells⟩, made⟩
  · rintro ⟨content, ⟨before, spelled, after, shape, blank, blank', spells⟩, made⟩
    simp only [readText, textFor, shape, text_of_spells blank spells, made, bind, Except.bind,
      skipBlanks_of_blank blank', Except.mapError]

/-- Where nothing can be made from the content of a text in quotes, reading fails for this cause and
at no place in the text. -/
theorem readText_textFor_of_error {α : Type} {make : String → Except Fault α}
    {source content : String} (quoted : IsQuoted source content) {fault : Fault}
    (refused : make content = .error fault) :
    readText (textFor make) source = .error ⟨fault, none⟩ := by
  obtain ⟨before, spelled, after, shape, blank, -, spells⟩ := quoted
  simp only [readText, textFor, shape, text_of_spells blank spells, refused, bind, Except.bind,
    Except.mapError, Stop.inText]

theorem isQuoted_writeText (s : String) : IsQuoted (String.ofList (writeText s)) s := by
  obtain ⟨spelled, same, spells⟩ := spells_of_textAfter (textAfter_flatMap s.toList [])
  obtain rfl := List.append_cancel_right same
  refine ⟨[], _, [], ?_, List.forall_mem_nil _, List.forall_mem_nil _, spells⟩
  rw [String.toList_ofList, ← List.append_nil (writeText s), writeText_append, List.nil_append]

end QuoteGateway.Json
