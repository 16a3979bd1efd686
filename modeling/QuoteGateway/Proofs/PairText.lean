import Mathlib.Data.List.Basic
import QuoteGateway.Proofs.Json.Spelling
import QuoteGateway.Proofs.Pieces
import QuoteGateway.Rate

/-!
# Texts of pairs

A text is a pair exactly if it has one underscore that is neither its first nor its last character.
Written again, the pair is that text, and the text in quotes is read as the pair, however its
characters are spelled. All other texts are refused by name.
-/

namespace QuoteGateway.CurrencyPair

open Json

/-- Two names that are not empty and hold no underscore. -/
structure IsProper (pair : CurrencyPair) : Prop where
  base_ne : pair.base ≠ ""
  target_ne : pair.target ≠ ""
  base_free : '_' ∉ pair.base.toList
  target_free : '_' ∉ pair.target.toList

theorem toList_text (pair : CurrencyPair) :
    pair.text.toList = pair.base.toList ++ '_' :: pair.target.toList := by
  simp [text, separator]

/-- A text is read as a pair exactly if it is the text of this pair and the pair is proper. -/
theorem parse?_eq_some_iff {s : String} {pair : CurrencyPair} :
    parse? s = some pair ↔ pair.IsProper ∧ pair.text = s := by
  constructor
  · intro h
    unfold parse? at h
    split at h
    · rename_i base target found
      have free := Text.separator_notMem_pieces separator s.toList
      have letters := Text.joined_pieces separator s.toList
      rw [found] at free letters
      split_ifs at h with names
      obtain rfl := Option.some.inj h
      simp only [Bool.or_eq_true, List.isEmpty_iff, not_or] at names
      refine ⟨⟨?_, ?_, ?_, ?_⟩, ?_⟩
      · simpa using names.1
      · simpa using names.2
      · rw [String.toList_ofList]
        exact free base List.mem_cons_self
      · rw [String.toList_ofList]
        exact free target (by simp)
      · rw [← String.toList_inj, toList_text, ← letters]
        simp [Text.joined, separator]
    · cases h
  · rintro ⟨⟨base_ne, target_ne, base_free, target_free⟩, rfl⟩
    have found : Text.pieces separator pair.text.toList =
        [pair.base.toList, pair.target.toList] := by
      rw [toList_text]
      exact (Text.pieces_append base_free _).trans
        (congrArg _ (Text.pieces_of_notMem target_free))
    simp [parse?, found, base_ne, target_ne]

theorem parse_eq_ok_iff {s : String} {pair : CurrencyPair} :
    parse s = .ok pair ↔ pair.IsProper ∧ pair.text = s := by
  rw [← parse?_eq_some_iff, parse]
  cases parse? s <;> simp

theorem parse?_of_parse {s : String} {pair : CurrencyPair} (h : parse s = .ok pair) :
    parse? s = some pair :=
  parse?_eq_some_iff.mpr (parse_eq_ok_iff.mp h)

theorem eq_invalidPair_of_parse {s : String} {failure : Failure} (h : parse s = .error failure) :
    failure = .invalidPair s := by
  unfold parse at h
  split at h
  · cases h
  · exact (Except.error.inj h).symm

theorem text_of_parse {s : String} {pair : CurrencyPair} (h : parse s = .ok pair) :
    pair.text = s :=
  (parse_eq_ok_iff.mp h).2

def IsReadable (pair : CurrencyPair) : Prop := ∃ s, parse s = .ok pair

theorem IsReadable.parse_text {pair : CurrencyPair} (h : pair.IsReadable) :
    parse pair.text = .ok pair := by
  obtain ⟨s, read⟩ := h
  rwa [text_of_parse read]

theorem reads_text {pair : CurrencyPair} (readable : pair.IsReadable) :
    Reads reader (writeText pair.text) pair := by
  intro rest ends
  simp only [reader, textFor, Json.reads_text pair.text rest ends, bind, Except.bind,
    readable.parse_text, Except.mapError]

/-- One underscore, neither the first nor the last character. -/
def IsWellFormed (s : String) : Prop :=
  s.toList.count '_' = 1 ∧ s.toList.head? ≠ some '_' ∧ s.toList.getLast? ≠ some '_'

instance (s : String) : Decidable (IsWellFormed s) := inferInstanceAs (Decidable (_ ∧ _))

theorem IsProper.isWellFormed {pair : CurrencyPair} (h : pair.IsProper) :
    IsWellFormed pair.text := by
  have base_ne : pair.base.toList ≠ [] := by simpa using h.base_ne
  have target_ne : pair.target.toList ≠ [] := by simpa using h.target_ne
  rw [IsWellFormed, toList_text]
  refine ⟨?_, ?_, ?_⟩
  · rw [List.count_append, List.count_cons_self, List.count_eq_zero.mpr h.base_free,
      List.count_eq_zero.mpr h.target_free]
  · rw [List.head?_append_of_ne_nil _ base_ne]
    exact fun first => h.base_free (List.mem_of_mem_head? first)
  · rw [List.append_cons, List.getLast?_append_of_ne_nil _ target_ne]
    exact fun last => h.target_free (List.mem_of_getLast? last)

theorem IsWellFormed.exists_parse {s : String} (h : IsWellFormed s) :
    ∃ pair, parse s = .ok pair := by
  obtain ⟨one, first, last⟩ := h
  have member : '_' ∈ s.toList := List.count_pos_iff.mp (by omega)
  obtain ⟨base, target, split⟩ := List.append_of_mem member
  rw [split] at one first last
  rw [List.count_append, List.count_cons_self] at one
  refine ⟨⟨String.ofList base, String.ofList target⟩, parse_eq_ok_iff.mpr ⟨⟨?_, ?_, ?_, ?_⟩, ?_⟩⟩
  · rintro nothing
    obtain rfl : base = [] := by simpa using nothing
    exact first rfl
  · rintro nothing
    obtain rfl : target = [] := by simpa using nothing
    exact last (by simp)
  · rw [String.toList_ofList]
    exact List.count_eq_zero.mp (by omega)
  · rw [String.toList_ofList]
    exact List.count_eq_zero.mp (by omega)
  · rw [← String.toList_inj, toList_text, split, String.toList_ofList, String.toList_ofList]

theorem exists_parse_iff (s : String) : (∃ pair, parse s = .ok pair) ↔ IsWellFormed s := by
  constructor
  · rintro ⟨pair, read⟩
    obtain ⟨proper, rfl⟩ := parse_eq_ok_iff.mp read
    exact proper.isWellFormed
  · exact IsWellFormed.exists_parse

/-- A pair in quotes is read from what it is read from without them, and from nothing else. -/
theorem readText_eq_ok_iff {source : String} {pair : CurrencyPair} :
    readText reader source = .ok pair ↔
      ∃ content, IsQuoted source content ∧ parse content = .ok pair := by
  have made (content : String) : ((parse content).mapError fun failure =>
      Fault.refused failure.message) = .ok pair ↔ parse content = .ok pair := by
    cases parse content <;> simp [Except.mapError]
  simp only [reader, readText_textFor_eq_ok_iff, made]

theorem readText_of_parse_error {source content : String} (quoted : IsQuoted source content)
    {failure : Failure} (refused : parse content = .error failure) :
    readText reader source = .error ⟨.refused failure.message, none⟩ := by
  apply readText_textFor_of_error quoted
  rw [refused]
  rfl

/-- How pairs are read from texts, and from texts in quotes. -/
structure ReadsPairs (read : String → Except Failure CurrencyPair)
    (readQuoted : String → Except ReadError CurrencyPair) : Prop where
  accepted : ∀ s, (∃ pair, read s = .ok pair) ↔ IsWellFormed s
  printed : ∀ s pair, read s = .ok pair → pair.text = s
  reread : ∀ s pair, read s = .ok pair →
    read pair.text = .ok pair ∧ readQuoted (Document.text pair.text).compact = .ok pair
  quoted : ∀ source content, IsQuoted source content →
    ∀ pair, readQuoted source = .ok pair ↔ read content = .ok pair
  unquoted : ∀ source pair, readQuoted source = .ok pair → ∃ content, IsQuoted source content
  refused : ∀ s failure, read s = .error failure → failure.category = .validation ∧
    failure.message = "Validation error: Invalid currency pair '" ++ s ++
      "'. Expected FROM_TO, e.g. USD_JPY"
  passedOn : ∀ source content failure, IsQuoted source content → read content = .error failure →
    ∃ error, readQuoted source = .error error ∧ error.message = failure.message

/-- Pairs are read from exactly the texts that have one underscore inside, and from these in quotes.
What was read is written as it was read, and read again from what is written. What is refused is
named in the failure, with and without quotes. -/
theorem readsPairs_parse : ReadsPairs parse (readText reader) where
  accepted := exists_parse_iff
  printed _ _ read := text_of_parse read
  reread s pair read := by
    have again := IsReadable.parse_text ⟨s, read⟩
    refine ⟨again, readText_eq_ok_iff.mpr ⟨pair.text, ?_, again⟩⟩
    rw [Document.compact, Document.write]
    exact isQuoted_writeText pair.text
  quoted source content quoted pair := by
    constructor
    · intro read
      cases parsed : parse content with
      | ok other =>
        have same := readText_eq_ok_iff.mpr ⟨content, quoted, parsed⟩
        rw [Except.ok.inj (same.symm.trans read)]
      | error failure =>
        rw [readText_of_parse_error quoted parsed] at read
        cases read
    · exact fun read => readText_eq_ok_iff.mpr ⟨content, quoted, read⟩
  unquoted source pair read := by
    obtain ⟨content, quoted, -⟩ := readText_eq_ok_iff.mp read
    exact ⟨content, quoted⟩
  refused s failure refused := by
    obtain rfl := eq_invalidPair_of_parse refused
    exact ⟨rfl, rfl⟩
  passedOn source content failure quoted refused :=
    ⟨_, readText_of_parse_error quoted refused, rfl⟩

/-- Names that need escapes, spelled with escapes of all kinds and with blanks around the quotes. -/
theorem readText_spelledOut :
    readText reader " \"\\u00e9\\\"_\\ud83d\\uDE00\"\n" = .ok ⟨"é\"", "😀"⟩ := by
  have accented : Escape ['u', '0', '0', 'e', '9'] 'é' :=
    .numbered (.of (i := 0) (j := 0) (k := 14) (l := 9) rfl rfl rfl rfl)
  have quote : Escape ['"'] '"' := .letter (by decide)
  have leading : FourDigits ['d', '8', '3', 'd'] 0xD83D :=
    .of (i := 13) (j := 8) (k := 3) (l := 13) rfl rfl rfl rfl
  have trailing : FourDigits ['D', 'E', '0', '0'] 0xDE00 :=
    .of (i := 13) (j := 14) (k := 0) (l := 0) rfl rfl rfl rfl
  have pair : Escape _ '😀' := .paired leading trailing (by decide) (by decide) rfl
  have spelled : Spells _ ['é', '"', '_', '😀'] :=
    .escaped accented <| .escaped quote <| .plain (by decide) (by decide) (by decide) <|
      .escaped pair .nil
  have quoted : IsQuoted " \"\\u00e9\\\"_\\ud83d\\uDE00\"\n" "é\"_😀" :=
    ⟨[' '], _, ['\n'], rfl, List.forall_mem_singleton.mpr rfl, List.forall_mem_singleton.mpr rfl,
      spelled⟩
  exact (readsPairs_parse.quoted _ _ quoted _).mpr rfl

end QuoteGateway.CurrencyPair
