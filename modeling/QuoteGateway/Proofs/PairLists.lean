import Mathlib.Logic.ExistsUnique
import QuoteGateway.Proofs.PairText
import QuoteGateway.Proofs.Traversal

/-!
# Lists of pairs

Between the commas of a list stand its items, each with any white space around it, and blanks
anywhere. The list is the pairs of its items in order, however they are laid out. It fails as the
first item that is no pair, or for want of any item.
-/

namespace QuoteGateway

namespace Text

/-- The text holds nothing but white space. -/
def IsBlank (cs : List Char) : Prop := ∀ c ∈ cs, isWhiteSpace c = true

/-- The text neither starts nor ends with white space. -/
def IsTrimmed (cs : List Char) : Prop :=
  (∀ c ∈ cs.head?, isWhiteSpace c = false) ∧ ∀ c ∈ cs.getLast?, isWhiteSpace c = false

instance (cs : List Char) : Decidable (IsBlank cs) :=
  List.decidableBAll (fun c => isWhiteSpace c = true) cs

theorem dropWhile_of_head? {cs : List Char} (h : ∀ c ∈ cs.head?, isWhiteSpace c = false) :
    cs.dropWhile isWhiteSpace = cs := by
  cases cs with
  | nil => rfl
  | cons c rest => rw [List.dropWhile_cons_of_neg (by simp [h c rfl])]

theorem exists_dropped (cs : List Char) : ∃ space, cs = space ++ cs.dropWhile isWhiteSpace ∧
    IsBlank space ∧ ∀ c ∈ (cs.dropWhile isWhiteSpace).head?, isWhiteSpace c = false := by
  refine ⟨cs.takeWhile isWhiteSpace, List.takeWhile_append_dropWhile.symm,
    fun c taken => List.mem_takeWhile_imp taken, fun c first => ?_⟩
  have stopped := List.head?_dropWhile_not isWhiteSpace cs
  rw [first] at stopped
  simpa using stopped

theorem trim_of_isBlank {space : List Char} (blank : IsBlank space) : trim space = [] := by
  rw [trim, List.dropWhile_eq_nil_iff.mpr blank]
  rfl

theorem trim_surrounded {before core after : List Char} (blank : IsBlank before)
    (trimmed : IsTrimmed core) (blank' : IsBlank after) : trim (before ++ core ++ after) = core := by
  have blankReverse : ∀ c ∈ after.reverse, isWhiteSpace c = true :=
    fun c mem => blank' c (List.mem_reverse.mp mem)
  have lastFirst : ∀ c ∈ core.reverse.head?, isWhiteSpace c = false := by
    rw [List.head?_reverse]
    exact trimmed.2
  rw [List.append_assoc, trim, List.dropWhile_append_of_pos blank]
  cases core with
  | nil =>
    rw [List.nil_append, List.dropWhile_eq_nil_iff.mpr blank']
    rfl
  | cons c rest =>
    have first : isWhiteSpace c = false := trimmed.1 c rfl
    rw [List.cons_append, List.dropWhile_cons_of_neg (by simp [first]), ← List.cons_append,
      List.reverse_append, List.dropWhile_append_of_pos blankReverse, dropWhile_of_head? lastFirst,
      List.reverse_reverse]

/-- Every text is a trimmed text with white space around it. -/
theorem exists_surrounding (cs : List Char) : ∃ before core after,
    cs = before ++ core ++ after ∧ IsBlank before ∧ IsTrimmed core ∧ IsBlank after := by
  -- What stands at the end of a text is dropped from the front of the reversed one.
  obtain ⟨before, split, blank, first⟩ := exists_dropped cs
  obtain ⟨after, split', blank', last⟩ := exists_dropped (cs.dropWhile isWhiteSpace).reverse
  set kept := (cs.dropWhile isWhiteSpace).reverse.dropWhile isWhiteSpace
  have whole : cs.dropWhile isWhiteSpace = kept.reverse ++ after.reverse := by
    rw [← List.reverse_append, ← split', List.reverse_reverse]
  refine ⟨before, kept.reverse, after.reverse, ?_, blank, ⟨?_, ?_⟩, ?_⟩
  · rw [List.append_assoc, ← whole, ← split]
  · rw [whole] at first
    exact fun c front => first c (by simp [List.head?_append, Option.mem_def.mp front])
  · rwa [List.getLast?_reverse]
  · exact fun c among => blank' c (List.mem_reverse.mp among)

end Text

namespace CurrencyPair

open Text

/-- Pieces that are blank, or else the next of the texts with white space around it. -/
inductive Layout : List (List Char) → List String → Prop
  | nil : Layout [] []
  | blank {space pieces texts} : IsBlank space → Layout pieces texts →
      Layout (space :: pieces) texts
  | item {before after text pieces texts} : IsBlank before → IsBlank after →
      Layout pieces texts → Layout ((before ++ text.toList ++ after) :: pieces) (text :: texts)

/-- A text that can stand between the commas of a list, with white space around it. -/
structure IsBare (text : String) : Prop where
  free : ',' ∉ text.toList
  trimmed : IsTrimmed text.toList

/-- The string is a layout of these texts, all bare and none of them empty, with commas. -/
def HasItems (s : String) (texts : List String) : Prop :=
  (∀ text ∈ texts, IsBare text ∧ text ≠ "") ∧
    ∃ pieces, Layout pieces texts ∧ s.toList = joined ',' pieces

theorem comma_notMem_of_isBlank {space : List Char} (blank : IsBlank space) : ',' ∉ space :=
  fun comma => absurd (blank ',' comma) (by decide)

variable {pieces : List (List Char)} {texts : List String}

theorem Layout.comma_notMem (layout : Layout pieces texts) (bare : ∀ text ∈ texts, IsBare text) :
    ∀ piece ∈ pieces, ',' ∉ piece := by
  induction layout with
  | nil => exact List.forall_mem_nil _
  | blank space _ ih => exact List.forall_mem_cons.mpr ⟨comma_notMem_of_isBlank space, ih bare⟩
  | item before after _ ih =>
    obtain ⟨first, others⟩ := List.forall_mem_cons.mp bare
    refine List.forall_mem_cons.mpr ⟨?_, ih others⟩
    simp only [List.mem_append, not_or]
    exact ⟨⟨comma_notMem_of_isBlank before, first.free⟩, comma_notMem_of_isBlank after⟩

theorem Layout.items (layout : Layout pieces texts)
    (bare : ∀ text ∈ texts, IsBare text ∧ text ≠ "") :
    ((pieces.map trim).filter (!·.isEmpty)).map String.ofList = texts := by
  induction layout with
  | nil => rfl
  | blank space _ ih => simpa [trim_of_isBlank space] using ih bare
  | item before after _ ih =>
    obtain ⟨⟨first, named⟩, others⟩ := List.forall_mem_cons.mp bare
    rw [List.map_cons, trim_surrounded before first.trimmed after,
      List.filter_cons_of_pos (by simpa using named), List.map_cons, String.ofList_toList, ih others]

theorem exists_layout (free : ∀ piece ∈ pieces, ',' ∉ piece) :
    ∃ texts, (∀ text ∈ texts, IsBare text ∧ text ≠ "") ∧ Layout pieces texts := by
  induction pieces with
  | nil => exact ⟨[], List.forall_mem_nil _, .nil⟩
  | cons piece pieces ih =>
    obtain ⟨first, others⟩ := List.forall_mem_cons.mp free
    obtain ⟨texts, bare, layout⟩ := ih others
    obtain ⟨before, core, after, rfl, blank, trimmed, blank'⟩ := exists_surrounding piece
    by_cases nothing : core = []
    · subst nothing
      refine ⟨texts, bare, .blank ?_ layout⟩
      rw [List.append_nil]
      exact fun c among => (List.mem_append.mp among).elim (blank c) (blank' c)
    · refine ⟨String.ofList core :: texts, List.forall_mem_cons.mpr ⟨⟨⟨?_, ?_⟩, ?_⟩, bare⟩, ?_⟩
      · rw [String.toList_ofList]
        exact fun comma => first (by simp [comma])
      · rwa [String.toList_ofList]
      · simpa using nothing
      · have spelled : Layout ((before ++ (String.ofList core).toList ++ after) :: pieces)
            (String.ofList core :: texts) := .item blank blank' layout
        rwa [String.toList_ofList] at spelled

/-- The items of a list are the texts that it is a layout of. -/
theorem hasItems_iff {s : String} : HasItems s texts ↔ listItems s = texts := by
  constructor
  · rintro ⟨bare, pieces, layout, letters⟩
    rw [listItems, letters]
    by_cases nothing : pieces = []
    · subst nothing
      cases layout
      rfl
    · rw [pieces_joined nothing (layout.comma_notMem fun text among => (bare text among).1)]
      exact layout.items bare
  · rintro rfl
    obtain ⟨texts, bare, layout⟩ := exists_layout (separator_notMem_pieces ',' s.toList)
    have same : listItems s = texts := layout.items bare
    rw [same]
    exact ⟨bare, _, layout, (joined_pieces ',' s.toList).symm⟩

theorem text_ne_empty (pair : CurrencyPair) : pair.text ≠ "" := by
  intro nothing
  have letters := congrArg String.toList nothing
  simp [toList_text] at letters

variable {s : String} {pairs : List CurrencyPair} {failure : Failure}

theorem parseList_eq_ok_iff :
    parseList s = .ok pairs ↔ pairs ≠ [] ∧ (listItems s).mapM parse = .ok pairs := by
  unfold parseList
  cases (listItems s).mapM parse with
  | error failure => simp [bind, Except.bind]
  | ok made =>
    cases made with
    | nil => simp [bind, Except.bind, eq_comm]
    | cons pair others =>
      simp only [bind, Except.bind, List.isEmpty_cons, Bool.false_eq_true, if_false,
        Except.ok.injEq, iff_and_self]
      rintro rfl
      exact List.cons_ne_nil pair others

theorem parseList_eq_error_iff : parseList s = .error failure ↔
    (listItems s).mapM parse = .error failure ∨ listItems s = [] ∧ failure = .noPairs := by
  unfold parseList
  cases mapped : (listItems s).mapM parse with
  | error cause =>
    have some_item : listItems s ≠ [] := by
      intro nothing
      simp [nothing, pure, Except.pure] at mapped
    simp [bind, Except.bind, some_item]
  | ok made =>
    have lengths : (listItems s).length = made.length := (mapM_eq_ok_iff.mp mapped).length_eq
    cases made with
    | nil => simp [bind, Except.bind, List.eq_nil_of_length_eq_zero lengths, eq_comm]
    | cons pair others =>
      have some_item : listItems s ≠ [] := List.ne_nil_of_length_eq_add_one lengths
      simp [bind, Except.bind, some_item]

/-- How lists of pairs are read, however they are laid out. -/
structure ReadsLists (read : String → Except Failure (List CurrencyPair)) : Prop where
  laidOut : ∀ pairs ≠ [], (∀ pair ∈ pairs, pair.IsReadable ∧ IsBare pair.text) →
    ∀ pieces, Layout pieces (pairs.map text) →
      read (String.ofList (joined ',' pieces)) = .ok pairs
  items : ∀ s, ∃! texts, HasItems s texts
  accepted : ∀ s texts, HasItems s texts → ∀ pairs, read s = .ok pairs ↔
    pairs ≠ [] ∧ List.Forall₂ (fun text pair => parse text = .ok pair) texts pairs
  refused : ∀ s texts, HasItems s texts → ∀ failure, read s = .error failure ↔
    (∃ before bad after, texts = before ++ bad :: after ∧
      (∀ earlier ∈ before, ∃ pair, parse earlier = .ok pair) ∧ parse bad = .error failure) ∨
    texts = [] ∧ failure = .noPairs

theorem forall₂_parse_text (readable : ∀ pair ∈ pairs, pair.IsReadable) :
    List.Forall₂ (fun text pair => parse text = .ok pair) (pairs.map text) pairs := by
  rw [List.forall₂_map_left_iff, List.forall₂_same]
  exact fun pair among => (readable pair among).parse_text

/-- Pairs are read from every layout of their texts. What else is read as a list are its items, and
the failure of a list is that of its first item that is no pair. -/
theorem readsLists_parseList : ReadsLists parseList where
  laidOut pairs nonempty each pieces layout := by
    have items : HasItems (String.ofList (joined ',' pieces)) (pairs.map text) := by
      refine ⟨List.forall_mem_map.mpr fun pair among =>
        ⟨(each pair among).2, text_ne_empty pair⟩, pieces, layout, String.toList_ofList⟩
    rw [parseList_eq_ok_iff, hasItems_iff.mp items, mapM_eq_ok_iff]
    exact ⟨nonempty, forall₂_parse_text fun pair among => (each pair among).1⟩
  items s := ⟨listItems s, hasItems_iff.mpr rfl, fun _ items => (hasItems_iff.mp items).symm⟩
  accepted s texts items pairs := by
    rw [parseList_eq_ok_iff, hasItems_iff.mp items, mapM_eq_ok_iff]
  refused s texts items failure := by
    rw [parseList_eq_error_iff, hasItems_iff.mp items, mapM_eq_error_iff]

/-- Blank items, white space beyond ASCII, a pair that comes twice and one with a blank inside. -/
def spread : List (List Char) := [['\u3000'] ++ "B_A".toList ++ [' '], ['\u0085'],
  [] ++ "B_A".toList ++ ['\u00a0'], [] ++ "C_ D".toList ++ [], []]

theorem parseList_spread :
    String.ofList (joined ',' spread) = "\u3000B_A ,\u0085,B_A\u00a0,C_ D," ∧
      parseList (String.ofList (joined ',' spread)) =
        .ok [⟨"B", "A"⟩, ⟨"B", "A"⟩, ⟨"C", " D"⟩] := by
  have layout : Layout spread ["B_A", "B_A", "C_ D"] :=
    .item (by decide) (by decide) <| .blank (by decide) <| .item (by decide) (by decide) <|
      .item (by decide) (by decide) <| .blank (by decide) .nil
  have first : IsReadable ⟨"B", "A"⟩ ∧ IsBare (text ⟨"B", "A"⟩) :=
    ⟨⟨"B_A", rfl⟩, by decide, by rintro c ⟨⟩; rfl, by rintro c ⟨⟩; rfl⟩
  have last : IsReadable ⟨"C", " D"⟩ ∧ IsBare (text ⟨"C", " D"⟩) :=
    ⟨⟨"C_ D", rfl⟩, by decide, by rintro c ⟨⟩; rfl, by rintro c ⟨⟩; rfl⟩
  have each : ∀ pair ∈ ([⟨"B", "A"⟩, ⟨"B", "A"⟩, ⟨"C", " D"⟩] : List CurrencyPair),
      pair.IsReadable ∧ IsBare pair.text := by
    simp [first, last]
  exact ⟨by decide +kernel, readsLists_parseList.laidOut _ (List.cons_ne_nil _ _) each _ layout⟩

example : parseList "B_A,, BA ,C_" = .error (.invalidPair "BA") := by
  rfl

end CurrencyPair

end QuoteGateway
