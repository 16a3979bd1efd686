import Mathlib.Data.List.Nodup
import QuoteGateway.Proofs.Json.Remainders

/-!
# Objects in text

The members of an object stand one after the other, with commas between them and blanks around
their parts. What a dictionary or a record is read from is given by such members alone: by which
names they have in any spelling, and by what their values are read as.
-/

namespace QuoteGateway.Json

variable {α β ρ σ : Type}

/-- After blanks a text has this character, and then a rest. -/
def Marks (c : Char) (cs rest : List Char) : Prop :=
  ∃ before, (∀ d ∈ before, isBlank d = true) ∧ cs = before ++ c :: rest

/-- After blanks a text has another one in quotes, and then a rest. -/
def Quotes (cs : List Char) (content : String) (rest : List Char) : Prop :=
  ∃ spelled, Marks '"' cs (spelled ++ '"' :: rest) ∧ Spells spelled content.toList

/-- A member of an object comes next, with a comma before it unless it is the first. What is left
starts after the quote that opens its name. -/
inductive Leads : (first : Bool) → List Char → List Char → Prop
  | first {cs key : List Char} : Marks '"' cs key → Leads true cs key
  | next {cs rest key : List Char} : Marks ',' cs rest → Marks '"' rest key → Leads false cs key

/-- The members of an open object, up to its end: their names, and what their values amount to. A
value is given by its text and by the text that is left after it. -/
inductive Members (value : String → List Char → ρ → List Char → Prop) :
    (first : Bool) → List Char → List (String × ρ) → List Char → Prop
  | close {first : Bool} {cs after : List Char} : Marks '}' cs after →
    Members value first cs [] after
  | member {first : Bool} {cs spelled named start rest after : List Char} {name : String} {r : ρ}
    {rows : List (String × ρ)} : Leads first cs (spelled ++ '"' :: named) →
    Spells spelled name.toList → Marks ':' named start → value name start r rest →
    Members value false rest rows after → Members value first cs ((name, r) :: rows) after

theorem Marks.length_lt {c : Char} {cs rest : List Char} (h : Marks c cs rest) :
    rest.length < cs.length := by
  obtain ⟨before, -, rfl⟩ := h
  simp only [List.length_append, List.length_cons]
  omega

theorem Leads.length_lt {first : Bool} {cs key : List Char} (h : Leads first cs key) :
    key.length < cs.length := by
  cases h with
  | first quote => exact quote.length_lt
  | next comma quote => exact quote.length_lt.trans comma.length_lt

namespace Members

variable {value : String → List Char → ρ → List Char → Prop}
  {value' : String → List Char → σ → List Char → Prop} {f : String → ρ → σ} {first : Bool}
  {cs after : List Char}

theorem map (h : ∀ name cs r rest, value name cs r rest → value' name cs (f name r) rest)
    {rows : List (String × ρ)} (members : Members value first cs rows after) :
    Members value' first cs (rows.map fun row => (row.1, f row.1 row.2)) after := by
  induction members with
  | close close => exact .close close
  | member lead spells colon holds more ih => exact .member lead spells colon (h _ _ _ _ holds) ih

theorem exists_map
    (h : ∀ name cs s rest, value' name cs s rest → ∃ r, s = f name r ∧ value name cs r rest)
    {rows : List (String × σ)} (members : Members value' first cs rows after) :
    ∃ rows', rows = rows'.map (fun row => (row.1, f row.1 row.2)) ∧
      Members value first cs rows' after := by
  induction members with
  | close close => exact ⟨[], rfl, .close close⟩
  | member lead spells colon holds more ih =>
    obtain ⟨rows', rfl, members⟩ := ih
    obtain ⟨r, rfl, holds'⟩ := h _ _ _ _ holds
    exact ⟨(_, r) :: rows', rfl, .member lead spells colon holds' members⟩

theorem length_lt (h : ∀ name cs r rest, value name cs r rest → rest.length ≤ cs.length)
    {rows : List (String × ρ)} (members : Members value first cs rows after) :
    rows.length + after.length < cs.length := by
  induction members with
  | close close =>
    have shorter := close.length_lt
    rwa [List.length_nil, Nat.zero_add]
  | member lead spells colon holds more ih =>
    have key := lead.length_lt
    have start := colon.length_lt
    have rest := h _ _ _ _ holds
    simp only [List.length_append, List.length_cons] at key ⊢
    omega

theorem forall_mem {rows : List (String × ρ)} (members : Members value first cs rows after) :
    ∀ row ∈ rows, ∃ start rest, value row.1 start row.2 rest := by
  induction members with
  | close close => exact List.forall_mem_nil _
  | member lead spells colon holds more ih => exact List.forall_mem_cons.mpr ⟨⟨_, _, holds⟩, ih⟩

theorem nil_iff : Members value first cs [] after ↔ Marks '}' cs after :=
  ⟨fun | .close ends => ends, .close⟩

end Members

section Marks

variable {c : Char} {first : Bool} {cs rest : List Char}

theorem skipBlanks_of_marks (h : Marks c cs rest) (notBlank : isBlank c = false) :
    skipBlanks cs = c :: rest := by
  obtain ⟨before, blank, rfl⟩ := h
  rw [skipBlanks_append blank, skipBlanks_cons _ notBlank]

theorem marks_of_skipBlanks (h : skipBlanks cs = c :: rest) : Marks c cs rest := by
  obtain ⟨before, blank, split⟩ := exists_blanks cs
  exact ⟨before, blank, h ▸ split⟩

theorem text_eq_ok_iff {s : String} : text cs = .ok (s, rest) ↔ Quotes cs s rest := by
  constructor
  · intro read
    obtain ⟨before, spelled, split, blank, spells⟩ := exists_spells_of_text read
    exact ⟨spelled, ⟨before, blank, split⟩, spells⟩
  · rintro ⟨spelled, ⟨before, blank, rfl⟩, spells⟩
    exact text_of_spells blank spells rest

theorem openText_eq_ok_iff {s : String} :
    openText cs = .ok (s, rest) ↔
      ∃ spelled, cs = spelled ++ '"' :: rest ∧ Spells spelled s.toList := by
  constructor
  · intro h
    obtain ⟨⟨content, after⟩, read, same⟩ := bind_eq_ok_iff.mp h
    obtain ⟨rfl, rfl⟩ := Prod.mk.inj (Except.ok.inj same)
    rw [String.toList_ofList]
    exact spells_of_textAfter read
  · rintro ⟨spelled, rfl, spells⟩
    simp only [openText, textAfter_of_spells spells, bind, Except.bind, String.ofList_toList]

theorem valueStart_of_marks (h : Marks c cs rest) (notBlank : isBlank c = false) :
    valueStart cs = .ok (c :: rest) := by
  rw [valueStart, skipBlanks_of_marks h notBlank]

theorem marks_of_valueStart {start : List Char} (h : valueStart cs = .ok start) :
    ∃ c rest, start = c :: rest ∧ Marks c cs rest := by
  unfold valueStart at h
  split at h
  · cases h
  · obtain rfl := Except.ok.inj h
    rename_i some
    cases start : skipBlanks cs with
    | nil => exact absurd start some
    | cons c rest => exact ⟨c, rest, rfl, marks_of_skipBlanks start⟩

theorem afterColon_eq_ok_iff : afterColon cs = .ok rest ↔ Marks ':' cs rest := by
  constructor
  · intro h
    unfold afterColon at h
    split at h
    · cases h
    · rename_i start
      obtain rfl := Except.ok.inj h
      exact marks_of_skipBlanks start
    · cases h
  · intro colon
    simp only [afterColon, skipBlanks_of_marks colon rfl]

theorem afterObjectEnd_eq_ok_iff : afterObjectEnd cs = .ok rest ↔ Marks '}' cs rest := by
  constructor
  · intro h
    unfold afterObjectEnd at h
    split at h
    · cases h
    · rename_i start
      obtain rfl := Except.ok.inj h
      exact marks_of_skipBlanks start
    · cases h
    · cases h
  · intro close
    simp only [afterObjectEnd, skipBlanks_of_marks close rfl]

theorem nextKey_of_marks_close (close : Marks '}' cs rest) (first : Bool) :
    nextKey first cs = .ok none := by
  simp only [nextKey, skipBlanks_of_marks close rfl, if_true]

theorem nextKey_eq_some_iff {key : List Char} :
    nextKey first cs = .ok (some key) ↔ Leads first cs key := by
  constructor
  · intro h
    unfold nextKey at h
    split at h
    · cases h
    · rename_i c rest start
      have marks := marks_of_skipBlanks start
      split_ifs at h with close isFirst quote comma
      · cases h
      · obtain rfl := Option.some.inj (Except.ok.inj h)
        exact isFirst ▸ .first (quote ▸ marks)
      · cases h
      · split at h
        · cases h
        · rename_i key' start'
          obtain rfl := Option.some.inj (Except.ok.inj h)
          obtain rfl : first = false := Bool.eq_false_iff.mpr isFirst
          exact .next (comma ▸ marks) (marks_of_skipBlanks start')
        · cases h
        · cases h
      · cases h
  · rintro (quote | ⟨comma, quote⟩)
    · simp [nextKey, skipBlanks_of_marks quote rfl]
    · simp [nextKey, skipBlanks_of_marks comma rfl, skipBlanks_of_marks quote rfl]

theorem marks_self (c : Char) (rest : List Char) : Marks c (c :: rest) rest :=
  ⟨[], List.forall_mem_nil _, rfl⟩

theorem Marks.of_skipBlanks (h : Marks c (skipBlanks cs) rest) : Marks c cs rest := by
  obtain ⟨before, blank, split⟩ := exists_blanks cs
  obtain ⟨before', blank', split'⟩ := h
  refine ⟨before ++ before', fun d member => ?_, ?_⟩
  · exact (List.mem_append.mp member).elim (blank d) (blank' d)
  · rw [split, split', List.append_assoc]

theorem Quotes.of_skipBlanks {content : String} (h : Quotes (skipBlanks cs) content rest) :
    Quotes cs content rest := by
  obtain ⟨spelled, quote, spells⟩ := h
  exact ⟨spelled, quote.of_skipBlanks, spells⟩

theorem afterListEnd_eq_ok_iff : afterListEnd cs = .ok rest ↔ Marks ']' cs rest := by
  constructor
  · intro h
    unfold afterListEnd at h
    split at h
    · cases h
    · rename_i start
      obtain rfl := Except.ok.inj h
      exact marks_of_skipBlanks start
    · split at h <;> cases h
    · cases h
  · intro close
    simp only [afterListEnd, skipBlanks_of_marks close rfl]

theorem nextItem_first_of_marks (h : Marks c cs rest) (notBlank : isBlank c = false)
    (notEnd : c ≠ ']') : nextItem true cs = .ok (some (c :: rest)) := by
  simp only [nextItem, skipBlanks_of_marks h notBlank, if_neg notEnd, if_true]

theorem nextItem_next_of_marks {item : List Char} (comma : Marks ',' cs item)
    (h : Marks c item rest) (notBlank : isBlank c = false) (notEnd : c ≠ ']') :
    nextItem false cs = .ok (some (c :: rest)) := by
  simp only [nextItem, skipBlanks_of_marks comma rfl, skipBlanks_of_marks h notBlank,
    Char.reduceEq, Bool.false_eq_true, if_false, if_true]
  split
  · rename_i nothing
    cases nothing
  · rename_i same
    exact absurd (List.cons.inj same).1 notEnd
  · rfl

theorem eq_skipBlanks_of_nextItem {item : List Char} (h : nextItem true cs = .ok (some item)) :
    item = skipBlanks cs := by
  unfold nextItem at h
  split at h
  · cases h
  · rename_i start
    simp only [if_true] at h
    split at h
    · cases h
    · rw [start]
      exact (Option.some.inj (Except.ok.inj h)).symm

theorem marks_comma_of_nextItem {item : List Char} (h : nextItem false cs = .ok (some item)) :
    ∃ rest, Marks ',' cs rest ∧ item = skipBlanks rest := by
  unfold nextItem at h
  split at h
  · cases h
  · rename_i c rest start
    simp only [Bool.false_eq_true, if_false] at h
    split_ifs at h with ends comma
    · cases h
    · refine ⟨rest, comma ▸ marks_of_skipBlanks start, ?_⟩
      split at h
      · cases h
      · cases h
      · exact (Option.some.inj (Except.ok.inj h)).symm
    · cases h

theorem members_cons_iff {value : String → List Char → ρ → List Char → Prop} {after : List Char}
    {name : String} {r : ρ} {rows : List (String × ρ)} :
    Members value first cs ((name, r) :: rows) after ↔
      ∃ key named start rest, nextKey first cs = .ok (some key) ∧
        openText key = .ok (name, named) ∧ afterColon named = .ok start ∧
        value name start r rest ∧ Members value false rest rows after := by
  simp only [nextKey_eq_some_iff, openText_eq_ok_iff, afterColon_eq_ok_iff]
  constructor
  · rintro (_ | ⟨lead, spells, colon, holds, more⟩)
    exact ⟨_, _, _, _, lead, ⟨_, rfl, spells⟩, colon, holds, more⟩
  · rintro ⟨_, _, _, _, lead, ⟨_, rfl, spells⟩, colon, holds, more⟩
    exact .member lead spells colon holds more

end Marks

theorem readText_eq_ok_iff {reader : Reader α} {s : String} {a : α} :
    readText reader s = .ok a ↔
      ∃ rest, reader s.toList = .ok (a, rest) ∧ ∀ c ∈ rest, isBlank c = true := by
  cases read : reader s.toList with
  | error stop => simp [readText, read, bind, Except.bind, Except.mapError]
  | ok found =>
    obtain ⟨b, rest⟩ := found
    cases left : skipBlanks rest with
    | nil =>
      have blank : ∀ c ∈ rest, isBlank c = true := List.dropWhile_eq_nil_iff.mp left
      simp only [readText, read, left, bind, Except.bind, Except.mapError, Except.ok.injEq,
        Prod.mk.injEq]
      constructor
      · exact fun same => ⟨rest, ⟨same, rfl⟩, blank⟩
      · rintro ⟨_, ⟨same, -⟩, -⟩
        exact same
    | cons c more =>
      have mixed : ¬ ∀ c ∈ rest, isBlank c = true := by
        intro blank
        rw [skipBlanks_of_blank blank] at left
        cases left
      simp only [readText, read, left, bind, Except.bind, stopWithin, Except.mapError, reduceCtorEq,
        Except.ok.injEq, Prod.mk.injEq, false_iff]
      rintro ⟨_, ⟨-, rfl⟩, blank⟩
      exact mixed blank

section Dictionary

variable {value : Reader α} {first : Bool} {cs mid after : List Char} {rows : List (String × α)}

/-- What a reader makes of a value, whatever its name. -/
def ReadBy (value : Reader α) : String → List Char → α → List Char → Prop :=
  fun _ cs a rest => value cs = .ok (a, rest)

theorem members_of_ok {steps : Nat} (h : members value steps first cs = .ok (rows, mid))
    (ends : afterObjectEnd mid = .ok after) : Members (ReadBy value) first cs rows after := by
  induction steps generalizing first cs rows with
  | zero => cases h
  | succ steps ih =>
    obtain ⟨key, start, h⟩ := bind_eq_ok_iff.mp h
    cases key with
    | none =>
      obtain ⟨rfl, rfl⟩ := Prod.mk.inj (Except.ok.inj h)
      exact Members.nil_iff.mpr (afterObjectEnd_eq_ok_iff.mp ends)
    | some key =>
      obtain ⟨⟨name, named⟩, opened, h⟩ := bind_eq_ok_iff.mp h
      obtain ⟨text, colon, h⟩ := bind_eq_ok_iff.mp h
      obtain ⟨⟨a, rest⟩, read, h⟩ := bind_eq_ok_iff.mp h
      obtain ⟨⟨more, last⟩, others, h⟩ := bind_eq_ok_iff.mp h
      obtain ⟨rfl, rfl⟩ := Prod.mk.inj (Except.ok.inj h)
      exact members_cons_iff.mpr ⟨key, named, text, rest, start, opened, colon, read, ih others⟩

theorem Members.ok (h : Members (ReadBy value) first cs rows after) {steps : Nat}
    (enough : rows.length < steps) :
    ∃ mid, members value steps first cs = .ok (rows, mid) ∧ afterObjectEnd mid = .ok after := by
  induction rows generalizing first cs steps with
  | nil =>
    obtain ⟨steps, rfl⟩ := Nat.exists_eq_add_of_lt enough
    have close := Members.nil_iff.mp h
    have none := nextKey_of_marks_close close first
    refine ⟨cs, ?_, afterObjectEnd_eq_ok_iff.mpr close⟩
    simp only [members, none, bind, Except.bind]
  | cons row rows ih =>
    obtain ⟨steps, rfl⟩ : ∃ n, steps = n + 1 := ⟨steps - 1, by omega⟩
    obtain ⟨key, named, text, rest, start, opened, colon, read, more⟩ := members_cons_iff.mp h
    obtain ⟨mid, others, ends⟩ := ih more (Nat.lt_of_succ_lt_succ enough)
    refine ⟨mid, ?_, ends⟩
    change value text = .ok (row.2, rest) at read
    simp only [members, start, opened, colon, read, others, bind, Except.bind]

theorem then_eq_ok_iff {ends : List Char → Except Stop (List Char)} {b b' : β} :
    (do .ok (b', ← ends mid)) = (.ok (b, after) : Except Stop (β × List Char)) ↔
      ∃ rest, (.ok (b', mid) : Except Stop (β × List Char)) = .ok (b, rest) ∧
        ends rest = .ok after := by
  simp only [bind_eq_ok_iff]
  constructor
  · rintro ⟨rest, found, same⟩
    obtain ⟨rfl, rfl⟩ := Prod.mk.inj (Except.ok.inj same)
    exact ⟨mid, rfl, found⟩
  · rintro ⟨_, same, found⟩
    obtain ⟨rfl, rfl⟩ := Prod.mk.inj (Except.ok.inj same)
    exact ⟨after, found, rfl⟩

theorem insideObject_eq_ok_iff {inside : Reader β} {b : β} :
    insideObject inside cs = .ok (b, after) ↔
      ∃ mid, inside cs = .ok (b, mid) ∧ afterObjectEnd mid = .ok after := by
  unfold insideObject
  rcases inside cs with ⟨fault, left⟩ | ⟨b', mid⟩
  · simp
  · simp
  · exact then_eq_ok_iff

theorem insideList_eq_ok_iff {inside : Reader β} {b : β} :
    insideList inside cs = .ok (b, after) ↔
      ∃ mid, inside cs = .ok (b, mid) ∧ Marks ']' mid after := by
  simp only [← afterListEnd_eq_ok_iff]
  unfold insideList
  rcases inside cs with ⟨fault, left⟩ | ⟨b', mid⟩
  · simp
  · simp
  · exact then_eq_ok_iff

/-- A dictionary is an object whose values are read by one reader, with its members in their
order. -/
theorem dictionary_eq_ok_iff (shortens : Shortens value) :
    dictionary value cs = .ok (rows, after) ↔
      ∃ inside, Marks '{' cs inside ∧ Members (ReadBy value) true inside rows after := by
  constructor
  · intro read
    obtain ⟨start, starts, h⟩ := bind_eq_ok_iff.mp read
    obtain ⟨c, rest, rfl, marks⟩ := marks_of_valueStart starts
    split at h
    · rename_i inside same
      obtain ⟨rfl, rfl⟩ := List.cons.inj same
      obtain ⟨mid, read, ends⟩ := insideObject_eq_ok_iff.mp h
      exact ⟨rest, marks, members_of_ok read ends⟩
    · exact absurd h (wrongType_ne_ok _ _ _)
  · rintro ⟨inside, marks, among⟩
    have few := among.length_lt fun _ cs a rest read => shortens cs (a, rest) read
    simp only [dictionary, valueStart_of_marks marks rfl, bind, Except.bind]
    exact insideObject_eq_ok_iff.mpr (among.ok (by omega))

theorem shortens_dictionary (shortens : Shortens value) : Shortens (dictionary value) := by
  rintro cs ⟨rows, after⟩ read
  obtain ⟨inside, marks, among⟩ := (dictionary_eq_ok_iff shortens).mp read
  have shorter := among.length_lt fun _ cs a rest read => shortens cs (a, rest) read
  have opening := marks.length_lt
  change after.length ≤ cs.length
  omega

end Dictionary

section Record

variable {shape : RecordShape α} {first : Bool} {cs mid after : List Char}
  {rows : List (String × (α → α))} {seen seen' : List String} {draft a : α}

namespace RecordShape

/-- What the value of a member changes about a record: nothing unless there is a field of its
name. -/
def Changes (shape : RecordShape α) (name : String) (cs : List Char) (change : α → α)
    (rest : List Char) : Prop :=
  match shape.fields.find? (·.name == name) with
  | none => skipValue cs = .ok ((), rest) ∧ change = id
  | some field => field.change cs = .ok (change, rest)

def known (shape : RecordShape α) (rows : List (String × ρ)) : List String :=
  (rows.map Prod.fst).filter fun name => (shape.fields.find? (·.name == name)).isSome

theorem known_cons_of_none {name : String} (h : shape.fields.find? (·.name == name) = none) (r : ρ)
    (rows : List (String × ρ)) : shape.known ((name, r) :: rows) = shape.known rows := by
  simp [known, h]

theorem known_cons_of_some {name : String} {field : Field α}
    (h : shape.fields.find? (·.name == name) = some field) (r : ρ) (rows : List (String × ρ)) :
    shape.known ((name, r) :: rows) = name :: shape.known rows := by
  simp [known, h]

theorem mem_known_iff {field : Field α} (among : field ∈ shape.fields)
    {rows : List (String × ρ)} :
    field.name ∈ shape.known rows ↔ field.name ∈ rows.map Prod.fst := by
  have found : (shape.fields.find? (·.name == field.name)).isSome = true :=
    List.find?_isSome.mpr ⟨field, among, beq_self_eq_true _⟩
  rw [known, List.mem_filter]
  exact and_iff_left found

theorem members_of_byName {steps : Nat} (nodup : seen.Nodup)
    (h : shape.byName steps first seen draft cs = .ok ((a, seen'), mid))
    (ends : afterObjectEnd mid = .ok after) :
    ∃ rows, Members shape.Changes first cs rows after ∧ (shape.known rows ++ seen).Nodup ∧
      rows.foldl (fun a row => row.2 a) draft = a ∧
      seen' = (shape.known rows).reverse ++ seen := by
  induction steps generalizing first cs seen draft with
  | zero => cases h
  | succ steps ih =>
    obtain ⟨key, start, h⟩ := bind_eq_ok_iff.mp h
    cases key with
    | none =>
      obtain ⟨⟨rfl, rfl⟩, rfl⟩ := Prod.mk.inj (Except.ok.inj h)
      exact ⟨[], Members.nil_iff.mpr (afterObjectEnd_eq_ok_iff.mp ends), nodup, rfl, rfl⟩
    | some key =>
      obtain ⟨⟨name, named⟩, opened, h⟩ := bind_eq_ok_iff.mp h
      dsimp only at h
      cases found : shape.fields.find? (·.name == name) with
      | none =>
        rw [found] at h
        obtain ⟨text, colon, h⟩ := bind_eq_ok_iff.mp h
        obtain ⟨⟨⟨⟩, rest⟩, skipped, h⟩ := bind_eq_ok_iff.mp h
        obtain ⟨rows, among, once, folded, names⟩ := ih nodup h
        have changes : shape.Changes name text id rest := by
          rw [Changes, found]
          exact ⟨skipped, rfl⟩
        refine ⟨(name, id) :: rows, members_cons_iff.mpr
          ⟨key, named, text, rest, start, opened, colon, changes, among⟩, ?_⟩
        rw [known_cons_of_none found]
        exact ⟨once, folded, names⟩
      | some field =>
        rw [found] at h
        dsimp only at h
        split_ifs at h with repeated
        obtain ⟨text, colon, h⟩ := bind_eq_ok_iff.mp h
        obtain ⟨⟨change, rest⟩, read, h⟩ := bind_eq_ok_iff.mp h
        have fresh : name ∉ seen := by simpa using repeated
        obtain ⟨rows, among, once, folded, names⟩ := ih (List.nodup_cons.mpr ⟨fresh, nodup⟩) h
        have changes : shape.Changes name text change rest := by
          rw [Changes, found]
          exact read
        refine ⟨(name, change) :: rows, members_cons_iff.mpr
          ⟨key, named, text, rest, start, opened, colon, changes, among⟩, ?_⟩
        rw [known_cons_of_some found]
        exact ⟨List.nodup_middle.mp once, folded, by simp [names]⟩

theorem byName_of_members (among : Members shape.Changes first cs rows after)
    (once : (shape.known rows ++ seen).Nodup) (draft : α) {steps : Nat}
    (enough : rows.length < steps) :
    ∃ mid, shape.byName steps first seen draft cs =
        .ok ((rows.foldl (fun a row => row.2 a) draft, (shape.known rows).reverse ++ seen), mid) ∧
      afterObjectEnd mid = .ok after := by
  induction rows generalizing first cs seen draft steps with
  | nil =>
    obtain ⟨steps, rfl⟩ := Nat.exists_eq_add_of_lt enough
    have close := Members.nil_iff.mp among
    have none := nextKey_of_marks_close close first
    refine ⟨cs, ?_, afterObjectEnd_eq_ok_iff.mpr close⟩
    simp only [byName, none, bind, Except.bind]
    rfl
  | cons row rows ih =>
    obtain ⟨name, change⟩ := row
    obtain ⟨steps, rfl⟩ : ∃ n, steps = n + 1 := ⟨steps - 1, by omega⟩
    obtain ⟨key, named, text, rest, start, opened, colon, changes, more⟩ :=
      members_cons_iff.mp among
    have few : rows.length < steps := Nat.lt_of_succ_lt_succ enough
    unfold Changes at changes
    cases found : shape.fields.find? (·.name == name) with
    | none =>
      rw [found] at changes
      obtain ⟨skipped, rfl⟩ := changes
      rw [known_cons_of_none found] at once ⊢
      obtain ⟨mid, others, ends⟩ := ih more once draft few
      refine ⟨mid, ?_, ends⟩
      simp only [byName, start, opened, found, colon, skipped, others, bind, Except.bind]
      rfl
    | some field =>
      rw [found] at changes
      rw [known_cons_of_some found] at once ⊢
      obtain ⟨mid, others, ends⟩ := ih more (List.nodup_middle.mpr once) (change draft) few
      have fresh : seen.contains name = false := by
        have := (List.nodup_cons.mp once).1
        simp_all
      refine ⟨mid, ?_, ends⟩
      simp only [byName, start, opened, found, fresh, colon, changes, others, bind, Except.bind,
        Bool.false_eq_true, if_false]
      simp

/-- The inside of an object is read as a record if no field is repeated and none is missing that is
required. -/
theorem insideObject_complete_iff
    (shortens : ∀ name cs change rest, shape.Changes name cs change rest → rest.length ≤ cs.length) :
    insideObject shape.complete cs = .ok (a, after) ↔
      ∃ rows, Members shape.Changes true cs rows after ∧ (shape.known rows).Nodup ∧
        (∀ field ∈ shape.fields, field.presence = .required → field.name ∈ rows.map Prod.fst) ∧
        rows.foldl (fun a row => row.2 a) shape.draft = a := by
  have present (names : List String) : (shape.fields.find? fun field =>
      field.presence == .required && !names.contains field.name) = none ↔
        ∀ field ∈ shape.fields, field.presence = .required → field.name ∈ names := by
    simp [List.find?_eq_none]
  have fields (rows : List (String × (α → α))) : (∀ field ∈ shape.fields,
      field.presence = .required → field.name ∈ (shape.known rows).reverse) ↔
        ∀ field ∈ shape.fields, field.presence = .required → field.name ∈ rows.map Prod.fst := by
    refine forall₂_congr fun field among => ?_
    rw [List.mem_reverse, mem_known_iff among]
  rw [insideObject_eq_ok_iff]
  constructor
  · rintro ⟨mid, read, ends⟩
    obtain ⟨⟨⟨b, seen⟩, rest⟩, inside, h⟩ := bind_eq_ok_iff.mp read
    dsimp only at h
    split at h
    · rename_i complete
      obtain ⟨rfl, rfl⟩ := Prod.mk.inj (Except.ok.inj h)
      obtain ⟨rows, among, once, folded, rfl⟩ := members_of_byName List.nodup_nil inside ends
      rw [List.append_nil] at once complete
      exact ⟨rows, among, once, (fields rows).mp ((present _).mp complete), folded⟩
    · cases h
  · rintro ⟨rows, among, once, required, rfl⟩
    have shorter := among.length_lt shortens
    have few : rows.length < cs.length + 1 := by omega
    have once' : (shape.known rows ++ []).Nodup := by rwa [List.append_nil]
    obtain ⟨mid, inside, ends⟩ := byName_of_members among once' shape.draft few
    refine ⟨mid, ?_, ends⟩
    have complete := (present _).mpr ((fields rows).mpr required)
    rw [List.append_nil] at inside
    simp only [RecordShape.complete, inside, complete, bind, Except.bind]

/-- A list that ends early can only miss fields with a default. -/
theorem defaulted_of_inOrder {fields : List (Field α)} {index : Nat}
    (h : shape.inOrder fields index first draft cs = .ok (a, mid))
    (ends : nextItem first cs = .ok none) : ∀ field ∈ fields, field.presence = .defaulted := by
  induction fields generalizing index with
  | nil => exact List.forall_mem_nil _
  | cons field fields ih =>
    simp only [inOrder, ends, bind, Except.bind] at h
    split_ifs at h with defaulted
    exact List.forall_mem_cons.mpr ⟨defaulted, ih h⟩

/-- Where a field is still to come that may not be missing, the next item is there. -/
theorem inOrder_cons_iff {field : Field α} {fields : List (Field α)} {index : Nat}
    (some : ∃ f ∈ field :: fields, f.presence ≠ .defaulted) :
    shape.inOrder (field :: fields) index first draft cs = .ok (a, mid) ↔
      ∃ start change rest, nextItem first cs = .ok (.some start) ∧
        field.change start = .ok (change, rest) ∧
        shape.inOrder fields (index + 1) false (change draft) rest = .ok (a, mid) := by
  constructor
  · intro h
    obtain ⟨item, start, next⟩ := bind_eq_ok_iff.mp h
    cases item with
    | none =>
      obtain ⟨f, among, notDefaulted⟩ := some
      exact absurd (defaulted_of_inOrder h start f among) notDefaulted
    | some item =>
      obtain ⟨⟨change, rest⟩, read, others⟩ := bind_eq_ok_iff.mp next
      exact ⟨item, change, rest, start, read, others⟩
  · rintro ⟨item, change, rest, start, read, others⟩
    simp only [inOrder, start, read, others, bind, Except.bind]

/-- A record is read from an object, or from a list with its fields in order. -/
theorem record_eq_ok_iff :
    record shape cs = .ok (a, after) ↔
      (∃ inside, Marks '{' cs inside ∧ insideObject shape.complete inside = .ok (a, after)) ∨
        ∃ inside, Marks '[' cs inside ∧
          insideList (shape.inOrder shape.fields 0 true shape.draft) inside = .ok (a, after) := by
  constructor
  · intro read
    obtain ⟨start, starts, h⟩ := bind_eq_ok_iff.mp read
    obtain ⟨c, rest, rfl, marks⟩ := marks_of_valueStart starts
    split at h
    · rename_i inside same
      obtain ⟨rfl, rfl⟩ := List.cons.inj same
      exact .inr ⟨rest, marks, h⟩
    · rename_i inside same
      obtain ⟨rfl, rfl⟩ := List.cons.inj same
      exact .inl ⟨rest, marks, h⟩
    · exact absurd h (wrongType_ne_ok _ _ _)
  · rintro (⟨inside, marks, h⟩ | ⟨inside, marks, h⟩)
    · simpa only [record, valueStart_of_marks marks rfl, bind, Except.bind] using h
    · simpa only [record, valueStart_of_marks marks rfl, bind, Except.bind] using h

end RecordShape

end Record

end QuoteGateway.Json
