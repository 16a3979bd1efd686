import QuoteGateway.Feed
import QuoteGateway.Proofs.Json.Objects

/-!
# Bodies of replies

What the text of a body says, apart from how it is decoded: the members of an object in any order,
or the items of a list. The results are a dictionary of numbers and may be missing from an object,
the stamp is a text and may not. The base is a text that does not count, and members with other
names are stepped over.
-/

namespace QuoteGateway.Feed

open Json (Marks Quotes Members ReadBy)
open Number (Binary64)

/-- A dictionary of numbers comes next. -/
def Results (cs : List Char) (results : List (String × Binary64)) (rest : List Char) : Prop :=
  ∃ inside, Marks '{' cs inside ∧ Members (ReadBy Json.real) true inside results rest

theorem Results.of_skipBlanks {cs rest : List Char} {results : List (String × Binary64)}
    (h : Results (Json.skipBlanks cs) results rest) : Results cs results rest := by
  obtain ⟨inside, brace, among⟩ := h
  exact ⟨inside, brace.of_skipBlanks, among⟩

/-- What a member of a body says. -/
inductive Datum where
  | base (name : String)
  | results (results : List (String × Binary64))
  | updated (stamp : String)
  | other

def fieldNames : List String := ["base", "results", "updated"]

/-- The value of a member, by its name. -/
inductive Told : String → List Char → Datum → List Char → Prop
  | base {cs rest : List Char} {name : String} : Quotes cs name rest →
    Told "base" cs (.base name) rest
  | results {cs rest : List Char} {results : List (String × Binary64)} : Results cs results rest →
    Told "results" cs (.results results) rest
  | updated {cs rest : List Char} {stamp : String} : Quotes cs stamp rest →
    Told "updated" cs (.updated stamp) rest
  | other {name : String} {cs rest : List Char} : name ∉ fieldNames →
    Json.skipValue cs = .ok ((), rest) → Told name cs .other rest

/-- The members of an object make up a body. -/
structure MakeUp (rows : List (String × Datum)) (body : Body) : Prop where
  once : ((rows.map Prod.fst).filter (· ∈ fieldNames)).Nodup
  updated : ("updated", .updated body.updated) ∈ rows
  results : ("results", .results body.results) ∈ rows ∨
    "results" ∉ rows.map Prod.fst ∧ body.results = []

/-- A text is that of a body. -/
inductive Tells (cs : List Char) (body : Body) : Prop
  | object {inside after : List Char} {rows : List (String × Datum)} : Marks '{' cs inside →
    Members Told true inside rows after → MakeUp rows body →
    (∀ c ∈ after, Json.isBlank c = true) → Tells cs body
  | list {inside afterBase second afterResults third afterStamp after : List Char}
    {base : String} : Marks '[' cs inside → Quotes inside base afterBase →
    Marks ',' afterBase second → Results second body.results afterResults →
    Marks ',' afterResults third → Quotes third body.updated afterStamp →
    Marks ']' afterStamp after → (∀ c ∈ after, Json.isBlank c = true) → Tells cs body

def Datum.put : Datum → Body → Body
  | .base _, body | .other, body => body
  | .results all, body => { body with results := all }
  | .updated stamp, body => { body with updated := stamp }

theorem results_eq_ok_iff {cs rest : List Char} {results : List (String × Binary64)} :
    Json.dictionary Json.real cs = .ok (results, rest) ↔ Results cs results rest :=
  Json.dictionary_eq_ok_iff (Json.shortens_numberAs _ _)

theorem field_eq_ok_iff {α β : Type} {name : String} {presence : Json.Presence}
    {value : Json.Reader β} {put : β → α → α} {cs rest : List Char} {change : α → α} :
    (Json.Field.of name presence value put).change cs = .ok (change, rest) ↔
      ∃ b, value cs = .ok (b, rest) ∧ change = put b := by
  unfold Json.Field.of
  dsimp only
  rcases value cs with stop | ⟨b, left⟩
  · simp [Except.map]
  · simp only [Except.map, Except.ok.injEq, Prod.mk.injEq]
    constructor
    · rintro ⟨rfl, rfl⟩
      exact ⟨b, ⟨rfl, rfl⟩, rfl⟩
    · rintro ⟨_, ⟨rfl, rfl⟩, rfl⟩
      exact ⟨rfl, rfl⟩

theorem find?_shape_of_notMem {name : String} (h : name ∉ fieldNames) :
    Body.shape.fields.find? (·.name == name) = none := by
  simp only [fieldNames, List.mem_cons, List.not_mem_nil, or_false, not_or] at h
  simp [Body.shape, Json.Field.of, Ne.symm h.1, Ne.symm h.2.1, Ne.symm h.2.2]

theorem find?_shape_isSome (name : String) :
    (Body.shape.fields.find? (·.name == name)).isSome = decide (name ∈ fieldNames) := by
  by_cases h : name ∈ fieldNames
  · rw [decide_eq_true h]
    simp only [fieldNames, List.mem_cons, List.not_mem_nil, or_false] at h
    rcases h with rfl | rfl | rfl <;> rfl
  · rw [decide_eq_false h, find?_shape_of_notMem h]
    rfl

theorem changes_iff {name : String} {cs rest : List Char} {change : Body → Body} :
    Body.shape.Changes name cs change rest ↔ ∃ datum, change = Datum.put datum ∧
      Told name cs datum rest := by
  unfold Json.RecordShape.Changes
  constructor
  · intro h
    by_cases field : name ∈ fieldNames
    · simp only [fieldNames, List.mem_cons, List.not_mem_nil, or_false] at field
      rcases field with rfl | rfl | rfl
      · obtain ⟨base, read, rfl⟩ := field_eq_ok_iff.mp h
        exact ⟨.base base, rfl, .base (Json.text_eq_ok_iff.mp read)⟩
      · obtain ⟨results, read, rfl⟩ := field_eq_ok_iff.mp h
        exact ⟨.results results, rfl, .results (results_eq_ok_iff.mp read)⟩
      · obtain ⟨stamp, read, rfl⟩ := field_eq_ok_iff.mp h
        exact ⟨.updated stamp, rfl, .updated (Json.text_eq_ok_iff.mp read)⟩
    · rw [find?_shape_of_notMem field] at h
      exact ⟨.other, h.2, .other field h.1⟩
  · rintro ⟨datum, rfl, told⟩
    cases told with
    | base quotes => exact field_eq_ok_iff.mpr ⟨_, Json.text_eq_ok_iff.mpr quotes, rfl⟩
    | results all => exact field_eq_ok_iff.mpr ⟨_, results_eq_ok_iff.mpr all, rfl⟩
    | updated quotes => exact field_eq_ok_iff.mpr ⟨_, Json.text_eq_ok_iff.mpr quotes, rfl⟩
    | other unknown skipped =>
      rw [find?_shape_of_notMem unknown]
      exact ⟨skipped, rfl⟩

section Fold

variable {γ : Type} {get : Body → γ} {field : String} {datum : γ → Datum}
  {rows : List (String × Datum)}

def putAll (rows : List (String × Datum)) (draft : Body) : Body :=
  rows.foldl (fun body row => row.2.put body) draft

/-- One part of a body is put by the members of one name, and by no others. -/
structure PutBy (get : Body → γ) (field : String) (datum : γ → Datum) : Prop where
  counts : field ∈ fieldNames
  get_put : ∀ g body, get ((datum g).put body) = g
  exists_datum : ∀ name cs d rest, Told name cs d rest → name = field → ∃ g, d = datum g
  get_put_of_ne : ∀ name cs d rest body, Told name cs d rest → name ≠ field →
    get (d.put body) = get body

theorem putBy_updated : PutBy Body.updated "updated" .updated where
  counts := by decide
  get_put _ _ := rfl
  exists_datum := by
    rintro name cs d rest (_ | _ | _ | ⟨unknown, -⟩) same
    · exact absurd same (by decide)
    · exact absurd same (by decide)
    · exact ⟨_, rfl⟩
    · exact absurd (by rw [same]; decide) unknown
  get_put_of_ne := by
    rintro name cs d rest body (_ | _ | _ | _) other
    · rfl
    · rfl
    · exact absurd rfl other
    · rfl

theorem putBy_results : PutBy Body.results "results" .results where
  counts := by decide
  get_put _ _ := rfl
  exists_datum := by
    rintro name cs d rest (_ | _ | _ | ⟨unknown, -⟩) same
    · exact absurd same (by decide)
    · exact ⟨_, rfl⟩
    · exact absurd same (by decide)
    · exact absurd (by rw [same]; decide) unknown
  get_put_of_ne := by
    rintro name cs d rest body (_ | _ | _ | _) other
    · rfl
    · exact absurd rfl other
    · rfl
    · rfl

variable (told : ∀ row ∈ rows, ∃ cs rest, Told row.1 cs row.2 rest)
include told

theorem PutBy.get_of_absent (put : PutBy get field datum) (absent : field ∉ rows.map Prod.fst)
    (draft : Body) : get (putAll rows draft) = get draft := by
  induction rows generalizing draft with
  | nil => rfl
  | cons row rows ih =>
    obtain ⟨⟨cs, rest, here⟩, others⟩ := List.forall_mem_cons.mp told
    rw [List.map_cons, List.mem_cons, not_or] at absent
    exact (ih others absent.2 _).trans (put.get_put_of_ne _ _ _ _ _ here (Ne.symm absent.1))

theorem PutBy.get_of_mem (put : PutBy get field datum)
    (once : ((rows.map Prod.fst).filter (· ∈ fieldNames)).Nodup) {g : γ}
    (member : (field, datum g) ∈ rows) (draft : Body) : get (putAll rows draft) = g := by
  induction rows generalizing draft with
  | nil => cases member
  | cons row rows ih =>
    obtain ⟨-, others⟩ := List.forall_mem_cons.mp told
    rw [List.map_cons] at once
    rcases List.mem_cons.mp member with rfl | later
    · have counts : decide (field ∈ fieldNames) = true := decide_eq_true put.counts
      simp only [List.filter_cons, counts, if_true, List.nodup_cons, List.mem_filter, and_true]
        at once
      exact (put.get_of_absent others once.1 _).trans (put.get_put g draft)
    · exact ih others (once.sublist ((List.sublist_cons_self _ _).filter _)) later _

/-- If there is a member for a part of a body, the members put what it is told. -/
theorem PutBy.mem_of_name (put : PutBy get field datum)
    (once : ((rows.map Prod.fst).filter (· ∈ fieldNames)).Nodup)
    (present : field ∈ rows.map Prod.fst) (draft : Body) :
    (field, datum (get (putAll rows draft))) ∈ rows := by
  obtain ⟨⟨_, d⟩, member, rfl⟩ := List.mem_map.mp present
  obtain ⟨cs, rest, here⟩ := told _ member
  obtain ⟨g, rfl⟩ := put.exists_datum _ _ _ _ here rfl
  rwa [put.get_of_mem told once member]

/-- The members make up the body that they lead to, provided that there is a stamp. -/
theorem makeUp_iff (body : Body) :
    MakeUp rows body ↔ ((rows.map Prod.fst).filter (· ∈ fieldNames)).Nodup ∧
      "updated" ∈ rows.map Prod.fst ∧ putAll rows Body.shape.draft = body := by
  constructor
  · rintro ⟨once, updated, results⟩
    refine ⟨once, List.mem_map_of_mem updated, ?_⟩
    have stamp := putBy_updated.get_of_mem told once updated Body.shape.draft
    have all : (putAll rows Body.shape.draft).results = body.results := by
      rcases results with member | ⟨absent, none⟩
      · exact putBy_results.get_of_mem told once member _
      · exact (putBy_results.get_of_absent told absent _).trans none.symm
    cases body
    exact congrArg₂ Body.mk all stamp
  · rintro ⟨once, present, rfl⟩
    refine ⟨once, putBy_updated.mem_of_name told once present _, ?_⟩
    by_cases given : "results" ∈ rows.map Prod.fst
    · exact .inl (putBy_results.mem_of_name told once given _)
    · exact .inr ⟨given, putBy_results.get_of_absent told given _⟩

end Fold

variable {cs after : List Char} {body : Body}

theorem length_le_of_told {name : String} {rest : List Char} {datum : Datum}
    (told : Told name cs datum rest) : rest.length ≤ cs.length := by
  cases told with
  | base quotes => exact Json.shortens_text _ _ (Json.text_eq_ok_iff.mpr quotes)
  | results all =>
    exact Json.shortens_dictionary (Json.shortens_numberAs _ _) _ _ (results_eq_ok_iff.mpr all)
  | updated quotes => exact Json.shortens_text _ _ (Json.text_eq_ok_iff.mpr quotes)
  | other unknown skipped => exact Json.shortens_skipValue _ _ skipped

theorem length_le_of_changes (name : String) (cs : List Char) (change : Body → Body)
    (rest : List Char) (h : Body.shape.Changes name cs change rest) : rest.length ≤ cs.length := by
  obtain ⟨datum, -, told⟩ := changes_iff.mp h
  exact length_le_of_told told

theorem known_eq {ρ : Type} (rows : List (String × ρ)) :
    Body.shape.known rows = (rows.map Prod.fst).filter (· ∈ fieldNames) :=
  List.filter_congr fun name _ => find?_shape_isSome name

theorem insideObject_iff :
    Json.insideObject Body.shape.complete cs = .ok (body, after) ↔
      ∃ rows, Members Told true cs rows after ∧ MakeUp rows body := by
  rw [Json.RecordShape.insideObject_complete_iff length_le_of_changes]
  have required (names : List String) : (∀ field ∈ Body.shape.fields,
      field.presence = .required → field.name ∈ names) ↔ "updated" ∈ names := by
    simp [Body.shape, Json.Field.of]
  have changed (rows : List (String × Datum)) :
      (rows.map fun row => (row.1, row.2.put)).foldl (fun a row => row.2 a) Body.shape.draft =
        putAll rows Body.shape.draft := List.foldl_map
  have names (rows : List (String × Datum)) :
      (rows.map fun row => (row.1, row.2.put)).map Prod.fst = rows.map Prod.fst := by
    rw [List.map_map]
    rfl
  constructor
  · rintro ⟨changes, among, once, stamp, folded⟩
    obtain ⟨rows, rfl, told⟩ : ∃ rows : List (String × Datum),
        changes = rows.map (fun row => (row.1, row.2.put)) ∧ Members Told true cs rows after :=
      among.exists_map fun name cs change rest h => changes_iff.mp h
    rw [known_eq, names] at once
    rw [required, names] at stamp
    exact ⟨rows, told, (makeUp_iff told.forall_mem body).mpr ⟨once, stamp, (changed rows) ▸ folded⟩⟩
  · rintro ⟨rows, told, makeUp⟩
    obtain ⟨once, stamp, folded⟩ := (makeUp_iff told.forall_mem body).mp makeUp
    refine ⟨_, told.map fun name cs datum rest told => changes_iff.mpr ⟨datum, rfl, told⟩, ?_, ?_,
      (changed rows).trans folded⟩
    · rwa [known_eq, names]
    · rwa [required, names]

/-- The inside of a list is decoded item by item. The stamp comes last, so none can be missing. -/
theorem insideList_iff :
    Json.insideList (Body.shape.inOrder Body.shape.fields 0 true Body.shape.draft) cs =
        .ok (body, after) ↔
      ∃ base afterBase second afterResults third afterStamp, Quotes cs base afterBase ∧
        Marks ',' afterBase second ∧ Results second body.results afterResults ∧
        Marks ',' afterResults third ∧ Quotes third body.updated afterStamp ∧
        Marks ']' afterStamp after := by
  have stamp : ∀ fields : List (Json.Field Body), ∃ f ∈ fields ++ [.of "updated" .required Json.text
      fun updated draft => { draft with updated }], f.presence ≠ .defaulted :=
    fun fields => ⟨_, List.mem_append_right _ (List.mem_singleton_self _), nofun⟩
  rw [Json.insideList_eq_ok_iff]
  constructor
  · rintro ⟨mid, read, close⟩
    obtain ⟨item, change, afterBase, start, base, read⟩ :=
      (Json.RecordShape.inOrder_cons_iff (stamp [_, _])).mp read
    obtain ⟨item', change', afterResults, start', results, read⟩ :=
      (Json.RecordShape.inOrder_cons_iff (stamp [_])).mp read
    obtain ⟨item'', change'', afterStamp, start'', updated, read⟩ :=
      (Json.RecordShape.inOrder_cons_iff (stamp [])).mp read
    obtain ⟨name, named, rfl⟩ := field_eq_ok_iff.mp base
    obtain ⟨all, listed, rfl⟩ := field_eq_ok_iff.mp results
    obtain ⟨written, stamped, rfl⟩ := field_eq_ok_iff.mp updated
    obtain rfl := Json.eq_skipBlanks_of_nextItem start
    obtain ⟨second, comma, rfl⟩ := Json.marks_comma_of_nextItem start'
    obtain ⟨third, comma', rfl⟩ := Json.marks_comma_of_nextItem start''
    obtain ⟨rfl, rfl⟩ := Prod.mk.inj (Except.ok.inj read)
    exact ⟨name, afterBase, second, afterResults, third, _,
      (Json.text_eq_ok_iff.mp named).of_skipBlanks, comma,
      (results_eq_ok_iff.mp listed).of_skipBlanks, comma',
      (Json.text_eq_ok_iff.mp stamped).of_skipBlanks, close⟩
  · rintro ⟨base, afterBase, second, afterResults, third, afterStamp, ⟨spelled, quote, spells⟩,
      comma, ⟨inside, brace, among⟩, comma', ⟨spelled', quote', spells'⟩, close⟩
    refine ⟨afterStamp, ?_, close⟩
    refine (Json.RecordShape.inOrder_cons_iff (stamp [_, _])).mpr ⟨_, _, afterBase,
      Json.nextItem_first_of_marks quote rfl (by decide), field_eq_ok_iff.mpr
      ⟨base, Json.text_eq_ok_iff.mpr ⟨spelled, Json.marks_self _ _, spells⟩, rfl⟩, ?_⟩
    refine (Json.RecordShape.inOrder_cons_iff (stamp [_])).mpr ⟨_, _, afterResults,
      Json.nextItem_next_of_marks comma brace rfl (by decide), field_eq_ok_iff.mpr
      ⟨body.results, results_eq_ok_iff.mpr ⟨inside, Json.marks_self _ _, among⟩, rfl⟩, ?_⟩
    refine (Json.RecordShape.inOrder_cons_iff (stamp [])).mpr ⟨_, _, afterStamp,
      Json.nextItem_next_of_marks comma' quote' rfl (by decide), field_eq_ok_iff.mpr
      ⟨body.updated, Json.text_eq_ok_iff.mpr ⟨spelled', Json.marks_self _ _, spells'⟩, rfl⟩, ?_⟩
    rfl

/-- A text is decoded as the body that it tells, and any other text is not decoded. -/
theorem readText_iff_tells (s : String) (body : Body) :
    Json.readText (Json.record Body.shape) s = .ok body ↔ Tells s.toList body := by
  rw [Json.readText_eq_ok_iff]
  constructor
  · rintro ⟨after, read, blank⟩
    rcases Json.RecordShape.record_eq_ok_iff.mp read with ⟨inside, brace, h⟩ | ⟨inside, bracket, h⟩
    · obtain ⟨rows, told, makeUp⟩ := insideObject_iff.mp h
      exact .object brace told makeUp blank
    · obtain ⟨_, _, _, _, _, _, base, comma, results, comma', updated, close⟩ := insideList_iff.mp h
      exact .list bracket base comma results comma' updated close blank
  · rintro (⟨brace, told, makeUp, blank⟩ |
      ⟨bracket, base, comma, results, comma', updated, close, blank⟩)
    · exact ⟨_, Json.RecordShape.record_eq_ok_iff.mpr
        (.inl ⟨_, brace, insideObject_iff.mpr ⟨_, told, makeUp⟩⟩), blank⟩
    · exact ⟨_, Json.RecordShape.record_eq_ok_iff.mpr (.inr ⟨_, bracket, insideList_iff.mpr
        ⟨_, _, _, _, _, _, base, comma, results, comma', updated, close⟩⟩), blank⟩

end QuoteGateway.Feed
