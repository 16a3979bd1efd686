import QuoteGateway.Proofs.Settings.Overlay
import QuoteGateway.Settings.Decoder

/-!
# Fields with a place of their own

A field that alone fills its place in a section can be decoded apart from the others: the order of
the members does not matter, and a tree with one field more is decoded to the same section with
that one place filled.
-/

namespace QuoteGateway.Settings

theorem Field.keeps_of {α β γ : Type} {get : α → β} {put : β → α → α} (name : String)
    (d : Decoder γ) {set : γ → α → α} (get_set : ∀ c a, get (set c a) = get a)
    (set_put : ∀ c b a, set c (put b a) = put b (set c a)) (tree : Tree) (change : α → α)
    (changed : (Field.of name d set).change.tree tree = .ok change) (a : α) :
    get (change a) = get a ∧ ∀ b, change (put b a) = put b (change a) := by
  obtain ⟨c, rfl⟩ : ∃ c, change = set c := by
    change (d.tree tree).map set = .ok change at changed
    cases read : d.tree tree with
    | error misfit =>
      rw [read] at changed
      cases changed
    | ok c =>
      rw [read] at changed
      exact ⟨c, (Except.ok.inj changed).symm⟩
  exact ⟨get_set c a, fun b => set_put c b a⟩

/-- A field of a section with a place of its own, which no other field changes or looks at. -/
structure Slot {α : Type} (s : Section α) (β : Type) where
  name : String
  decoder : Decoder β
  get : α → β
  put : β → α → α
  find : s.fields.find? (·.name == name) = some (.of name decoder put) := by rfl
  get_put : ∀ b a, get (put b a) = b := by intros; rfl
  put_put : ∀ b c a, put b (put c a) = put b a := by intros; rfl
  others : ∀ field ∈ s.fields, field.name ≠ name →
    ∀ tree change, field.change.tree tree = .ok change →
      ∀ a, get (change a) = get a ∧ ∀ b, change (put b a) = put b (change a) := by
    -- One goal for each field of the section, of which one has the name.
    repeat' refine List.forall_mem_cons.mpr ⟨?_, ?_⟩
    all_goals first
      | exact fun differs => absurd rfl differs
      | exact fun _ => Field.keeps_of _ _ (fun _ _ => rfl) fun _ _ _ => rfl
      | exact List.forall_mem_nil _

def Section.Open {α : Type} (s : Section α) : Prop :=
  ∀ field ∈ s.fields, field.presence = .defaulted

section Slot

variable {α β γ : Type} {s : Section α} (slot : Slot s β)

/-- The step of a member of another name: a misfit, or a change of the draft that leaves the slot
alone. -/
theorem Slot.applyMembers_cons {name : String} (h : name ≠ slot.name) (tree : Tree) :
    (∃ misfit, ∀ rows draft, s.applyMembers ((name, tree) :: rows) draft = .error misfit) ∨
      ∃ change : α → α,
        (∀ rows draft, s.applyMembers ((name, tree) :: rows) draft =
          s.applyMembers rows (change draft)) ∧
        ∀ a, slot.get (change a) = slot.get a ∧
          ∀ b, change (slot.put b a) = slot.put b (change a) := by
  cases found : s.fields.find? (·.name == name) with
  | none =>
    refine .inr ⟨id, fun rows draft => ?_, fun a => ⟨rfl, fun b => rfl⟩⟩
    simp only [Section.applyMembers, found, id]
  | some field =>
    have member := List.mem_of_find?_eq_some found
    have named : field.name = name := by simpa using List.find?_some found
    cases changed : field.change.tree tree with
    | error misfit =>
      refine .inl ⟨misfit.under name, fun rows draft => ?_⟩
      simp only [Section.applyMembers, found, changed]
      rfl
    | ok change =>
      refine .inr ⟨change, fun rows draft => ?_,
        slot.others field member (named ▸ h) tree change changed⟩
      simp only [Section.applyMembers, found, changed]
      rfl

theorem Slot.applyMembers_self (tree : Tree) (rows : List (String × Tree)) (draft : α) :
    s.applyMembers ((slot.name, tree) :: rows) draft =
      match slot.decoder.tree tree with
      | .error misfit => .error (misfit.under slot.name)
      | .ok b => s.applyMembers rows (slot.put b draft) := by
  simp only [Section.applyMembers, slot.find, Field.of, Decoder.map]
  cases slot.decoder.tree tree <;> rfl

/-- Members of other names leave the slot as it is, and do not care what it holds. -/
theorem Slot.applyMembers_put {rows : List (String × Tree)}
    (absent : slot.name ∉ rows.map Prod.fst) (b : β) (draft : α) :
    s.applyMembers rows (slot.put b draft) = (s.applyMembers rows draft).map (slot.put b) := by
  induction rows generalizing draft with
  | nil => rfl
  | cons row rows ih =>
    obtain ⟨name, tree⟩ := row
    simp only [List.map_cons, List.mem_cons, not_or] at absent
    obtain ⟨misfit, fails⟩ | ⟨change, step, own⟩ := slot.applyMembers_cons (Ne.symm absent.1) tree
    · rw [fails, fails]
      rfl
    · rw [step, step, (own draft).2, ih absent.2]

theorem Slot.get_of_applyMembers {rows : List (String × Tree)}
    (absent : slot.name ∉ rows.map Prod.fst) {draft a : α}
    (applied : s.applyMembers rows draft = .ok a) : slot.get a = slot.get draft := by
  induction rows generalizing draft with
  | nil => rw [Except.ok.inj applied]
  | cons row rows ih =>
    obtain ⟨name, tree⟩ := row
    simp only [List.map_cons, List.mem_cons, not_or] at absent
    obtain ⟨misfit, fails⟩ | ⟨change, step, own⟩ := slot.applyMembers_cons (Ne.symm absent.1) tree
    · rw [fails] at applied
      cases applied
    · rw [step] at applied
      rw [ih absent.2 applied, (own draft).1]

/-- What a member of the slot's name, if there is one, makes of a section. -/
def Slot.Reads (held : Option Tree) (rest a : α) : Prop :=
  match held with
  | none => a = rest
  | some tree => ∃ b, slot.decoder.tree tree = .ok b ∧ a = slot.put b rest

/-- Where every name occurs once, the members can be applied without the slot's and that one
last. -/
theorem Slot.applyMembers_iff {t : Table Tree} (nodup : t.keys.Nodup) {draft a : α} :
    s.applyMembers t.rows draft = .ok a ↔
      ∃ rest, s.applyMembers (t.erase slot.name).rows draft = .ok rest ∧
        slot.Reads (t.get? slot.name) rest a := by
  obtain ⟨rows⟩ := t
  induction rows generalizing draft with
  | nil => simp [Table.erase, Table.get?, Section.applyMembers, Slot.Reads, eq_comm]
  | cons row rows ih =>
    obtain ⟨name, tree⟩ := row
    simp only [Table.keys, List.map_cons, List.nodup_cons] at nodup
    by_cases same : name = slot.name
    · subst same
      have erased : (⟨(slot.name, tree) :: rows⟩ : Table Tree).erase slot.name = ⟨rows⟩ := by
        rw [← Table.erase_of_notMem (t := ⟨rows⟩) nodup.1]
        simp [Table.erase]
      have held : (⟨(slot.name, tree) :: rows⟩ : Table Tree).get? slot.name = some tree := by
        simp [Table.get?]
      rw [slot.applyMembers_self, erased, held]
      cases read : slot.decoder.tree tree with
      | error misfit => simp [Slot.Reads, read]
      | ok b =>
        -- What the slot holds is moved past the later members, which have other names.
        simp only [Slot.Reads, read, slot.applyMembers_put nodup.1]
        cases s.applyMembers rows draft <;> simp [Except.map, eq_comm]
    · have erased : (⟨(name, tree) :: rows⟩ : Table Tree).erase slot.name =
          ⟨(name, tree) :: ((⟨rows⟩ : Table Tree).erase slot.name).rows⟩ := by
        simp [Table.erase, same]
      have held : (⟨(name, tree) :: rows⟩ : Table Tree).get? slot.name =
          (⟨rows⟩ : Table Tree).get? slot.name := by
        have differs : (slot.name == name) = false := beq_eq_false_iff_ne.mpr (Ne.symm same)
        simp only [Table.get?, List.lookup_cons, differs]
      rw [erased, held]
      obtain ⟨misfit, fails⟩ | ⟨change, step, own⟩ := slot.applyMembers_cons same tree
      · simp [fails]
      · simp only [step]
        exact ih nodup.2

/-- A member of the slot's name is what the slot holds at last. -/
theorem Slot.reads_get {t : Table Tree} (nodup : t.keys.Nodup) {tree : Tree}
    (held : t.get? slot.name = some tree) {draft a : α}
    (applied : s.applyMembers t.rows draft = .ok a) :
    slot.decoder.tree tree = .ok (slot.get a) := by
  obtain ⟨rest, -, reads⟩ := (slot.applyMembers_iff nodup).mp applied
  rw [held] at reads
  obtain ⟨b, decoded, rfl⟩ := reads
  rw [slot.get_put, decoded]

theorem Slot.get_of_missing {t : Table Tree} (nodup : t.keys.Nodup)
    (missing : t.get? slot.name = none) {draft a : α}
    (applied : s.applyMembers t.rows draft = .ok a) : slot.get a = slot.get draft := by
  obtain ⟨rest, earlier, reads⟩ := (slot.applyMembers_iff nodup).mp applied
  rw [missing] at reads
  obtain rfl : a = rest := reads
  exact slot.get_of_applyMembers (Table.notMem_keys_erase _ _) earlier

/-- Members apply if each of them that is a field can be decoded. -/
theorem Section.applyMembers_ok {rows : List (String × Tree)}
    (legible : ∀ row ∈ rows, ∀ field, s.fields.find? (·.name == row.1) = some field →
      ∃ change, field.change.tree row.2 = .ok change) (draft : α) :
    ∃ a, s.applyMembers rows draft = .ok a := by
  induction rows generalizing draft with
  | nil => exact ⟨draft, rfl⟩
  | cons row rows ih =>
    obtain ⟨name, tree⟩ := row
    have rest := ih fun row member => legible row (List.mem_cons_of_mem _ member)
    cases found : s.fields.find? (·.name == name) with
    | none =>
      obtain ⟨a, applied⟩ := rest draft
      exact ⟨a, by simp only [Section.applyMembers, found, applied]⟩
    | some field =>
      obtain ⟨change, changed⟩ := legible (name, tree) List.mem_cons_self field found
      obtain ⟨a, applied⟩ := rest (change draft)
      refine ⟨a, ?_⟩
      simp only [Section.applyMembers, found, changed, Except.mapError, bind, Except.bind, applied]

theorem Section.tree_of_isTable (defaulted : s.Open) {tree : Tree} (table : tree.IsTable) :
    s.decoder.tree tree = s.applyMembers tree.asTable.rows s.draft := by
  cases tree with
  | leaf origin value => cases table
  | list origin items => cases table
  | table origin members =>
    have missing : (s.fields.find? fun field =>
        field.presence == .required && !members.any (·.1 == field.name)) = none := by
      rw [List.find?_eq_none]
      intro field member
      simp [defaulted field member]
    change s.ofMembers members = s.applyMembers members s.draft
    rw [Section.ofMembers, missing]
    cases s.applyMembers members s.draft <;> rfl

theorem Slot.tree_of_agree (defaulted : s.Open) {tree tree' value : Tree}
    (agree : tree.Agree slot.name (fun held held' => held = none ∧ held' = some value) tree')
    {b : β} (reads : slot.decoder.tree value = .ok b) {a : α}
    (decoded : s.decoder.tree tree = .ok a) : s.decoder.tree tree' = .ok (slot.put b a) := by
  obtain ⟨isTable, isTable', differ⟩ := agree
  obtain ⟨missing, held⟩ := differ.related
  rw [s.tree_of_isTable defaulted isTable, slot.applyMembers_iff differ.nodup, missing] at decoded
  obtain ⟨rest, applied, rfl⟩ := decoded
  rw [s.tree_of_isTable defaulted isTable', slot.applyMembers_iff differ.nodup', held,
    ← differ.others]
  exact ⟨a, applied, b, reads, rfl⟩

/-- A section that is missing is decoded like an empty one. -/
theorem Slot.reads_getD {u : Section β} (innerDefaulted : u.Open)
    (decoder : slot.decoder = u.decoder) {old : Option Tree} {rest a : α}
    (draft : slot.get rest = u.draft) (reads : slot.Reads old rest a) :
    u.decoder.tree (old.getD .emptyTable) = .ok (slot.get a) ∧
      ∀ b, slot.put b a = slot.put b rest := by
  cases old with
  | none =>
    obtain rfl : a = rest := reads
    refine ⟨?_, fun b => rfl⟩
    have empty : Tree.emptyTable.IsTable := trivial
    rw [Option.getD_none, u.tree_of_isTable innerDefaulted empty, draft]
    rfl
  | some tree =>
    obtain ⟨b, decoded, rfl⟩ := reads
    rw [slot.get_put, ← decoder]
    exact ⟨decoded, fun c => slot.put_put c b rest⟩

theorem Slot.tree_of_beside {u : Section β} (inner : Slot u γ) (defaulted : s.Open)
    (innerDefaulted : u.Open) (decoder : slot.decoder = u.decoder)
    (draft : slot.get s.draft = u.draft) {tree tree' value : Tree}
    (beside : Beside slot.name inner.name (some value) tree tree') {c : γ}
    (reads : inner.decoder.tree value = .ok c) {a : α} (decoded : s.decoder.tree tree = .ok a) :
    s.decoder.tree tree' = .ok (slot.put (inner.put c (slot.get a)) a) := by
  obtain ⟨isTable, isTable', differ⟩ := beside
  rw [s.tree_of_isTable defaulted isTable, slot.applyMembers_iff differ.nodup] at decoded
  obtain ⟨rest, applied, old⟩ := decoded
  have untouched : slot.get rest = u.draft :=
    (slot.get_of_applyMembers (Table.notMem_keys_erase _ _) applied).trans draft
  obtain ⟨section₁, same⟩ := slot.reads_getD innerDefaulted decoder untouched old
  have section₂ := inner.tree_of_agree innerDefaulted differ.related reads section₁
  obtain ⟨t, held⟩ : ∃ t, tree'.asTable.get? slot.name = some t := by
    cases held : tree'.asTable.get? slot.name with
    | some t => exact ⟨t, rfl⟩
    | none =>
      have filled := differ.related.differ.related.2
      rw [held] at filled
      cases filled
  rw [held, Option.getD_some, ← decoder] at section₂
  rw [s.tree_of_isTable defaulted isTable', slot.applyMembers_iff differ.nodup', held,
    ← differ.others]
  exact ⟨rest, applied, _, section₂, same _⟩

end Slot

end QuoteGateway.Settings
