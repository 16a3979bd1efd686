import QuoteGateway.Proofs.Settings.Overlay

/-!
# What layers define

A layer gives a value to a field of a section inside the table of the section or at the path of the
field. Where it does so once at most and otherwise leaves the field alone, its value takes the place
of an earlier one.
-/

namespace QuoteGateway.Settings

def valuesOf (field : String) : List (String × Tree) → List Tree
  | [] => []
  | (name, value) :: members =>
    if Text.lowercase name = field then value :: valuesOf field members
    else valuesOf field members

/-- The values that an entry of a layer gives to a field of a section. -/
def definitions (part field : String) (entry : String × Tree) : List Tree :=
  match pathOf entry.1 with
  | (.member name, []) =>
    if Text.lowercase name = part then valuesOf field entry.2.members else []
  | (.member name, [.member inner]) =>
    if name = part ∧ Text.lowercase inner = field then [entry.2] else []
  | _ => []

/-- An entry of a layer leaves a field alone, or gives it a value. -/
def Regular (part field : String) (entry : String × Tree) : Prop :=
  Apart part field entry ∨ definitions part field entry ≠ []

/-- A layer gives a field a single value at most, which is no table. -/
structure GivesOnce (part field : String) (layer : List (String × Tree)) : Prop where
  regular : ∀ entry ∈ layer, Regular part field entry
  once : (layer.flatMap (definitions part field)).length ≤ 1
  plain : ∀ value ∈ layer.flatMap (definitions part field), ¬value.IsTable

instance (part field : String) (entry : String × Tree) : Decidable (Regular part field entry) :=
  inferInstanceAs (Decidable (_ ∨ _))

instance : (tree : Tree) → Decidable tree.IsTable
  | .leaf .. => .isFalse id
  | .list .. => .isFalse id
  | .table .. => .isTrue trivial

instance (part field : String) (layer : List (String × Tree)) :
    Decidable (GivesOnce part field layer) :=
  decidable_of_iff
    ((∀ entry ∈ layer, Regular part field entry) ∧
      (layer.flatMap (definitions part field)).length ≤ 1 ∧
        ∀ value ∈ layer.flatMap (definitions part field), ¬value.IsTable)
    ⟨fun ⟨regular, once, plain⟩ => ⟨regular, once, plain⟩,
      fun gives => ⟨gives.regular, gives.once, gives.plain⟩⟩

/-- A field of a section has this value in a tree, or is missing there. -/
def Holds (part field : String) (value : Option Tree) (tree : Tree) : Prop :=
  AgreeInside part field (fun held _ => held = value) tree tree

theorem holds_empty (part field : String) : Holds part field none .emptyTable := by
  have nodup : Tree.emptyTable.asTable.keys.Nodup := List.nodup_nil
  exact ⟨trivial, trivial, rfl, nodup, nodup, trivial, trivial, rfl, nodup, nodup, rfl⟩

theorem Tree.laid_of_not_isTable {value : Tree} (plain : ¬value.IsTable) (old : Option Tree) :
    laid value old = value := by
  cases value with
  | leaf origin value => rfl
  | list origin items => rfl
  | table origin members => exact absurd trivial plain

theorem valuesOf_eq_nil_iff {field : String} {members : List (String × Tree)} :
    valuesOf field members = [] ↔ ∀ member ∈ members, Text.lowercase member.1 ≠ field := by
  induction members with
  | nil => simp [valuesOf]
  | cons member members ih =>
    obtain ⟨name, value⟩ := member
    unfold valuesOf
    split_ifs with about
    · simp [about]
    · simp [about, ih]

theorem Tree.Agree.overlayMembers_once {field : String} {value : Option Tree}
    {members : List (String × Tree)} (once : (valuesOf field members).length ≤ 1)
    (plain : ∀ given ∈ valuesOf field members, ¬given.IsTable) {t : Tree}
    (agree : Tree.Agree field (fun held _ => held = value) t t) :
    Tree.Agree field (fun held _ => held = (valuesOf field members).head?.or value)
      (Tree.overlayMembers members t) (Tree.overlayMembers members t) := by
  induction members generalizing t value with
  | nil =>
    simp only [Tree.overlayMembers]
    exact agree
  | cons member members ih =>
    obtain ⟨name, given⟩ := member
    simp only [Tree.overlayMembers, overlay_eq_overlayAt]
    unfold valuesOf at once plain ⊢
    split_ifs at once plain ⊢ with about
    · have apart := valuesOf_eq_nil_iff.mp (List.eq_nil_of_length_eq_zero (Nat.le_zero.mp
        (Nat.le_of_succ_le_succ once)))
      have laid := Tree.laid_of_not_isTable (plain given List.mem_cons_self) (t.member? field)
      have filled : Tree.Agree field (fun held _ => held = some given)
          (Tree.overlayAt given (.member name) [] t) (Tree.overlayAt given (.member name) [] t) :=
        agree.overlayAt_self (show Tree.target name [] = field from about) (congrArg some laid)
      exact filled.overlayMembers apart
    · have passed : Tree.Agree field (fun held _ => held = value)
          (Tree.overlayAt given (.member name) [] t) (Tree.overlayAt given (.member name) [] t) :=
        agree.overlayAt_of_ne (show Tree.target name [] ≠ field from about) given
      exact ih once plain passed

section Entries

variable {part field : String} {value : Option Tree} {tree : Tree} {entry : String × Tree}

theorem definitions_of_apart (apart : Apart part field entry) :
    definitions part field entry = [] := by
  unfold Apart at apart
  unfold definitions
  split
  · rename_i name path
    rw [path] at apart
    split_ifs with about
    · have spares := apart about
      cases incoming : entry.2 with
      | leaf origin leaf => rfl
      | list origin items => rfl
      | table origin members =>
        rw [incoming] at spares
        exact valuesOf_eq_nil_iff.mpr spares
    · rfl
  · rename_i name inner path
    rw [path] at apart
    rw [if_neg]
    rintro ⟨same, about⟩
    exact apart same about
  · rfl

/-- An entry puts the value that it gives to the field in place of an earlier one. -/
theorem Holds.overlayAt (regular : Regular part field entry)
    (once : (definitions part field entry).length ≤ 1)
    (plain : ∀ given ∈ definitions part field entry, ¬given.IsTable)
    (holds : Holds part field value tree) :
    Holds part field ((definitions part field entry).head?.or value)
      (Tree.overlayAt entry.2 (pathOf entry.1).1 (pathOf entry.1).2 tree) := by
  rcases regular with apart | gives
  · rw [definitions_of_apart apart]
    exact AgreeInside.overlayAt apart holds
  obtain ⟨name, given⟩ := entry
  unfold definitions at *
  split at gives
  · rename_i outer path
    simp only [path] at *
    split_ifs at * with about
    · cases given with
      | leaf origin leaf => exact absurd rfl gives
      | list origin items => exact absurd rfl gives
      | table origin members =>
        refine Tree.Agree.overlayAt_self holds (show Tree.target outer [] = part from about) ?_
        exact holds.differ.related.overlayMembers_once once plain
    · exact absurd rfl gives
  · rename_i outer inner path
    simp only [path] at *
    split_ifs at * with about
    · obtain ⟨same, small⟩ := about
      have inside : Tree.target outer [.member inner] = part := same
      have field : Tree.target inner [] = field := small
      refine Tree.Agree.overlayAt_self holds inside ?_
      simp only [Tree.laidAt, Tree.overlayAt_getD]
      exact holds.differ.related.overlayAt_self field
        (congrArg some (Tree.laid_of_not_isTable (plain given List.mem_cons_self) _))
    · exact absurd rfl gives
  · exact absurd rfl gives

end Entries

/-- A layer puts the value that it gives to the field in place of an earlier one. -/
theorem Holds.overlayLayer {part field : String} {layer : List (String × Tree)}
    (gives : GivesOnce part field layer) {value : Option Tree} {tree : Tree}
    (holds : Holds part field value tree) :
    Holds part field ((layer.flatMap (definitions part field)).head?.or value)
      (overlayLayer layer tree) := by
  obtain ⟨regular, once, plain⟩ := gives
  induction layer generalizing value tree with
  | nil => exact holds
  | cons entry layer ih =>
    rw [List.flatMap_cons] at once plain ⊢
    rw [List.length_append] at once
    have first := holds.overlayAt (regular entry List.mem_cons_self)
      (Nat.le_trans (Nat.le_add_right _ _) once)
      fun given member => plain given (List.mem_append_left _ member)
    have rest := ih first (fun later member => regular later (List.mem_cons_of_mem entry member))
      (Nat.le_trans (Nat.le_add_left _ _) once)
      fun given member => plain given (List.mem_append_right _ member)
    -- Only one of the two gives a value.
    cases here : definitions part field entry with
    | nil =>
      rw [here] at rest
      exact rest
    | cons given others =>
      rw [here, List.length_cons] at once
      have silent : layer.flatMap (definitions part field) = [] :=
        List.eq_nil_of_length_eq_zero (by omega)
      rw [here, silent] at rest
      rw [silent]
      exact rest

end QuoteGateway.Settings
