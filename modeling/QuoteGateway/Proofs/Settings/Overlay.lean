import QuoteGateway.Proofs.Table
import QuoteGateway.Settings.Layers

/-!
# Layers that leave a setting alone

A value that is laid over a tree changes the member that its path starts with, and no other. Two
trees that agree except in one field of one section therefore stay that way under every value that
is not about this field.
-/

namespace QuoteGateway.Settings

namespace Tree

def asTable (tree : Tree) : Table Tree := ⟨tree.members⟩

theorem put_eq_putRow (name : String) (value : Tree) (members : List (String × Tree)) :
    putMember.put name value members = Table.putRow name value members := by
  induction members with
  | nil => rfl
  | cons row rest ih => rw [putMember.put, Table.putRow, ih]

theorem asTable_putMember (tree : Tree) (name : String) (value : Tree) :
    (tree.putMember name value).asTable = tree.asTable.put name value :=
  congrArg Table.mk (put_eq_putRow name value tree.members)

def IsTable : Tree → Prop
  | .table .. => True
  | _ => False

/-- What becomes of a member when a value is laid over it. -/
def laid : (value : Tree) → (old : Option Tree) → Tree
  | .table _ incoming, old => overlayMembers incoming (old.getD emptyTable)
  | value, _ => value

theorem overlay_eq (name : String) (value tree : Tree) :
    overlay name value tree =
      tree.putMember (Text.lowercase name) (laid value (tree.member? (Text.lowercase name))) := by
  cases value <;> simp only [overlay, laid]

/-- The member that a value is laid over. Names inside a path are taken as they are. -/
def target (name : String) : (path : List Step) → String
  | [] => Text.lowercase name
  | _ :: _ => name

def laidAt (value : Tree) : (path : List Step) → (old : Option Tree) → Tree
  | [], old => laid value old
  | next :: path, old => overlayAt value next path (old.getD (.leaf none .null))

theorem overlay_eq_overlayAt (name : String) (value tree : Tree) :
    overlay name value tree = overlayAt value (.member name) [] tree := by
  simp only [overlayAt]

theorem overlayAt_eq (value : Tree) (name : String) (path : List Step) (tree : Tree) :
    overlayAt value (.member name) path tree =
      tree.putMember (target name path) (laidAt value path (tree.member? (target name path))) := by
  cases path with
  | nil => exact overlay_eq name value tree
  | cons next path => simp only [overlayAt, target, laidAt]

/-- A section that is missing counts as an empty one. -/
theorem overlayAt_getD (value : Tree) (name : String) (path : List Step) (old : Option Tree) :
    overlayAt value (.member name) path (old.getD (.leaf none .null)) =
      overlayAt value (.member name) path (old.getD emptyTable) := by
  cases old with
  | none => simp only [overlayAt_eq]; rfl
  | some tree => rfl

/-- Tables that agree except at one name. -/
structure Agree (name : String) (R : Option Tree → Option Tree → Prop) (t t' : Tree) : Prop where
  isTable : t.IsTable
  isTable' : t'.IsTable
  differ : Table.Differ name R t.asTable t'.asTable

namespace Agree

variable {name other : String} {R S : Option Tree → Option Tree → Prop} {t t' : Tree}

theorem overlayAt_of_ne (agree : Agree name R t t') {path : List Step}
    (h : target other path ≠ name) (value : Tree) :
    Agree name R (overlayAt value (.member other) path t)
      (overlayAt value (.member other) path t') := by
  have same : t.member? (target other path) = t'.member? (target other path) :=
    agree.differ.get?_eq h
  rw [overlayAt_eq, overlayAt_eq, same]
  refine ⟨trivial, trivial, ?_⟩
  rw [asTable_putMember, asTable_putMember]
  exact agree.differ.put_of_ne h _

theorem overlayAt_self (agree : Agree name R t t') {path : List Step}
    (h : target other path = name) {value : Tree}
    (related : S (some (laidAt value path (t.member? name)))
      (some (laidAt value path (t'.member? name)))) :
    Agree name S (overlayAt value (.member other) path t)
      (overlayAt value (.member other) path t') := by
  rw [overlayAt_eq, overlayAt_eq, h]
  refine ⟨trivial, trivial, ?_⟩
  rw [asTable_putMember, asTable_putMember]
  exact agree.differ.put_self related

theorem overlayAt_right (agree : Agree name R t t') {path : List Step}
    (h : target other path = name) {value : Tree}
    (related : S (t.member? name) (some (laidAt value path (t'.member? name)))) :
    Agree name S t (overlayAt value (.member other) path t') := by
  rw [overlayAt_eq, h]
  refine ⟨agree.isTable, trivial, ?_⟩
  rw [asTable_putMember]
  exact agree.differ.put_right related

theorem overlayMembers (agree : Agree name R t t') {members : List (String × Tree)}
    (apart : ∀ member ∈ members, Text.lowercase member.1 ≠ name) :
    Agree name R (Tree.overlayMembers members t) (Tree.overlayMembers members t') := by
  induction members generalizing t t' with
  | nil => simpa only [Tree.overlayMembers] using agree
  | cons member members ih =>
    obtain ⟨other, value⟩ := member
    simp only [Tree.overlayMembers, overlay_eq_overlayAt]
    have about : Tree.target other [] ≠ name := apart (other, value) List.mem_cons_self
    exact ih (agree.overlayAt_of_ne about value)
      fun member later => apart member (List.mem_cons_of_mem _ later)

end Agree

end Tree

theorem overlayLayer_cons (entry : String × Tree) (layer : List (String × Tree)) (tree : Tree) :
    overlayLayer (entry :: layer) tree =
      overlayLayer layer
        (Tree.overlayAt entry.2 (pathOf entry.1).1 (pathOf entry.1).2 tree) := rfl

def Tree.Spares (field : String) : (value : Tree) → Prop
  | .table _ members => ∀ member ∈ members, Text.lowercase member.1 ≠ field
  | _ => False

/-- A value laid over a section at a path leaves a field alone if it is about another one. -/
def Tree.SparesAt (field : String) (value : Tree) : (path : List Step) → Prop
  | [] => value.Spares field
  | .member name :: path => target name path ≠ field
  | .item _ :: _ => False

instance (field : String) : (value : Tree) → Decidable (value.Spares field)
  | .table _ members =>
    inferInstanceAs (Decidable (∀ member ∈ members, Text.lowercase member.1 ≠ field))
  | .leaf .. => .isFalse id
  | .list .. => .isFalse id

instance (field : String) (value : Tree) :
    (path : List Step) → Decidable (value.SparesAt field path)
  | [] => inferInstanceAs (Decidable (value.Spares field))
  | .member name :: path => inferInstanceAs (Decidable (Tree.target name path ≠ field))
  | .item _ :: _ => .isFalse id

theorem Tree.Agree.laidAt {field : String} {R : Option Tree → Option Tree → Prop}
    {value : Tree} {path : List Step} (spares : value.SparesAt field path) {old old' : Option Tree}
    (agree : Tree.Agree field R (old.getD .emptyTable) (old'.getD .emptyTable)) :
    Tree.Agree field R (Tree.laidAt value path old) (Tree.laidAt value path old') := by
  match path, spares with
  | [], spares =>
    cases value with
    | leaf origin value => cases spares
    | list origin items => cases spares
    | table origin members => exact agree.overlayMembers spares
  | .member name :: path, apart =>
    simp only [Tree.laidAt, Tree.overlayAt_getD]
    exact agree.overlayAt_of_ne apart value

def Tree.ApartAt (part field : String) (value : Tree) : (first : Step) → (path : List Step) → Prop
  | .member name, path => target name path = part → value.SparesAt field path
  | .item _, _ => False

/-- A value of a layer leaves a field of a section alone. -/
def Apart (part field : String) (entry : String × Tree) : Prop :=
  entry.2.ApartAt part field (pathOf entry.1).1 (pathOf entry.1).2

instance (part field : String) (value : Tree) :
    (first : Step) → (path : List Step) → Decidable (value.ApartAt part field first path)
  | .member name, path =>
    inferInstanceAs (Decidable (Tree.target name path = part → value.SparesAt field path))
  | .item _, _ => .isFalse id

instance (part field : String) (entry : String × Tree) : Decidable (Apart part field entry) :=
  inferInstanceAs (Decidable (entry.2.ApartAt part field _ _))

/-- Trees that agree except in a field of a section. A section that is missing counts as an empty
one. -/
def AgreeInside (part field : String) (R : Option Tree → Option Tree → Prop) : Tree → Tree → Prop :=
  Tree.Agree part fun old old' =>
    Tree.Agree field R (old.getD .emptyTable) (old'.getD .emptyTable)

/-- A value that leaves the field alone can be laid over both. -/
theorem AgreeInside.overlayAt {part field : String} {R : Option Tree → Option Tree → Prop}
    {tree tree' incoming : Tree} {first : Step} {path : List Step}
    (apart : incoming.ApartAt part field first path) (agree : AgreeInside part field R tree tree') :
    AgreeInside part field R (Tree.overlayAt incoming first path tree)
      (Tree.overlayAt incoming first path tree') := by
  cases first with
  | item index => cases apart
  | member name =>
    by_cases about : Tree.target name path = part
    · exact agree.overlayAt_self about (Tree.Agree.laidAt (apart about) agree.differ.related)
    · exact agree.overlayAt_of_ne about incoming

/-- Trees that agree except that a field of a section is missing in the first one and has this
value in the second one, where it may be missing as well. -/
def Beside (part field : String) (value : Option Tree) : (tree tree' : Tree) → Prop :=
  Tree.Agree part fun old old' =>
    Tree.Agree field (fun held held' => held = none ∧ held' = value) (old.getD .emptyTable)
      (old'.getD .emptyTable)

section Beside

variable {part field : String} {value : Option Tree} {tree tree' : Tree}

theorem beside_empty (part field : String) : Beside part field none .emptyTable .emptyTable := by
  have nodup : Tree.emptyTable.asTable.keys.Nodup := List.nodup_nil
  exact ⟨trivial, trivial, rfl, nodup, nodup, trivial, trivial, rfl, nodup, nodup, rfl, rfl⟩

theorem Beside.overlayLayer (beside : Beside part field value tree tree')
    {layer : List (String × Tree)} (apart : ∀ entry ∈ layer, Apart part field entry) :
    Beside part field value (overlayLayer layer tree) (overlayLayer layer tree') := by
  induction layer generalizing tree tree' with
  | nil => exact beside
  | cons entry layer ih =>
    rw [overlayLayer_cons, overlayLayer_cons]
    exact ih (AgreeInside.overlayAt (apart entry List.mem_cons_self) beside)
      fun entry later => apart entry (List.mem_cons_of_mem _ later)

theorem Beside.fill (beside : Beside part field none tree tree)
    (small : Tree.target field [] = field) (origin : Option String) (leaf : Leaf) :
    Beside part field (some (.leaf origin leaf)) tree
      (Tree.overlayAt (.leaf origin leaf) (.member part) [.member field] tree) := by
  have inside : Tree.target part [.member field] = part := rfl
  refine beside.overlayAt_right inside ?_
  simp only [Tree.laidAt, Tree.overlayAt_getD]
  exact beside.differ.related.overlayAt_right small ⟨beside.differ.related.differ.related.1, rfl⟩

end Beside

end QuoteGateway.Settings
