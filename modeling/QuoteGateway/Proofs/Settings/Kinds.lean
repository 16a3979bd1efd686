import QuoteGateway.Proofs.Number.Nearest
import QuoteGateway.Proofs.Settings.Variables

/-!
# Kinds of settings

What a value of the right type states for a setting, in a file and in the environment. There the
text of a variable must be taken for a value of this type, or come back as it is if the setting is a
text. A whole number beyond 63 bits is no whole number in either place, and may become another one.
-/

namespace QuoteGateway.Settings

open Number (Binary64)

/-- How values of one type are stated, and that they are decoded to what they state. -/
structure Kind (β : Type) where
  decoder : Decoder β
  /-- What a value in a file states, if it has the right type. -/
  stated? : Tree → Option β
  /-- What the text of a variable states, if it reads like the right type. -/
  spelled? : String → Option β
  reads_stated : ∀ tree b, stated? tree = some b → decoder.tree tree = .ok b
  reads_spelled : ∀ s b, spelled? s = some b →
    decoder.tree (.leaf (some environmentOrigin) (guessed s)) = .ok b

namespace Kind

variable {β : Type}

def ofLeaf (value? : Leaf → Option β) : Tree → Option β
  | .leaf _ leaf => value? leaf
  | _ => none

/-- A kind whose values are stated in the same way in files and by guesses. -/
def guess (decoder : Decoder β) (value? : Leaf → Option β)
    (reads : ∀ origin leaf b, value? leaf = some b → decoder.tree (.leaf origin leaf) = .ok b) :
    Kind β where
  decoder := decoder
  stated? := ofLeaf value?
  spelled? s := value? (guessed s)
  reads_stated tree b stated := by
    cases tree with
    | leaf origin leaf => exact reads origin leaf b stated
    | list origin items => cases stated
    | table origin members => cases stated
  reads_spelled s b spelled := reads _ _ b spelled

def textOf? : Leaf → Option String
  | .text s => some s
  | _ => none

/-- A text, which a variable spells if it comes back as it is. -/
def text : Kind String where
  decoder := .text
  stated? := ofLeaf textOf?
  spelled? s := if respelled s = s then some s else none
  reads_stated tree s stated := by
    match tree, stated with
    | .leaf _ (.text _), rfl => rfl
  reads_spelled s t spelled := by
    split_ifs at spelled with same
    obtain rfl := Option.some.inj spelled
    have decoded := asText_guessed (some environmentOrigin) s
    rw [same] at decoded
    exact decoded

def option (choice : String) (options : List (String × β)) : Kind β :=
  guess (.oneOf choice options) (fun leaf => (textOf? leaf).bind fun name =>
      (Decoder.treeOption choice options name).toOption) fun origin leaf b stated => by
    obtain ⟨name, isText, found⟩ := Option.bind_eq_some_iff.mp stated
    match leaf, isText with
    | .text _, rfl => exact ok_of_toOption found

def address : Kind Net.SocketAddress :=
  guess .address (fun leaf => (textOf? leaf).bind Net.SocketAddress.read?)
    fun origin leaf b stated => by
      obtain ⟨s, isText, read⟩ := Option.bind_eq_some_iff.mp stated
      match leaf, isText with
      | .text _, rfl =>
        simp only [Decoder.address, Tree.asText, bind, Except.bind, read]

def flagOf? : Leaf → Option Bool
  | .flag b => some b
  | _ => none

def flag : Kind Bool :=
  guess .flag flagOf? fun origin leaf b stated => by
    match leaf, stated with
    | .flag _, rfl => rfl

def wholeOf? (bound : Nat) : Leaf → Option Nat
  | .integer i => if 0 ≤ i ∧ i < bound then some i.toNat else none
  | _ => none

def whole (decoder : Decoder UInt64) (unsigned : decoder.tree = Tree.asUnsigned) : Kind UInt64 :=
  guess decoder (fun leaf => (wholeOf? UInt64.size leaf).map UInt64.ofNat)
    fun origin leaf b stated => by
      obtain ⟨n, isWhole, rfl⟩ := Option.map_eq_some_iff.mp stated
      cases leaf with
      | integer i =>
        rw [wholeOf?] at isWhole
        split_ifs at isWhole with range
        obtain rfl := Option.some.inj isWhole
        rw [unsigned, Tree.asUnsigned, if_pos range.1]
      | _ => cases isWhole

theorem asUnsigned32_integer (origin : Option String) {i : Int} (natural : 0 ≤ i)
    (small : i < UInt32.size) :
    (Tree.leaf origin (.integer i)).asUnsigned32 = .ok (UInt32.ofNat i.toNat) := by
  have size : UInt32.size = 4294967296 := rfl
  have value : (UInt64.ofNat i.toNat).toNat = i.toNat := by
    rw [UInt64.toNat_ofNat', Nat.mod_eq_of_lt (by omega)]
  have narrow : (UInt64.ofNat i.toNat).toUInt32 = UInt32.ofNat i.toNat := by
    apply UInt32.toNat.inj
    rw [UInt64.toNat_toUInt32, value, UInt32.toNat_ofNat']
  have below : (UInt64.ofNat i.toNat).toNat < UInt32.size := by omega
  simp only [Tree.asUnsigned32, Tree.asUnsigned, if_pos natural, bind, Except.bind, if_pos below,
    narrow]

def whole32 : Kind UInt32 :=
  guess .unsigned32 (fun leaf => (wholeOf? UInt32.size leaf).map UInt32.ofNat)
    fun origin leaf b stated => by
      obtain ⟨n, isWhole, rfl⟩ := Option.map_eq_some_iff.mp stated
      cases leaf with
      | integer i =>
        rw [wholeOf?] at isWhole
        split_ifs at isWhole with range
        obtain rfl := Option.some.inj isWhole
        exact asUnsigned32_integer origin range.1 range.2
      | _ => cases isWhole

theorem tree_optional {decoder : Decoder β} {tree : Tree}
    (some : ∀ origin, tree ≠ .leaf origin .null) {b : β} (reads : decoder.tree tree = .ok b) :
    (Decoder.optional decoder).tree tree = .ok (.some b) := by
  have decodes : (Decoder.optional decoder).tree tree = (decoder.tree tree).map .some := by
    cases tree with
    | leaf origin value =>
      cases value with
      | null => exact absurd rfl (some origin)
      | _ => rfl
    | list origin items => rfl
    | table origin members => rfl
  rw [decodes, reads]
  rfl

def optional (kind : Kind β) : Kind (Option β) where
  decoder := .optional kind.decoder
  stated? tree :=
    match tree with
    | .leaf _ .null => some none
    | tree => (kind.stated? tree).map some
  spelled? s := (kind.spelled? s).map some
  reads_stated tree b stated := by
    split at stated
    · obtain rfl := Option.some.inj stated
      rfl
    · rename_i some
      obtain ⟨c, states, rfl⟩ := Option.map_eq_some_iff.mp stated
      exact tree_optional some (kind.reads_stated tree c states)
  reads_spelled s b spelled := by
    obtain ⟨c, spells, rfl⟩ := Option.map_eq_some_iff.mp spelled
    refine tree_optional ?_ (kind.reads_spelled s c spells)
    intro origin null
    exact guessed_ne_null s (Tree.leaf.inj null).2

/-- A list, which states what its items are decoded to. No text spells one. -/
def list (decoder : Decoder β) : Kind (List β) where
  decoder := .list decoder
  stated? tree :=
    match tree with
    | .list _ items => (decoder.treeItems 0 items).toOption
    | _ => none
  spelled? _ := none
  reads_stated tree b stated := by
    match tree with
    | .list _ items => exact ok_of_toOption stated
  reads_spelled _ _ spelled := nomatch spelled

end Kind

/-- A whole number of 64 bits that JSON text brings through the layers: one of 63 bits, one whose
last eleven bits are zero, or the greatest, at which larger numbers are cut. -/
def Survives (n : UInt64) : Prop :=
  n.toNat < 2 ^ 63 ∨ n.toNat % 2 ^ 11 = 0 ∨ n.toNat = 2 ^ 64 - 1

instance (n : UInt64) : Decidable (Survives n) := inferInstanceAs (Decidable (_ ∨ _))

theorem asUnsigned_ofNumeral (origin : String) (n : UInt64) :
    ∃ m, (treeOf origin (.ofNumeral (.natural n.toNat))).asUnsigned = .ok m ∧
      (m = n ↔ Survives n) := by
  have fits := n.toNat_lt
  have signed : Int64.maxValue.toInt = 2 ^ 63 - 1 := rfl
  simp only [Json.Document.ofNumeral, signed]
  split_ifs with short
  · refine ⟨n, ?_, ⟨fun _ => .inl (by omega), fun _ => rfl⟩⟩
    simp only [treeOf, Tree.asUnsigned, Int.natCast_nonneg, if_true, Int.toNat_natCast,
      UInt64.ofNat_toNat]
  · have wide : 2 ^ 63 ≤ n.toNat := by omega
    have rounded := Binary64.clampedRound_of_isWhole (Binary64.isWhole_ofNat_wide wide fits) 0
      (UInt64.size - 1 : Nat)
    have size : UInt64.size = 2 ^ 64 := rfl
    refine ⟨_, rfl, ?_⟩
    rw [rounded, ← UInt64.toNat_inj, UInt64.toNat_ofNat', Survives, Binary64.roundHalfEven]
    split_ifs <;> omega

/-- The texts between the commas of a variable, unless it is taken for something else. -/
def spelledList? (s : String) : Option (List String) :=
  match guessed s with
  | .text _ => some ((Text.pieces ',' s.toList).map String.ofList)
  | _ => none

theorem treeItems_text (origin : Option String) (pieces : List (List Char)) (index : Nat) :
    Decoder.text.treeItems index
        (pieces.map fun piece => .leaf origin (.text (String.ofList piece))) =
      .ok (pieces.map String.ofList) := by
  induction pieces generalizing index with
  | nil => rfl
  | cons piece pieces ih =>
    have first : Decoder.text.tree (.leaf origin (.text (String.ofList piece))) =
        .ok (String.ofList piece) := rfl
    simp only [List.map_cons, Decoder.treeItems, first, Except.mapError, bind, Except.bind, ih]

theorem variableValue_listPath {s t : String} (guess : guessed s = .text t) :
    variableValue listPath s = .list (some environmentOrigin)
      ((Text.pieces ',' s.toList).map fun piece =>
        .leaf (some environmentOrigin) (.text (String.ofList piece))) := by
  obtain ⟨b, -, other⟩ | ⟨noFlag, ⟨i, -, other⟩ | ⟨noInteger, ⟨x, -, other⟩ | ⟨noReal, -⟩⟩⟩ :=
    guessed_cases s
  · exact nomatch guess.symm.trans other
  · exact nomatch guess.symm.trans other
  · exact nomatch guess.symm.trans other
  · have yes : Text.lowercase s ≠ "true" := noFlag true
    have no : Text.lowercase s ≠ "false" := noFlag false
    simp only [variableValue, if_neg yes, if_neg no, noInteger, noReal, if_true]

theorem tree_spelledList {s : String} {bases : List String}
    (spelled : spelledList? s = some bases) :
    (Decoder.list .text).tree (variableValue listPath s) = .ok bases := by
  unfold spelledList? at spelled
  split at spelled
  · rename_i t guess
    obtain rfl := Option.some.inj spelled
    rw [variableValue_listPath guess]
    exact treeItems_text _ _ 0
  · cases spelled

end QuoteGateway.Settings
