import QuoteGateway.Json.Reader
import QuoteGateway.Net.Address
import QuoteGateway.Settings.Tree

/-!
# Decoders of settings

A decoder reads one setting both from JSON text, where its type must be the right one, and from a
tree, where values are converted. Sections have fields with names; unknown names are skipped.
-/

namespace QuoteGateway.Settings

structure Decoder (α : Type) where
  json : Json.Reader α
  tree : Tree → Except Misfit α

namespace Decoder

def text : Decoder String := ⟨Json.text, Tree.asText⟩

def flag : Decoder Bool := ⟨Json.flag, Tree.asFlag⟩

def unsignedJson {α : Type} (expected : String) (size : Nat) (of : Nat → α) : Json.Reader α :=
  fun cs => do
    let (i, rest) ← Json.integerWithin expected 0 (size - 1 : Nat) cs
    .ok (of i.toNat, rest)

def unsigned : Decoder UInt64 := ⟨unsignedJson "u64" UInt64.size UInt64.ofNat, Tree.asUnsigned⟩

def count : Decoder UInt64 := ⟨unsignedJson "usize" UInt64.size UInt64.ofNat, Tree.asUnsigned⟩

def unsigned32 : Decoder UInt32 := ⟨unsignedJson "u32" UInt32.size UInt32.ofNat, Tree.asUnsigned32⟩

def optional {α : Type} (d : Decoder α) : Decoder (Option α) where
  json := Json.optional d.json
  tree
    | .leaf _ .null => .ok none
    | tree => (d.tree tree).map some

def treeItems {α : Type} (d : Decoder α) : (index : Nat) → List Tree → Except Misfit (List α)
  | _, [] => .ok []
  | index, tree :: trees => do
    let a ← (d.tree tree).mapError (·.under ("[" ++ toString index ++ "]"))
    let more ← treeItems d (index + 1) trees
    .ok (a :: more)

def list {α : Type} (d : Decoder α) : Decoder (List α) where
  json := Json.list d.json
  tree
    | .list _ items => treeItems d 0 items
    | tree => .error (.wrongShape tree.found "a sequence")

def treeOption {α : Type} (choice : String) (options : List (String × α)) (name : String) :
    Except Misfit α :=
  match options.find? fun option => Text.lowercase option.1 == Text.lowercase name with
  | some option => .ok option.2
  | none => .error (.unknownOption choice name)

def oneOf {α : Type} (choice : String) (options : List (String × α)) : Decoder α where
  json := Json.oneOf options
  tree
    | .leaf _ (.text name) => treeOption choice options name
    | .table _ [(name, _)] => treeOption choice options name
    | _ => .error (.notOption choice)

def addressRefusal : String := "invalid socket address syntax"

def address : Decoder Net.SocketAddress where
  json := Json.parsedText "socket address" fun s =>
    match Net.SocketAddress.read? s with
    | some address => .ok address
    | none => .error (.refused addressRefusal)
  tree tree := do
    match Net.SocketAddress.read? (← tree.asText) with
    | some address => .ok address
    | none => .error (.refused addressRefusal)

def map {α β : Type} (f : α → β) (d : Decoder α) : Decoder β where
  json cs := (d.json cs).map fun (a, rest) => (f a, rest)
  tree tree := (d.tree tree).map f

end Decoder

/-- A field of a section: its value changes a draft of the section. -/
structure Field (α : Type) where
  name : String
  presence : Json.Presence
  change : Decoder (α → α)

def Field.of {α β : Type} (name : String) (d : Decoder β) (put : β → α → α) : Field α :=
  ⟨name, .defaulted, d.map put⟩

def Field.required {α β : Type} (name : String) (d : Decoder β) (put : β → α → α) : Field α :=
  ⟨name, .required, d.map put⟩

/-- A section: its name in messages, a draft with every default, and its fields in order. -/
structure Section (α : Type) where
  name : String
  draft : α
  fields : List (Field α)

namespace Section

variable {α : Type}

def shape (s : Section α) : Json.RecordShape α where
  name := s.name
  draft := s.draft
  fields := s.fields.map fun field => ⟨field.name, field.presence, field.change.json⟩

def applyMembers (s : Section α) : List (String × Tree) → α → Except Misfit α
  | [], draft => .ok draft
  | (name, tree) :: members, draft =>
    match s.fields.find? (·.name == name) with
    | none => s.applyMembers members draft
    | some field => do
      let change ← (field.change.tree tree).mapError (·.under name)
      s.applyMembers members (change draft)

/-- The section of a table that has all the fields it must have. -/
def ofMembers (s : Section α) (members : List (String × Tree)) : Except Misfit α := do
  let a ← s.applyMembers members s.draft
  let missing := s.fields.find? fun field =>
    field.presence == .required && !members.any (·.1 == field.name)
  match missing with
  | none => .ok a
  | some field => .error (.missingField field.name)

/-- The section of a list with its fields in order. Further items do not count. -/
def ofItems (s : Section α) : List (Field α) → (index : Nat) → List Tree → α → Except Misfit α
  | [], _, _, draft => .ok draft
  | field :: fields, index, tree :: trees, draft => do
    let change ← (field.change.tree tree).mapError (·.under ("[" ++ toString index ++ "]"))
    s.ofItems fields (index + 1) trees (change draft)
  | field :: fields, index, [], draft =>
    if field.presence == .required then .error (.wrongLength index s.shape.expectedLength)
    else s.ofItems fields (index + 1) [] draft

def decoder (s : Section α) : Decoder α where
  json := Json.record s.shape
  tree
    | .table _ members => s.ofMembers members
    | .list _ items => s.ofItems s.fields 0 items s.draft
    | tree => .error (.wrongShape tree.found s.shape.expected)

end Section

end QuoteGateway.Settings
