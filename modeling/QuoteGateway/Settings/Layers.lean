import QuoteGateway.Settings.Tree
import QuoteGateway.Text.Pieces

/-!
# Layers of settings

Each layer is laid over the ones before it: tables are merged member by member, every other value
takes the place of an earlier one. The names of settings are compared in small letters. A layer may
name a value deep inside by its path.
-/

namespace QuoteGateway.Settings

/-- A step of a path: a member of a table or an item of a list. An index below zero counts from
the end of the list. -/
inductive Step where
  | member (name : String)
  | item (index : Int)
deriving DecidableEq

namespace Tree

def emptyTable : Tree := .table none []

/-- The members of a table. Any other value has none. -/
def members : Tree → List (String × Tree)
  | .table _ members => members
  | _ => []

def items : Tree → List Tree
  | .list _ items => items
  | _ => []

/-- A table with a member put in place of an earlier one of its name. A table stays the one that it
is, and any other value gives way to a new one. -/
def putMember (tree : Tree) (name : String) (value : Tree) : Tree :=
  let origin := match tree with
    | .table origin _ => origin
    | _ => none
  .table origin (put tree.members)
where
  put : List (String × Tree) → List (String × Tree)
    | [] => [(name, value)]
    | (other, old) :: rest =>
      if other = name then (name, value) :: rest else (other, old) :: put rest

def member? (name : String) (tree : Tree) : Option Tree := tree.members.lookup name

mutual

def overlay (name : String) : Tree → Tree → Tree
  | .table _ incoming, tree =>
    let name := Text.lowercase name
    let target := (tree.member? name).getD emptyTable
    tree.putMember name (overlayMembers incoming target)
  | value, tree => tree.putMember (Text.lowercase name) value

def overlayMembers : List (String × Tree) → Tree → Tree
  | [], tree => tree
  | (name, value) :: rest, tree => overlayMembers rest (overlay name value tree)

end

def place (length : Nat) : (index : Int) → Nat
  | .ofNat n => n
  | .negSucc n => length - (n + 1)

/-- Items with enough empty values at their end to have a place. -/
def padded (place : Nat) (items : List Tree) : List Tree :=
  items ++ List.replicate (place + 1 - items.length) (.leaf none .null)

def listOrigin : Tree → Option String
  | .list origin _ => origin
  | _ => none

/-- A value laid over the place in a tree that a path leads to. What is no table or list on the way
gives way to one. -/
def overlayAt (value : Tree) : (first : Step) → (path : List Step) → Tree → Tree
  | .member name, [], tree => overlay name value tree
  | .item index, [], tree =>
    let n := place tree.items.length index
    .list tree.listOrigin ((padded n tree.items).set n value)
  | .member name, next :: path, tree =>
    let inner := (tree.member? name).getD (.leaf none .null)
    tree.putMember name (overlayAt value next path inner)
  | .item index, next :: path, tree =>
    let n := place tree.items.length index
    let items := padded n tree.items
    let inner := items.getD n (.leaf none .null)
    .list tree.listOrigin (items.set n (overlayAt value next path inner))

end Tree

def isNameChar (c : Char) : Bool := c.isAlphanum || c == ' ' || c == '_' || c == '-'

def indexOf? (cs : List Char) : Option Int := do
  let isBlank (c : Char) := c == ' ' || c == '\t'
  let numeral := ((cs.dropWhile isBlank).reverse.dropWhile isBlank).reverse
  if numeral.head? = some '+' then none else (Text.signed64? numeral).map Int64.toInt

/-- The steps of a path after its first name: names after points and indices in brackets. -/
def furtherSteps? : (steps : Nat) → List Char → Option (List Step)
  | _, [] => some []
  | 0, _ => none
  | steps + 1, '.' :: rest => do
    let name := rest.takeWhile isNameChar
    if name.isEmpty then none
    else some (.member (String.ofList name) :: (← furtherSteps? steps (rest.drop name.length)))
  | steps + 1, '[' :: rest => do
    let inside := rest.takeWhile (· != ']')
    let index ← indexOf? inside
    if rest.length = inside.length then none
    else some (.item index :: (← furtherSteps? steps (rest.drop (inside.length + 1))))
  | _, _ => none

/-- The steps of a path. A text that is no path names a member as a whole. -/
def pathOf (s : String) : Step × List Step :=
  let cs := s.toList
  let name := cs.takeWhile isNameChar
  let further := furtherSteps? cs.length (cs.drop name.length)
  match name, further with
  | _ :: _, some steps => (.member (String.ofList name), steps)
  | _, _ => (.member s, [])

/-- The values of a layer laid over a tree, each at the path that names it. -/
def overlayLayer (layer : List (String × Tree)) (tree : Tree) : Tree :=
  layer.foldl (fun tree (name, value) =>
    let (first, path) := pathOf name
    Tree.overlayAt value first path tree) tree

def environmentOrigin : String := "the environment"

def environmentStart : List Char := "app__".toList

/-- The name with a point for every two underscores. -/
def pointed : List Char → List Char
  | '_' :: '_' :: rest => '.' :: pointed rest
  | c :: rest => c :: pointed rest
  | [] => []

def variablePath? (name : String) : Option String :=
  let cs := (Text.lowercase name).toList
  if environmentStart.isPrefixOf cs then
    some (String.ofList (pointed (cs.drop environmentStart.length)))
  else none

/-- The setting whose text in the environment is a list. -/
def listPath : String := "updater.base_currencies"

/-- The value of a variable: a truth value, a whole number, a number, or else a text. -/
def variableValue (path value : String) : Tree :=
  let leaf (value : Leaf) : Tree := .leaf (some environmentOrigin) value
  let cs := value.toList
  if Text.lowercase value = "true" then leaf (.flag true)
  else if Text.lowercase value = "false" then leaf (.flag false)
  else match Text.signed64? cs, Number.literal? cs with
    | some i, _ => leaf (.integer i.toInt)
    | none, some x => leaf (.real x)
    | none, none =>
      if path = listPath then
        .list (some environmentOrigin)
          ((Text.pieces ',' cs).map fun piece => leaf (.text (String.ofList piece)))
      else leaf (.text value)

def environmentLayer (environment : List (String × String)) : List (String × Tree) :=
  environment.filterMap fun (name, value) =>
    (variablePath? name).map fun path => (path, variableValue path value)

end QuoteGateway.Settings
