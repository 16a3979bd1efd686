import QuoteGateway.Toml.Lexeme

/-!
# TOML documents

Lines of keys and values, gathered in tables by their headers. A header in double brackets starts
the next table of a list. A value is set once, and a table is made in one way only: by a header, by
keys with points in them, or in braces.
-/

namespace QuoteGateway.Toml

open Json (Document)

/-- How a table came about. -/
inductive Origin where
  | header
  /-- It leads to the table of a header, and may still get a header of its own. -/
  | path
  | points

/-- What stands under a name. Only tables of headers and of keys with points are still open. -/
inductive Node where
  | value (document : Document)
  | table (origin : Origin) (members : List (String × Node))
  | tables (items : List (List (String × Node)))

abbrev Members := List (String × Node)

mutual

def Node.document : Node → Document
  | .value document => document
  | .table _ members => .object (documentsOf members)
  | .tables items => .list (objectsOf items)

def documentsOf : List (String × Node) → List (String × Document)
  | [] => []
  | (name, node) :: rest => (name, node.document) :: documentsOf rest

def objectsOf : List (List (String × Node)) → List Document
  | [] => []
  | members :: rest => .object (documentsOf members) :: objectsOf rest

end

/-- Members with one of them changed. It is given as nothing where there is none yet. -/
def changeMember (name : String) (change : Option Node → Option Node) : Members → Option Members
  | [] => do some [(name, ← change none)]
  | (other, old) :: rest =>
    if other = name then do some ((other, ← change (some old)) :: rest)
    else do some ((other, old) :: (← changeMember name change rest))

def changeLast (change : Members → Option Members) (items : List Members) : Option Node := do
  some (.tables (items.dropLast ++ [← change (← items.getLast?)]))

def onPath (change : Members → Option Members) : Option Node → Option Node
  | none => do some (.table .path (← change []))
  | some (.table origin members) => do some (.table origin (← change members))
  | some (.tables items) => changeLast change items
  | some (.value _) => none

/-- A table changed on the way of a key with points. The last one on the way must have come about
by such keys. -/
def onPoints (last : Bool) (change : Members → Option Members) : Option Node → Option Node
  | none => do some (.table .points (← change []))
  | some (.table .points members) => do some (.table .points (← change members))
  | some (.table .path members) =>
    if last then none else do some (.table .path (← change members))
  | some (.tables items) => if last then none else changeLast change items
  | some (.table .header _) | some (.value _) => none

/-- Members changed at the table that the path of a header leads to. -/
def changeAt : (path : List String) → (Members → Option Members) → Members → Option Members
  | [], change, members => change members
  | name :: path, change, members =>
    changeMember name (onPath (changeAt path change)) members

def setNew (document : Document) : Option Node → Option Node
  | none => some (.value document)
  | some _ => none

def setAt (document : Document) : (name : String) → (more : List String) →
    Members → Option Members
  | name, [], members => changeMember name (setNew document) members
  | name, next :: more, members =>
    changeMember name (onPoints more.isEmpty (setAt document next more)) members

def startTable : Option Node → Option Node
  | none => some (.table .header [])
  | some (.table .path members) => some (.table .header members)
  | some _ => none

def addTable : Option Node → Option Node
  | none => some (.tables [[]])
  | some (.tables items) => some (.tables (items ++ [[]]))
  | some _ => none

def changeEnd (change : Option Node → Option Node) (path : List String) (members : Members) :
    Option Members := do
  changeAt path.dropLast (changeMember (← path.getLast?) change) members

/-- A key may have so many parts, and so many lists and tables in braces may be open at once. -/
def deepest : Nat := 79

mutual

def value : (steps room : Nat) → Part Document
  | 0, _, _ => none
  | steps + 1, room, cs =>
    match cs with
    | '[' :: rest =>
      if room = 0 then none
      else do
        let (items, rest) ← listItems steps (room - 1) rest
        some (.list items, rest)
    | '{' :: rest =>
      if room = 0 then none
      else do
        let (members, rest) ← tableMembers steps (room - 1) true [] rest
        some (.object (documentsOf members), rest)
    | '"' :: _ | '\'' :: _ => do
      let (text, rest) ← quotedText cs
      some (.text text, rest)
    | _ => do
      let (token, rest) := bareText cs
      some (← bareValue? token, rest)

/-- The items of an open list, with line breaks and comments anywhere between them. -/
def listItems : (steps room : Nat) → Part (List Document)
  | 0, _, _ => none
  | steps + 1, room, cs => do
    match ← afterGap false cs with
    | ']' :: rest => some ([], rest)
    | start =>
      let (item, rest) ← value steps room start
      match ← afterGap false rest with
      | ',' :: rest =>
        let (items, rest) ← listItems steps room rest
        some (item :: items, rest)
      | ']' :: rest => some ([item], rest)
      | _ => none

/-- The members of a table in braces, which stands on one line. -/
def tableMembers : (steps room : Nat) → (first : Bool) → Members → Part Members
  | 0, _, _, _, _ => none
  | steps + 1, room, first, members, cs =>
    match first, skipBlanks cs with
    | true, '}' :: rest => some (members, rest)
    | _, start => do
      let ((name, more), rest) ← key deepest start
      let (item, rest) ← value steps room (skipBlanks (← afterMark '=' rest))
      let members ← setAt item name more members
      match skipBlanks rest with
      | ',' :: rest => tableMembers steps room false members rest
      | '}' :: rest => some (members, rest)
      | _ => none

end

/-- The lines of a document after the header of the table at `path`. -/
def lines : (steps : Nat) → (path : List String) → Members → List Char → Option Members
  | 0, _, _, _ => none
  | steps + 1, path, members, cs => do
    match ← afterGap false cs with
    | [] => some members
    | '[' :: '[' :: rest =>
      let ((name, more), rest) ← key deepest rest
      let rest ← afterMark ']' (← afterMark ']' rest)
      let members ← changeEnd addTable (name :: more) members
      lines steps (name :: more) members (← afterLine rest)
    | '[' :: rest =>
      let ((name, more), rest) ← key deepest rest
      let rest ← afterMark ']' rest
      let members ← changeEnd startTable (name :: more) members
      lines steps (name :: more) members (← afterLine rest)
    | start =>
      let ((name, more), rest) ← key deepest start
      let rest ← afterMark '=' rest
      let (item, rest) ← value rest.length deepest (skipBlanks rest)
      let members ← changeAt path (setAt item name more) members
      lines steps path members (← afterLine rest)

def read? (s : String) : Option Document := do
  let cs ← withShortBreaks? s.toList
  some (.object (documentsOf (← lines (cs.length + 1) [] [] cs)))

end QuoteGateway.Toml
