import QuoteGateway.Settings.Layers
import QuoteGateway.Settings.Sections
import QuoteGateway.Toml.Reader

/-!
# Loading settings

Settings come from two files, the default one and the local one, and from the environment, each
laid over the ones before it. Files may be missing; each is written in TOML or in JSON.
-/

namespace QuoteGateway.Settings

open Json (Document)

mutual

/-- The tree of a document with the same origin everywhere. -/
def treeOf (origin : String) : Document → Tree
  | .null => .leaf (some origin) .null
  | .flag b => .leaf (some origin) (.flag b)
  | .integer i => .leaf (some origin) (.integer i)
  | .real x => .leaf (some origin) (.real x)
  | .text s => .leaf (some origin) (.text s)
  | .list items => .list (some origin) (treesOf origin items)
  | .object members => .table (some origin) (membersOf origin members)

def treesOf (origin : String) : List Document → List Tree
  | [] => []
  | document :: documents => treeOf origin document :: treesOf origin documents

def membersOf (origin : String) : List (String × Document) → List (String × Tree)
  | [] => []
  | (name, document) :: members => (name, treeOf origin document) :: membersOf origin members

end

inductive LoadFault where
  | malformed (file : String)
  | unreadable (file : String) (cause : Json.ReadError)
  | noTable (file : String) (found : Found)
  | misfit (cause : Misfit)

def LoadFault.message : LoadFault → String
  | .malformed file => "TOML parse error in " ++ file
  | .unreadable file cause => cause.message ++ " in " ++ file
  | .noTable file found =>
    (Misfit.wrongType found "a map" none (some file)).message ++ " in " ++ file
  | .misfit cause => cause.message

inductive FileFormat where
  | toml
  | json
deriving DecidableEq

/-- A byte order mark at the start of a file does not count. -/
def withoutMark (s : String) : String :=
  match s.toList with
  | c :: rest => if c.toNat = 0xFEFF then String.ofList rest else s
  | [] => s

def fileLayer (format : FileFormat) (file text : String) :
    Except LoadFault (List (String × Tree)) := do
  let document ← match format with
    | .toml =>
      match Toml.read? (withoutMark text) with
      | some document => .ok document
      | none => .error (.malformed file)
    | .json => (Document.read (withoutMark text)).mapError (.unreadable file)
  match document with
  | .object members => .ok (membersOf file members)
  | other => .error (.noTable file (treeOf file other).found)

/-- The layer of the file of a name, in the first format that it exists in. -/
def namedLayer (files : String → Option String) (name : String) :
    Except LoadFault (List (String × Tree)) :=
  match files (name ++ ".toml"), files (name ++ ".json") with
  | some text, _ => fileLayer .toml (name ++ ".toml") text
  | none, some text => fileLayer .json (name ++ ".json") text
  | none, none => .ok []

/-- The files of settings, in the order in which they are laid over each other. -/
def fileNames : List String := ["config/default", "config/local"]

/-- The tree of all layers. -/
def loadTree (files : String → Option String) (environment : List (String × String)) :
    Except LoadFault Tree := do
  let layers ← fileNames.mapM (namedLayer files)
  .ok ((layers ++ [environmentLayer environment]).foldl (fun tree layer => overlayLayer layer tree)
    Tree.emptyTable)

/-- The settings of all layers. -/
def load (files : String → Option String) (environment : List (String × String)) :
    Except LoadFault Settings := do
  (ofTree (← loadTree files environment)).mapError .misfit

end QuoteGateway.Settings
