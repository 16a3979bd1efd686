import QuoteGateway.Text.Pieces
import QuoteGateway.Text.WhiteSpace

/-!
# Files of variables

Lines of names and values that complete the environment. A variable that is set already keeps its
value. Values may stand in quotes; the first line that cannot be read ends the file.
-/

namespace QuoteGateway.Settings

/-- A value without quotes ends before a comment. -/
def bareVariable : (afterBlank : Bool) → List Char → List Char
  | _, [] => []
  | afterBlank, c :: rest =>
    if c = '#' ∧ afterBlank then [] else c :: bareVariable (Text.isWhiteSpace c) rest

/-- A value in double quotes, in which a backslash keeps the next character. -/
def quotedVariable? : List Char → Option (List Char)
  | [] => none
  | '"' :: _ => some []
  | '\\' :: 'n' :: rest => (quotedVariable? rest).map ('\n' :: ·)
  | '\\' :: c :: rest => (quotedVariable? rest).map (c :: ·)
  | c :: rest => (quotedVariable? rest).map (c :: ·)

def variableText? (cs : List Char) : Option (List Char) :=
  match Text.trim cs with
  | '\'' :: rest => if rest.contains '\'' then some (rest.takeWhile (· != '\'')) else none
  | '"' :: rest => quotedVariable? rest
  | rest => some (Text.trim (bareVariable true rest))

def isVariableChar (c : Char) : Bool := c.isAlphanum || c == '_' || c == '.'

def variableLine? (cs : List Char) : Option (String × String) := do
  let cs := Text.trim cs
  let cs := if "export ".toList.isPrefixOf cs then Text.trim (cs.drop 7) else cs
  let name := Text.trim (cs.takeWhile (· != '='))
  if name.isEmpty ∨ !name.all isVariableChar ∨ name.length = cs.length then none
  else
    let value ← variableText? ((cs.dropWhile (· != '=')).drop 1)
    some (String.ofList name, String.ofList value)

def isIdleLine (cs : List Char) : Bool :=
  match Text.trim cs with
  | [] => true
  | c :: _ => c == '#'

/-- The variables of lines up to the first that cannot be read. -/
def variablesOfLines : List (List Char) → List (String × String)
  | [] => []
  | line :: lines =>
    if isIdleLine line then variablesOfLines lines
    else match variableLine? line with
      | none => []
      | some row => row :: variablesOfLines lines

/-- An environment completed by the text of a file. The first value of a variable counts. -/
def completed (environment : List (String × String)) (text : String) : List (String × String) :=
  (variablesOfLines (Text.pieces '\n' text.toList)).foldl
    (fun set row => if set.any (·.1 == row.1) then set else set ++ [row]) environment

end QuoteGateway.Settings
