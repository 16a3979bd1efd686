import QuoteGateway.Net.Address
import QuoteGateway.Net.Percent
import QuoteGateway.Text.Pieces

/-!
# Absolute addresses of resources

An address has a scheme, mostly a host, a path, and possibly a query and a fragment. Reading brings
it into its normal form: scheme and host in small letters, no default port, no dot segments, and
percent signs for the octets of characters that may not stand for themselves. The user and the
password of an address are not kept. What the ASCII form of a host is, is left open.
-/

namespace QuoteGateway.Net

/-- What gives the ASCII form of a host, or refuses the host. -/
abbrev HostForm := List Char → Option (List Char)

inductive Path where
  /-- Segments, each after a slash. -/
  | segments (parts : List (List Char))
  /-- A path without structure, which follows the scheme at once. -/
  | plain (text : List Char)
deriving DecidableEq

structure Url where
  scheme : List Char
  host : Option (List Char)
  port : Option Nat
  path : Path
  query : Option (List Char)
  fragment : Option (List Char)
deriving DecidableEq

namespace Url

def isPrintable (c : Char) : Bool := 0x20 ≤ c.toNat && c.toNat < 0x7F

def plainInFragment (c : Char) : Bool := isPrintable c && !(" \"<>`".toList.contains c)

def plainInPath (c : Char) : Bool := isPrintable c && !(" \"<>`#?^\x7b\x7d".toList.contains c)

/-- The query of a special scheme also encodes the apostrophe. -/
def plainInQuery (special : Bool) (c : Char) : Bool :=
  isPrintable c && !(" \"#<>".toList.contains c) && !(special && c == '\'')

def specialSchemes : List (List Char × Nat) :=
  [("http".toList, 80), ("https".toList, 443), ("ws".toList, 80), ("wss".toList, 443),
    ("ftp".toList, 21)]

def isSpecial (scheme : List Char) : Bool := (specialSchemes.lookup scheme).isSome

def fileScheme : List Char := "file".toList

def isSchemeChar (c : Char) : Bool := c.isAlphanum || c == '+' || c == '-' || c == '.'

def schemePart? (cs : List Char) : Option (List Char × List Char) :=
  let name := cs.takeWhile isSchemeChar
  match name, cs.drop name.length with
  | first :: _, ':' :: rest => if first.isAlpha then some (name.map Char.toLower, rest) else none
  | _, _ => none

/-- Whether an address ends its host and port before a character. A backslash counts as a slash
where the scheme is special. -/
def endsAuthority (special : Bool) (c : Char) : Bool :=
  c == '/' || c == '?' || c == '#' || (special && c == '\\')

def afterUser (authority : List Char) : List Char :=
  (authority.reverse.takeWhile (· != '@')).reverse

/-- The host at the start of an authority and the text from the colon of its port. -/
def hostAndPort : (bracketed : Bool) → List Char → List Char × List Char
  | _, [] => ([], [])
  | bracketed, c :: rest =>
    if c = ':' ∧ !bracketed then ([], c :: rest)
    else
      let (host, port) := hostAndPort ((bracketed || c == '[') && c != ']') rest
      (c :: host, port)

def isForbiddenInHost (c : Char) : Bool :=
  c.toNat ≤ 0x20 || c.toNat == 0x7F || "#/:<>?@[\\]^|%".toList.contains c

/-- A part of a version 4 address, in base 16 after `0x`, in base 8 after `0`, else in base 10. -/
def hostNumber? (cs : List Char) : Option Nat :=
  match cs with
  | '0' :: x :: digits =>
    if x = 'x' ∨ x = 'X' then
      if digits.all fun c => (Text.hexDigit? c).isSome then some (hexNumber digits) else none
    else if (x :: digits).all fun c => '0' ≤ c && c ≤ '7' then
      some (Nat.ofDigitChars 8 (x :: digits) 0)
    else none
  | digits => Text.natural? digits

/-- The labels of a host. A point at its end does not count. -/
def hostLabels (host : List Char) : List (List Char) :=
  let labels := Text.pieces '.' host
  if 1 < labels.length ∧ labels.getLast? = some [] then labels.dropLast else labels

def endsInNumber (host : List Char) : Bool :=
  match (hostLabels host).getLast? with
  | none => false
  | some label => !label.isEmpty && (label.all Char.isDigit || (hostNumber? label).isSome)

/-- The value of a version 4 address, whose last part fills the octets that are left. -/
def hostValue? : List Nat → (room : Nat) → Option Nat
  | [], _ => none
  | _, 0 => none
  | [last], room => if last < Nat.pow 256 room then some last else none
  | part :: parts, room + 1 =>
    if part < 256 then (hostValue? parts room).map (part * Nat.pow 256 room + ·) else none

def numericHost? (host : List Char) : Option (List Char) := do
  let parts ← (hostLabels host).mapM hostNumber?
  let value ← hostValue? parts 4
  some (writeNumbers 10 '.'
    [value / 0x1000000, value / 0x10000 % 256, value / 0x100 % 256, value % 256])

def bracketedHost? (cs : List Char) : Option (List Char) := do
  let (groups, rest) ← eightGroups cs
  if rest = [']'] then some ('[' :: writeGroups groups ++ [']']) else none

/-- The normal form of the host of a special scheme. -/
def specialHost? (form : HostForm) (cs : List Char) : Option (List Char) :=
  match cs with
  | '[' :: rest => bracketedHost? rest
  | _ => do
    let host ← form (← decodedText? (percentDecoded cs)).toList
    if host.isEmpty ∨ host.any isForbiddenInHost then none
    else if endsInNumber host then numericHost? host
    else some host

/-- The normal form of the host of any other scheme. -/
def otherHost? (cs : List Char) : Option (List Char) :=
  match cs with
  | '[' :: rest => bracketedHost? rest
  | _ =>
    if cs.any fun c => c == '\x00' || " #/:<>?@[\\]^|".toList.contains c then none
    else some (percentText isPrintable cs)

def portPart? (usual : Option Nat) (cs : List Char) : Option (Option Nat) :=
  match cs with
  | [] => some none
  | _ :: [] => some none
  | _ :: digits => do
    let port ← Text.natural? digits
    if UInt16.size ≤ port then none
    else if usual = some port then some none
    else some (some port)

/-- Segments of a path between slashes. A backslash counts where the scheme is special. -/
def splitPath (special : Bool) (cs : List Char) : List (List Char) :=
  Text.pieces '/' (cs.map fun c => if special && c == '\\' then '/' else c)

def dotted (segment : List Char) : List Char :=
  match segment with
  | '%' :: '2' :: e :: rest =>
    if e = 'e' ∨ e = 'E' then '.' :: dotted rest else '%' :: '2' :: e :: dotted rest
  | c :: rest => c :: dotted rest
  | [] => []

/-- Segments taken in turn after the reversed segments `before`. One point stands for nothing, two
for the way back, and at the end both leave an empty segment. -/
def normalSegments (before : List (List Char)) : List (List Char) → List (List Char)
  | [] => before.reverse
  | segment :: rest =>
    if dotted segment = ['.', '.'] then
      normalSegments (if rest.isEmpty then [] :: before.drop 1 else before.drop 1) rest
    else if dotted segment = ['.'] then
      normalSegments (if rest.isEmpty then [] :: before else before) rest
    else normalSegments (percentText plainInPath segment :: before) rest

/-- The path of an address with a host, whose first slash may be missing. -/
def pathAfterHost (special : Bool) (cs : List Char) : Path :=
  let segments := splitPath special cs
  match segments with
  | [] :: first :: rest => .segments (normalSegments [] (first :: rest))
  | [[]] => if special then .segments [[]] else .segments []
  | segments => .segments (normalSegments [] segments)

def fragmentPart (cs : List Char) : Option (List Char) :=
  match cs with
  | '#' :: rest => some (percentText plainInFragment rest)
  | _ => none

def queryPart (special : Bool) (cs : List Char) : Option (List Char) :=
  match cs with
  | '?' :: rest => some (percentText (plainInQuery special) (rest.takeWhile (· != '#')))
  | _ => none

/-- An address from its scheme and host and the text from its path. -/
def withRest (special : Bool) (scheme : List Char) (host : Option (List Char))
    (port : Option Nat) (path : List Char → Path) (cs : List Char) : Url :=
  let inPath := cs.takeWhile fun c => c != '?' && c != '#'
  let rest := cs.drop inPath.length
  let query := queryPart special rest
  ⟨scheme, host, port, path inPath, query, fragmentPart (rest.dropWhile (· != '#'))⟩

def withAuthority? (form : HostForm) (special : Bool) (scheme cs : List Char) : Option Url := do
  let authority := cs.takeWhile (!endsAuthority special ·)
  let (written, afterHost) := hostAndPort false (afterUser authority)
  let port ← portPart? (specialSchemes.lookup scheme) afterHost
  let host ← if special then specialHost? form written else otherHost? written
  some (withRest special scheme (if host.isEmpty then none else some host) port
    (pathAfterHost special) (cs.drop authority.length))

def withoutPort? (form : HostForm) (cs : List Char) : Option Url :=
  match cs.map fun c => if c == '\\' then '/' else c with
  | '/' :: '/' :: rest => do
    let written := rest.takeWhile (!endsAuthority true ·)
    let host ← if written.isEmpty then some [] else specialHost? form written
    let host := if host.isEmpty ∨ host = "localhost".toList then none else some host
    some (withRest true fileScheme host none (pathAfterHost true) (rest.drop written.length))
  | rest => some (withRest true fileScheme none none (pathAfterHost true) rest)

/-- The address of a text, if it is absolute. -/
def read? (form : HostForm) (s : String) : Option Url := do
  let isOuter (c : Char) := c.toNat ≤ 0x20
  let trimmed := ((s.toList.dropWhile isOuter).reverse.dropWhile isOuter).reverse
  let (scheme, rest) ← schemePart? (trimmed.filter fun c => c != '\t' && c != '\n' && c != '\r')
  if isSpecial scheme then
    withAuthority? form true scheme (rest.dropWhile fun c => c == '/' || c == '\\')
  else if scheme = fileScheme then withoutPort? form rest
  else match rest with
    | '/' :: '/' :: rest => withAuthority? form false scheme rest
    | '/' :: _ => some (withRest false scheme none none (pathAfterHost false) rest)
    | _ =>
      some (withRest false scheme none none (fun cs => .plain (percentText isPrintable cs)) rest)

def withForm (url : Url) (fields : List (String × String)) : Url :=
  let form := Form.write fields
  { url with query := some (match url.query with
      | none => form
      | some [] => form
      | some query => query ++ '&' :: form) }

def writePort : Option Nat → List Char
  | none => []
  | some port => ':' :: Nat.toDigits 10 port

/-- What stands between the scheme and the path. Without a host, a path that starts with two
slashes is kept apart from it. -/
def writeHost (url : Url) : List Char :=
  match url.host, url.path with
  | some host, _ => '/' :: '/' :: host ++ writePort url.port
  | none, .segments ([] :: _ :: _) => ['/', '.']
  | none, _ => if url.scheme = fileScheme then ['/', '/'] else []

def writePath : Path → List Char
  | .segments parts => parts.flatMap ('/' :: ·)
  | .plain text => text

def writeMarked (mark : Char) : Option (List Char) → List Char
  | none => []
  | some text => mark :: text

def text (url : Url) : String :=
  String.ofList (url.scheme ++ ':' :: (url.writeHost ++ writePath url.path ++
    writeMarked '?' url.query ++ writeMarked '#' url.fragment))

end Url

end QuoteGateway.Net
