/-!
# The command line

Two commands: one serves a quote, the other keeps the rates up to date. Arguments are taken from
left to right, and the first that cannot be taken decides what is wrong.
-/

namespace QuoteGateway.CommandLine

inductive Command where
  | update
  | quote (apiKey pairs : String)
deriving DecidableEq

inductive Setting where
  | apiKey
  | pairs
deriving DecidableEq

def Setting.name : Setting → String
  | .apiKey => "api-key"
  | .pairs => "pairs"

def Setting.usage : Setting → String
  | .apiKey => "--api-key <API_KEY>"
  | .pairs => "--pairs <PAIRS>"

/-- What a page of help is about. -/
inductive Topic where
  | program
  | update
  | quote
  | help
deriving DecidableEq

inductive Refusal where
  | helpAsked (topic : Topic)
  | versionAsked
  | nothingGiven
  | unknownCommand (name : String)
  | unknownArgument (text : String)
  | surplusValue (value flag : String)
  | missingValue (setting : Setting)
  | repeated (setting : Setting)
  | missing (settings : List Setting)
deriving DecidableEq

inductive Shape where
  /-- Two hyphens, after which no argument is an option. -/
  | separator
  /-- A name after two hyphens, perhaps with a value after an equals sign. -/
  | long (name : String) (value : Option String)
  /-- Letters after one hyphen. -/
  | short (letters : List Char)
  | plain
deriving DecidableEq

def attached : List Char → Option String
  | '=' :: value => some (String.ofList value)
  | _ => none

def shape (argument : String) : Shape :=
  match argument.toList with
  | ['-', '-'] => .separator
  | '-' :: '-' :: rest =>
    .long (String.ofList (rest.takeWhile (· != '='))) (attached (rest.dropWhile (· != '=')))
  | '-' :: letter :: letters => .short (letter :: letters)
  | _ => .plain

/-- A flag that ends the scan: help, or the version where there is one. -/
def longFlag (topic : Topic) (hasVersion : Bool) (name : String) (value : Option String) :
    Refusal :=
  let asked : Option Refusal :=
    if name = "help" then some (.helpAsked topic)
    else if hasVersion ∧ name = "version" then some .versionAsked
    else none
  match asked, value with
  | none, _ => .unknownArgument ("--" ++ name)
  | some refusal, none => refusal
  | some _, some value => .surplusValue value ("--" ++ name)

def shortFlag (topic : Topic) (hasVersion : Bool) (letters : List Char) : Refusal :=
  match letters with
  | 'h' :: _ => .helpAsked topic
  | letter :: _ =>
    if hasVersion ∧ letter = 'V' then .versionAsked
    else .unknownArgument (String.ofList ['-', letter])
  | [] => .unknownArgument "-"

def scanUpdate : (separated : Bool) → List String → Except Refusal Command
  | _, [] => .ok .update
  | separated, argument :: arguments =>
    if separated then .error (.unknownArgument argument)
    else match shape argument with
      | .separator => scanUpdate true arguments
      | .long name value => .error (longFlag .update false name value)
      | .short letters => .error (shortFlag .update false letters)
      | .plain => .error (.unknownArgument argument)

/-- What the scan has found: the values of options, and an option with what follows it so far. -/
structure Found where
  apiKey : Option String
  pairs : Option String
  pending : Option (Setting × Option String)
deriving DecidableEq

namespace Found

def none : Found := ⟨.none, .none, .none⟩

def value? (found : Found) : Setting → Option String
  | .apiKey => found.apiKey
  | .pairs => found.pairs

def put (found : Found) (setting : Setting) (value : String) : Except Refusal Found :=
  if (found.value? setting).isSome then .error (.repeated setting)
  else match setting with
    | .apiKey => .ok { found with apiKey := some value }
    | .pairs => .ok { found with pairs := some value }

/-- The option that is waiting gets its value. -/
def settle (found : Found) : Except Refusal Found :=
  match found.pending with
  | .none => .ok found
  | some (setting, some value) => Found.put { found with pending := .none } setting value
  | some (setting, .none) => .error (.missingValue setting)

def command (found : Found) : Except Refusal Command :=
  match found.apiKey, found.pairs with
  | some apiKey, some pairs => .ok (.quote apiKey pairs)
  | .none, some _ => .error (.missing [.apiKey])
  | some _, .none => .error (.missing [.pairs])
  | .none, .none => .error (.missing [.apiKey, .pairs])

end Found

def settingNamed? (name : String) : Option Setting :=
  [Setting.apiKey, Setting.pairs].find? (·.name == name)

def scanQuote : (separated : Bool) → Found → List String → Except Refusal Command
  | _, found, [] => do (← found.settle).command
  | separated, found, argument :: arguments =>
    if separated then .error (.unknownArgument argument)
    else match shape argument with
      | .separator => scanQuote true found arguments
      | .long name value =>
        match settingNamed? name, value with
        | some setting, some value => do
          scanQuote false (← (← found.settle).put setting value) arguments
        | some setting, none => do
          scanQuote false { ← found.settle with pending := some (setting, none) } arguments
        | none, value => do
          let refusal := longFlag .quote false name value
          if refusal = .helpAsked .quote then let _ ← found.settle
          .error refusal
      | .short letters => do
        let refusal := shortFlag .quote false letters
        if refusal = .helpAsked .quote then let _ ← found.settle
        .error refusal
      | .plain =>
        match found.pending with
        | some (setting, none) =>
          scanQuote false { found with pending := some (setting, some argument) } arguments
        | _ => .error (.unknownArgument argument)

def topicNamed? (name : String) : Option Topic :=
  [("update", Topic.update), ("quote", Topic.quote), ("help", Topic.help)].lookup name

def helpFor : List String → Refusal
  | [] => .helpAsked .program
  | name :: rest =>
    match topicNamed? name, rest with
    | none, _ => .unknownCommand name
    | some topic, [] => .helpAsked topic
    | some _, next :: _ => .unknownCommand next

/-- The command of a list of arguments, the name of the program not among them. -/
def parse (arguments : List String) : Except Refusal Command :=
  match arguments with
  | [] => .error .nothingGiven
  | "update" :: rest => scanUpdate false rest
  | "quote" :: rest => scanQuote false .none rest
  | "help" :: rest => .error (helpFor rest)
  | argument :: rest =>
    match shape argument, rest with
    | .separator, [] => .error .nothingGiven
    | .separator, next :: _ =>
      if (topicNamed? next).isSome then .error (.unknownArgument next)
      else .error (.unknownCommand next)
    | .long name value, _ => .error (longFlag .program true name value)
    | .short letters, _ => .error (shortFlag .program true letters)
    | .plain, _ => .error (.unknownCommand argument)

def Refusal.exitCode : Refusal → Nat
  | .helpAsked _ => 0
  | .versionAsked => 0
  | _ => 2

def programName : String := "fxnow"

def versionText : String := programName ++ " 0.1.0"

def Topic.page : Topic → List String
  | .program => [
    "fxnow - rate-limited currency quotes served from a cache",
    "",
    "Usage: fxnow <COMMAND>",
    "",
    "Commands:",
    "  update  Refresh the rate cache from the upstream source on a timer",
    "  quote   Read quotes for a list of currency pairs",
    "  help    Print this message or the help of the given subcommand(s)",
    "",
    "Options:",
    "  -h, --help     Print help",
    "  -V, --version  Print version"]
  | .update => [
    "Refresh the rate cache from the upstream source on a timer",
    "",
    "Usage: fxnow update",
    "",
    "Options:",
    "  -h, --help  Print help"]
  | .quote => [
    "Read quotes for a list of currency pairs",
    "",
    "Usage: fxnow quote --api-key <API_KEY> --pairs <PAIRS>",
    "",
    "Options:",
    "      --api-key <API_KEY>  API key to charge the read against",
    "      --pairs <PAIRS>      Comma separated pairs, e.g. USD_JPY,EUR_USD",
    "  -h, --help               Print help"]
  | .help => [
    "Print this message or the help of the given subcommand(s)",
    "",
    "Usage: fxnow help [COMMAND]...",
    "",
    "Arguments:",
    "  [COMMAND]...  Print help for the subcommand(s)"]

def Refusal.headline : Refusal → String
  | .helpAsked topic => topic.page.headD ""
  | .versionAsked => versionText
  | .nothingGiven => Topic.program.page.headD ""
  | .unknownCommand name => "error: unrecognized subcommand '" ++ name ++ "'"
  | .unknownArgument text => "error: unexpected argument '" ++ text ++ "' found"
  | .surplusValue value flag =>
    "error: unexpected value '" ++ value ++ "' for '" ++ flag ++ "' found; no more were expected"
  | .missingValue setting =>
    "error: a value is required for '" ++ setting.usage ++ "' but none was supplied"
  | .repeated setting =>
    "error: the argument '" ++ setting.usage ++ "' cannot be used multiple times"
  | .missing _ => "error: the following required arguments were not provided:"

def Refusal.lines : Refusal → List String
  | .helpAsked topic => topic.page
  | .versionAsked => [versionText]
  | .nothingGiven => Topic.program.page
  | .missing settings =>
    (Refusal.missing settings).headline :: settings.map (fun setting => "  " ++ setting.usage) ++
      advice
  | refusal => refusal.headline :: advice
where
  advice : List String := ["", "For more information, try '--help'."]

end QuoteGateway.CommandLine
