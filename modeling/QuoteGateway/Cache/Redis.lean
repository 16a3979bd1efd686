import QuoteGateway.Cache.Call
import QuoteGateway.Dialogue
import QuoteGateway.Failure

/-!
# The cache on a server

Each call is one command to a server that keeps texts with expiry times in milliseconds. Keys may
be set apart by a prefix and a colon. An empty text counts as no entry, and a lifetime below a
millisecond as one millisecond.
-/

namespace QuoteGateway.Cache.Redis

inductive Command where
  | get (key : String)
  | setFor (key : String) (millis : Nat) (value : String)
  | del (key : String)
  | exists (key : String)
  | remaining (key : String)
  | ping
deriving DecidableEq

def Command.words : Command → List String
  | .get key => ["GET", key]
  | .setFor key millis value => ["PSETEX", key, toString millis, value]
  | .del key => ["DEL", key]
  | .exists key => ["EXISTS", key]
  | .remaining key => ["PTTL", key]
  | .ping => ["PING"]

inductive Reply where
  | nil
  | bulk (text : String)
  | integer (i : Int)
  | status (text : String)
  | error (line : String)
  | array (items : List Reply)

mutual

def Reply.describe : Reply → String
  | .nil => "nil"
  | .bulk text => "bulk-string('" ++ Text.quoted text ++ "')"
  | .integer i => "int(" ++ String.ofList (Text.integerNumeral i) ++ ")"
  | .status text => if text = "OK" then "ok" else "simple-string(" ++ Text.quoted text ++ ")"
  | .error line => "error(" ++ Text.quoted line ++ ")"
  | .array items => "array([" ++ ", ".intercalate (Reply.describeAll items) ++ "])"

def Reply.describeAll : List Reply → List String
  | [] => []
  | reply :: replies => reply.describe :: Reply.describeAll replies

end

inductive Mismatch where
  | notText
  | notNumber
  | notNumeral
  | notFlag
  | notFlagStatus
deriving DecidableEq

def Mismatch.reason : Mismatch → String
  | .notText => "Response type not string compatible."
  | .notNumber => "Response type not convertible to numeric."
  | .notNumeral => "Could not convert from string."
  | .notFlag => "Response type not bool compatible."
  | .notFlagStatus => "Response status not valid boolean"

inductive Fault where
  | mismatch (cause : Mismatch) (reply : Reply)
  | server (line : String)

/-- The codes of server errors that have a kind of their own, with its name. -/
def serverKinds : List (String × String) := [
  ("ERR", "ResponseError"), ("EXECABORT", "ExecAbortError"), ("LOADING", "BusyLoadingError"),
  ("NOSCRIPT", "NoScriptError"), ("MOVED", "Moved"), ("ASK", "Ask"), ("TRYAGAIN", "TryAgain"),
  ("CLUSTERDOWN", "ClusterDown"), ("CROSSSLOT", "CrossSlot"), ("MASTERDOWN", "MasterDown"),
  ("READONLY", "ReadOnly"), ("NOTBUSY", "NotBusy")]

/-- The message of an error line of the server: a code and perhaps a text. -/
def serverMessage (line : String) : String :=
  let code := String.ofList (line.toList.takeWhile (· != ' '))
  let detail := match line.toList.dropWhile (· != ' ') with
    | [] => none
    | _ :: rest => some (String.ofList rest)
  match serverKinds.lookup code, detail with
  | some kind, some detail => "An error was signalled by the server - " ++ kind ++ ": " ++ detail
  | some kind, none => "An error was signalled by the server- " ++ kind
  | none, some detail => code ++ ": " ++ detail
  | none, none => code ++ ": Unknown extension error encountered"

def Fault.message : Fault → String
  | .mismatch cause reply =>
    "Response was of incompatible type - TypeError: " ++ Text.quoted cause.reason ++
      " (response was " ++ reply.describe ++ ")"
  | .server line => serverMessage line

def accepted (reply : Reply) : Except Fault Reply :=
  match reply with
  | .error line => .error (.server line)
  | reply => .ok reply

def asText (reply : Reply) : Except Fault String :=
  match reply with
  | .error line => .error (.server line)
  | .bulk text => .ok text
  | .status text => .ok text
  | .integer i => .ok (String.ofList (Text.integerNumeral i))
  | reply => .error (.mismatch .notText reply)

def asOptionalText (reply : Reply) : Except Fault (Option String) :=
  match reply with
  | .nil => .ok none
  | reply => (asText reply).map some

/-- A reply read as a number with a sign, of `size` numbers in all. -/
def asNumber (size : Nat) (reply : Reply) : Except Fault Int :=
  let numeral (text : String) : Except Fault Int :=
    match Text.integer? text.toList with
    | some i =>
      if -((size / 2 : Nat) : Int) ≤ i ∧ i < (size / 2 : Nat) then .ok i
      else .error (.mismatch .notNumeral reply)
    | none => .error (.mismatch .notNumeral reply)
  match reply with
  | .error line => .error (.server line)
  | .integer i => .ok (i.bmod size)
  | .bulk text => numeral text
  | .status text => if text = "OK" then .error (.mismatch .notNumber reply) else numeral text
  | reply => .error (.mismatch .notNumber reply)

def asFlag (reply : Reply) : Except Fault Bool :=
  match reply with
  | .error line => .error (.server line)
  | .nil => .ok false
  | .integer i => .ok (i != 0)
  | .status text =>
    if text = "OK" ∨ text = "1" then .ok true
    else if text = "0" then .ok false
    else .error (.mismatch .notFlagStatus reply)
  | .bulk text =>
    if text = "1" then .ok true
    else if text = "0" then .ok false
    else .error (.mismatch .notFlag reply)
  | reply => .error (.mismatch .notFlag reply)

def serverKey (space : Option String) (key : String) : String :=
  match space with
  | none => key
  | some space => space ++ ":" ++ key

def longestExpiry : Nat := UInt64.size - 1

/-- A lifetime in whole milliseconds, one at least. -/
def expiryMillis (lifetime : Duration) : Nat := max 1 (min longestExpiry lifetime.millis)

def command (space : Option String) : Call → Command
  | .read key => .get (serverKey space key)
  | .write key value lifetime => .setFor (serverKey space key) (expiryMillis lifetime) value
  | .delete key => .del (serverKey space key)
  | .contains key => .exists (serverKey space key)
  | .remaining key => .remaining (serverKey space key)
  | .ping => .ping

def result : (call : Call) → Reply → Except Fault call.Result
  | .read _, reply => (asOptionalText reply).map fun text => text.filter (!·.isEmpty)
  | .write .., reply => (accepted reply).map fun _ => ()
  | .delete _, reply => (asNumber UInt32.size reply).map fun (i : Int) => decide (0 < i)
  | .contains _, reply => asFlag reply
  | .remaining _, reply => (asNumber UInt64.size reply).map fun (i : Int) =>
    if i < 0 then none else some (Duration.ofMillis i.toNat)
  | .ping, reply => (asText reply).map fun _ => ()

def intent : Call → String
  | .read key => "Failed to get key '" ++ key ++ "': "
  | .write key _ _ => "Failed to set key '" ++ key ++ "': "
  | .delete key => "Failed to delete key '" ++ key ++ "': "
  | .contains key => "Failed to check existence of key '" ++ key ++ "': "
  | .remaining key => "Failed to get TTL for key '" ++ key ++ "': "
  | .ping => "Redis ping failed: "

def failure (call : Call) (fault : Fault) : Failure :=
  .reported .cache (intent call ++ fault.message)

def signature : Signature where
  Call := Command
  Answer _ := Reply
  Event := Empty

def perform (space : Option String) (call : Call) :
    Dialogue signature (Except Failure call.Result) :=
  .ask (command space call) fun reply => .done ((result call reply).mapError (failure call))

end QuoteGateway.Cache.Redis
