import QuoteGateway.Calendar.UpdatedStamp
import QuoteGateway.Dialogue
import QuoteGateway.Json.Reader
import QuoteGateway.Net.Punycode
import QuoteGateway.Net.Status
import QuoteGateway.Net.Url
import QuoteGateway.Rate

/-!
# The feed of rates

Fetches the rates of base currencies from a service on the network, one request for each base. A
base yields a rate for every currency of the reply, in the order of their names. The first request
that fails ends the fetch.
-/

namespace QuoteGateway

structure Feed where
  baseUrl : String
  apiKey : String
  timeout : Duration
deriving DecidableEq

namespace Feed

def provider : String := "fastforex"

def standardUrl : String := "https://api.fastforex.io"

def standardTimeout : Duration := .ofSeconds 10

def acceptedFormat : String := "application/json"

def supportedBases : List String := [
  "AED", "ARS", "AUD", "BGN", "BRL", "CAD", "CHF", "CLP", "CNY", "COP", "CZK", "DKK", "EGP",
  "EUR", "GBP", "HKD", "HUF", "IDR", "ILS", "INR", "ISK", "JPY", "KRW", "KWD", "MXN", "MYR",
  "NOK", "NZD", "PEN", "PHP", "PKR", "PLN", "QAR", "RON", "SAR", "SEK", "SGD", "THB", "TRY",
  "TWD", "UAH", "USD", "VND", "ZAR"]

/-- The bases to fetch: those of the list that the service takes, or all where the list is empty. -/
def basesToFetch (allowed : List String) : List String :=
  if allowed.isEmpty then supportedBases
  else (allowed.map Text.uppercase).filter supportedBases.contains

inductive Fault where
  | noAddress
  | wrongScheme (url : Net.Url)
  | noReply (url : Net.Url)
  | errorStatus (code : Nat) (base : String)
  | unreadableReply (base : String)
  | badStamp (updated : String) (cause : Calendar.StampError)

def Fault.message : Fault → String
  | .noAddress => "Request failed: builder error"
  | .wrongScheme url => "Request failed: builder error for url (" ++ url.text ++ ")"
  | .noReply url => "Request failed: error sending request for url (" ++ url.text ++ ")"
  | .errorStatus code base => "HTTP " ++ Net.statusText code ++ " fetching rates for " ++ base
  | .unreadableReply base => "Invalid response for " ++ base ++ ": error decoding response body"
  | .badStamp updated cause => "Invalid timestamp '" ++ updated ++ "': " ++ cause.message

def Fault.failure (fault : Fault) : Failure := .reported (.provider provider) fault.message

inductive Reply where
  | missing
  | answered (code : Nat) (body : List UInt8)
deriving DecidableEq

/-- What operators are told: a base was answered with the code of an error. -/
structure ErrorReply where
  code : Nat
  base : String
deriving DecidableEq

def signature : Signature where
  Call := Net.Url
  Answer _ := Reply
  Event := ErrorReply

abbrev Fetch (α : Type) := ExceptT Fault (Dialogue signature) α

def address (hosts : Net.HostForm) (feed : Feed) (base : String) : Except Fault Net.Url :=
  let root := (feed.baseUrl.toList.reverse.dropWhile (· == '/')).reverse
  match Net.Url.read? hosts (String.ofList root ++ "/fetch-all") with
  | none => .error .noAddress
  | some url =>
    if url.host.isNone then .error (.wrongScheme url)
    else
      let url := url.withForm [("from", base), ("api_key", feed.apiKey)]
      if url.scheme = "http".toList ∨ url.scheme = "https".toList then .ok url
      else .error (.wrongScheme url)

structure Body where
  results : List (String × Number.Binary64)
  updated : String
deriving DecidableEq

/-- The base that a reply names is read, but the one asked for counts. -/
def Body.shape : Json.RecordShape Body where
  name := "FetchAllResponse"
  draft := ⟨[], ""⟩
  fields := [
    .of "base" .defaulted Json.text fun _ draft => draft,
    .of "results" .defaulted (Json.dictionary Json.real) fun results draft =>
      { draft with results },
    .of "updated" .required Json.text fun updated draft => { draft with updated }]

def insertResult (name : String) (rate : Number.Binary64) :
    List (String × Number.Binary64) → List (String × Number.Binary64)
  | [] => [(name, rate)]
  | (other, old) :: rest =>
    if name = other then (name, rate) :: rest
    else if name < other then (name, rate) :: (other, old) :: rest
    else (other, old) :: insertResult name rate rest

/-- One rate for each name, in the order of names. The last rate of a name counts. -/
def sortedResults (results : List (String × Number.Binary64)) :
    List (String × Number.Binary64) :=
  results.foldl (fun sorted result => insertResult result.1 result.2 sorted) []

/-- What stands for an octet of a body that belongs to no character: no value and no part of a text
that is read, but harmless within a text that is skipped. -/
def strayOctet : List Char := ['?', '\\', 'u', 'd', 'c', '0', '0']

/-- The text of a body. Octets that belong to no character do no harm where they are skipped. -/
def bodyText (octets : List UInt8) : String :=
  (Net.decodedText? octets).getD (String.ofList (Net.mendedFrom strayOctet ⟨octets.toArray⟩ 0))

def readStamp (updated : String) : Except Fault Int64 :=
  match Calendar.readUpdatedStamp updated with
  | .error cause => .error (.badStamp updated cause)
  | .ok seconds => .ok (Int64.ofInt seconds)

def readBody (base : String) (octets : List UInt8) : Except Fault (List FeedRate) := do
  match Json.readText (Json.record Body.shape) (bodyText octets) with
  | .error _ => .error (.unreadableReply base)
  | .ok body =>
    let timestamp ← readStamp body.updated
    .ok ((sortedResults body.results).map fun result => ⟨base, result.1, result.2, timestamp⟩)

def fetchBase (hosts : Net.HostForm) (feed : Feed) (base : String) : Fetch (List FeedRate) := do
  let url ← liftExcept (feed.address hosts base)
  match ← ExceptT.lift (Dialogue.call (S := signature) url) with
  | .missing => throw (.noReply url)
  | .answered code body =>
    if Net.isSuccess code then liftExcept (readBody base body)
    else
      ExceptT.lift (Dialogue.report (S := signature) ⟨code, base⟩)
      throw (.errorStatus code base)
where
  /-- A result that needs no request. -/
  liftExcept {α : Type} (result : Except Fault α) : Fetch α := ExceptT.mk (.done result)

def fetchEach (hosts : Net.HostForm) (feed : Feed) : List String → Fetch (List FeedRate)
  | [] => return []
  | base :: bases => do
    let rates ← feed.fetchBase hosts base
    let more ← feed.fetchEach hosts bases
    return rates ++ more

/-- Fetches the rates of all bases that are allowed, where hosts have these forms. -/
def fetchAllBy (hosts : Net.HostForm) (feed : Feed) (allowed : List String) :
    Fetch (List FeedRate) :=
  feed.fetchEach hosts (basesToFetch allowed)

def fetchAll (feed : Feed) (allowed : List String) : Fetch (List FeedRate) :=
  feed.fetchAllBy Net.Punycode.hostForm allowed

end Feed

end QuoteGateway
