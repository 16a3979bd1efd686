import QuoteGateway.Duration
import QuoteGateway.Json.Stop
import QuoteGateway.Pair

/-!
# Failures

Why a request or a cycle failed. Each failure belongs to a category, which heads its message, and
callers are told one of five kinds. A collaborator (cache, key store, source of rates) reports a
failure in its own words.
-/

namespace QuoteGateway

inductive Category where
  | notAuthorized
  | notFound
  | tooManyRequests
  | validation
  | cache
  | storage
  | provider (name : String)
  | configuration
  | internal
deriving DecidableEq

/-- What callers are told about a failure. Those of collaborators are all internal. -/
inductive Kind where
  | notAuthorized
  | notFound
  | tooManyRequests
  | invalidParameter
  | internal
deriving DecidableEq

inductive Failure where
  | invalidPair (text : String)
  | noPairs
  | missingApiKey
  | unknownApiKey (id : String)
  | quotaExceeded (id : String) (limit : UInt64) (windowSeconds : Nat)
  | noRate (pair : CurrencyPair)
  | unreadableEntry (key : String) (cause : Json.ReadError)
  | rateNotRead (pair : CurrencyPair) (cause : Failure)
  | deadlinePassed (deadline : Duration)
  | reported (category : Category) (detail : String)

def Category.heading : Category → String
  | .notAuthorized => "Not authorized: "
  | .notFound => "Not found: "
  | .tooManyRequests => "Too many requests: "
  | .validation => "Validation error: "
  | .cache => "Cache error: "
  | .storage => "Storage error: "
  | .provider name => "Provider error: " ++ name ++ " - "
  | .configuration => "Configuration error: "
  | .internal => "Internal error: "

def Category.kind : Category → Kind
  | .notAuthorized => .notAuthorized
  | .notFound => .notFound
  | .tooManyRequests => .tooManyRequests
  | .validation => .invalidParameter
  | .cache | .storage | .provider _ | .configuration | .internal => .internal

def Kind.label : Kind → String
  | .notAuthorized => "not_authorized"
  | .notFound => "not_found"
  | .tooManyRequests => "too_many_requests"
  | .invalidParameter => "invalid_parameter"
  | .internal => "internal"

namespace Failure

def category : Failure → Category
  | .invalidPair _ | .noPairs => .validation
  | .missingApiKey => .notAuthorized
  | .unknownApiKey _ | .noRate _ => .notFound
  | .quotaExceeded .. => .tooManyRequests
  | .unreadableEntry .. | .rateNotRead .. => .cache
  | .deadlinePassed _ => .internal
  | .reported category _ => category

def kind (failure : Failure) : Kind := failure.category.kind

def message : Failure → String
  | .invalidPair text =>
    Category.validation.heading ++ "Invalid currency pair '" ++ text ++
      "'. Expected FROM_TO, e.g. USD_JPY"
  | .noPairs => Category.validation.heading ++ "At least one currency pair is required"
  | .missingApiKey => Category.notAuthorized.heading ++ "API key is required"
  | .unknownApiKey id => Category.notFound.heading ++ "API key '" ++ id ++ "' not found"
  | .quotaExceeded id limit windowSeconds =>
    Category.tooManyRequests.heading ++ "API key '" ++ id ++ "' exceeded " ++
      toString limit.toNat ++ " requests per " ++ toString windowSeconds ++ "s"
  | .noRate pair => Category.notFound.heading ++ "No rate available for " ++ pair.text
  | .unreadableEntry key cause =>
    Category.cache.heading ++ "Failed to deserialize cache value for '" ++ key ++ "': " ++
      cause.message
  | .rateNotRead pair cause =>
    Category.cache.heading ++ "Failed to read rate for " ++ pair.text ++ ": " ++ cause.message
  | .deadlinePassed deadline =>
    Category.internal.heading ++ "Quote timed out after " ++ toString deadline.millis ++ "ms"
  | .reported category detail => category.heading ++ detail

end Failure

/-- The label of a finished request: the kind of its failure, or success. -/
def outcomeLabel {α : Type} : Except Failure α → String
  | .ok _ => "success"
  | .error failure => failure.kind.label

namespace CurrencyPair

def parse (s : String) : Except Failure CurrencyPair :=
  match parse? s with
  | some pair => .ok pair
  | none => .error (.invalidPair s)

/-- The pairs of a list, in order and with repetitions. The first bad item is the failure. -/
def parseList (s : String) : Except Failure (List CurrencyPair) := do
  let pairs ← (listItems s).mapM parse
  if pairs.isEmpty then .error .noPairs else .ok pairs

end CurrencyPair

end QuoteGateway
