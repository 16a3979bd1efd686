import QuoteGateway.Failure
import QuoteGateway.Json.Document

/-!
# Rates

A published rate, a rate that answers a request, and a rate as the source reports it, with their
JSON forms.
-/

namespace QuoteGateway

open Number (Binary64)

/-- A rate as it is published. The timestamp is the unix second at which the source reported it. -/
structure CachedRate where
  rate : Binary64
  timestamp : Int64
deriving DecidableEq

structure RateResult where
  pair : CurrencyPair
  rate : Binary64
  timestamp : Int64
deriving DecidableEq

structure QuoteResponse where
  rates : List RateResult
deriving DecidableEq

structure FeedRate where
  base : String
  target : String
  rate : Binary64
  timestamp : Int64
deriving DecidableEq

def FeedRate.cached (r : FeedRate) : CachedRate := ⟨r.rate, r.timestamp⟩

def RateResult.ofCached (pair : CurrencyPair) (cached : CachedRate) : RateResult :=
  ⟨pair, cached.rate, cached.timestamp⟩

def CurrencyPair.reader : Json.Reader CurrencyPair :=
  Json.textFor fun s => (CurrencyPair.parse s).mapError fun failure => .refused failure.message

namespace CachedRate

def document (r : CachedRate) : Json.Document :=
  .object [("rate", .real r.rate), ("timestamp", .integer r.timestamp.toInt)]

def shape : Json.RecordShape CachedRate where
  name := "CachedRate"
  draft := ⟨.zero, 0⟩
  fields := [
    .of "rate" .required Json.real fun rate draft => { draft with rate },
    .of "timestamp" .required Json.signed64 fun timestamp draft => { draft with timestamp }]

def reader : Json.Reader CachedRate := Json.record shape

end CachedRate

namespace RateResult

def document (r : RateResult) : Json.Document :=
  .object [("pair", .text r.pair.text), ("rate", .real r.rate),
    ("timestamp", .integer r.timestamp.toInt)]

def shape : Json.RecordShape RateResult where
  name := "RateResult"
  draft := ⟨⟨"", ""⟩, .zero, 0⟩
  fields := [
    .of "pair" .required CurrencyPair.reader fun pair draft => { draft with pair },
    .of "rate" .required Json.real fun rate draft => { draft with rate },
    .of "timestamp" .required Json.signed64 fun timestamp draft => { draft with timestamp }]

def reader : Json.Reader RateResult := Json.record shape

end RateResult

namespace QuoteResponse

def document (r : QuoteResponse) : Json.Document :=
  .object [("rates", .list (r.rates.map RateResult.document))]

def shape : Json.RecordShape QuoteResponse where
  name := "QuoteResponse"
  draft := ⟨[]⟩
  fields := [.of "rates" .required (Json.list RateResult.reader) fun rates draft =>
    { draft with rates }]

def reader : Json.Reader QuoteResponse := Json.record shape

end QuoteResponse

end QuoteGateway
