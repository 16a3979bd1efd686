import QuoteGateway.Quote.Service

/-!
# Requests of the command line

A request names an API key and a list of pairs in one text. It is answered within a deadline, at
which the work on it is dropped wherever it stands.
-/

namespace QuoteGateway.Request

/-- The work on a request. A list of pairs that cannot be read is refused before it. -/
def work (policy : QuotePolicy) (apiKey pairs : String) (now : Calendar.Instant) :
    Except Failure (Dialogue gatewaySignature (Except Failure QuoteResponse)) :=
  (CurrencyPair.parseList pairs).map fun pairs => policy.serve apiKey pairs now

def conclusion (deadline : Duration) :
    Option (Except Failure QuoteResponse) → Except Failure QuoteResponse
  | some result => result
  | none => .error (.deadlinePassed deadline)

/-- Answers a request. The deadline may pass at any question. -/
def execute {m : Type → Type} [Monad m]
    (answer : (c : gatewaySignature.Call) → m (gatewaySignature.Answer c))
    (hear : gatewaySignature.Event → m Unit) (policy : QuotePolicy) (deadline : Duration)
    (cut : Option Dialogue.Cut) (apiKey pairs : String) (now : Calendar.Instant) :
    m (Except Failure QuoteResponse) :=
  match work policy apiKey pairs now with
  | .error failure => pure (.error failure)
  | .ok dialogue =>
    match cut with
    | none => dialogue.run answer hear
    | some cut => do
      let result ← dialogue.runUntil answer hear cut
      pure (conclusion deadline result)

def document (took : Nat) : Except Failure QuoteResponse → Json.Document
  | .ok response =>
    .object [("rates", .list (response.rates.map RateResult.document)), ("took", .integer took)]
  | .error failure =>
    .object [("error", .text failure.message), ("kind", .text failure.kind.label)]

def exitCode : Except Failure QuoteResponse → Nat
  | .ok _ => 0
  | .error _ => 1

end QuoteGateway.Request
