import QuoteGateway.Calendar.Rfc3339
import QuoteGateway.Json.Document

/-!
# API keys

The records of the key store: who a key belongs to and which quota tier it has.
-/

namespace QuoteGateway

/-- The quota tier of an API key. Only limited keys are held to the quota. -/
inductive Tier where
  | undefined
  | unlimited
  | limited
deriving DecidableEq

namespace Tier

/-- The tier of a code in the key store. Codes without a tier are undefined. -/
def ofCode (code : Int) : Tier :=
  if code = 1 then .unlimited else if code = 2 then .limited else .undefined

def code : Tier → Int
  | .undefined => 0
  | .unlimited => 1
  | .limited => 2

def isLimited : Tier → Bool
  | .limited => true
  | _ => false

def text : Tier → String
  | .undefined => "undefined"
  | .unlimited => "unlimited"
  | .limited => "limited"

def options : List (String × Tier) :=
  [("undefined", .undefined), ("unlimited", .unlimited), ("limited", .limited)]

def document (tier : Tier) : Json.Document := .text tier.text

def reader : Json.Reader Tier := Json.oneOf options

end Tier

structure ApiKey where
  id : Int64
  apiKeyId : String
  userId : String
  tier : Tier
  expiration : Option Calendar.Instant
deriving DecidableEq

def instantReader : Json.Reader Calendar.Instant :=
  Json.parsedText "an RFC 3339 formatted date and time string" fun s =>
    (Calendar.Instant.read s).mapError fun e => .refused e.message

namespace ApiKey

def expirationMembers : Option Calendar.Instant → List (String × Json.Document)
  | none => []
  | some t => [("expiration", .text (String.ofList t.write))]

def document (key : ApiKey) : Json.Document :=
  .object ([("id", .integer key.id.toInt), ("api_key_id", .text key.apiKeyId),
    ("user_id", .text key.userId), ("tier", key.tier.document)] ++
    expirationMembers key.expiration)

def shape : Json.RecordShape ApiKey where
  name := "ApiKey"
  draft := ⟨0, "", "", .undefined, none⟩
  fields := [
    .of "id" .required Json.signed64 fun id draft => { draft with id },
    .of "api_key_id" .required Json.text fun apiKeyId draft => { draft with apiKeyId },
    .of "user_id" .required Json.text fun userId draft => { draft with userId },
    .of "tier" .required Tier.reader fun tier draft => { draft with tier },
    .of "expiration" .namedOptional (Json.optional instantReader) fun expiration draft =>
      { draft with expiration }]

def reader : Json.Reader ApiKey := Json.record shape

end ApiKey

end QuoteGateway
