import QuoteGateway.ApiKey
import QuoteGateway.Dialogue
import QuoteGateway.Failure

/-!
# Keys in a database

A store that reads the table of keys of a relational database, one query for each key.
-/

namespace QuoteGateway.KeyStore.Database

inductive Query where
  | findKey (id : String)
  | check
deriving DecidableEq

def Query.text : Query → String
  | .findKey _ =>
    "\n            SELECT id, api_key_id, user_id, type, expiration\n            FROM api_key\n" ++
      "            WHERE api_key_id = $1\n            "
  | .check => "SELECT 1"

def Query.values : Query → List String
  | .findKey id => [id]
  | .check => []

inductive Cell (α : Type) where
  | absent
  | null
  | value (a : α)

/-- A row of the table of keys. The expiration counts microseconds since 2000-01-01. -/
structure Row where
  id : Cell Int64
  apiKeyId : Cell String
  userId : Cell String
  type : Cell Int
  expiration : Cell Int

inductive Fault where
  /-- An error of the database, in its own words. -/
  | database (message : String)
  | noColumn (name : String)
  | unexpectedNull (name : String)
  | impossibleMoment

def Fault.message : Fault → String
  | .database message => "error returned from database: " ++ message
  | .noColumn name => "no column found for name: " ++ name
  | .unexpectedNull name =>
    "error occurred while decoding column " ++ Text.quoted name ++
      ": unexpected null; try decoding as an `Option`"
  | .impossibleMoment => "error occurred while decoding column \"expiration\": out of range"

def Cell.required {α : Type} (name : String) : Cell α → Except Fault α
  | .absent => .error (.noColumn name)
  | .null => .error (.unexpectedNull name)
  | .value a => .ok a

def Cell.optional {α : Type} (name : String) : Cell α → Except Fault (Option α)
  | .absent => .error (.noColumn name)
  | .null => .ok none
  | .value a => .ok (some a)

def firstSecond : Int := 946684800

def instantOfMicros? (micros : Int) : Option Calendar.Instant :=
  Calendar.Instant.of? (firstSecond + micros / 1000000) ((micros % 1000000).toNat * 1000)

/-- The key of a row. Columns are read in their order. -/
def Row.key (row : Row) : Except Fault ApiKey := do
  let id ← row.id.required "id"
  let apiKeyId ← row.apiKeyId.required "api_key_id"
  let userId ← row.userId.required "user_id"
  let code ← row.type.required "type"
  match ← row.expiration.optional "expiration" with
  | none => .ok ⟨id, apiKeyId, userId, .ofCode code, none⟩
  | some micros =>
    match instantOfMicros? micros with
    | some t => .ok ⟨id, apiKeyId, userId, .ofCode code, some t⟩
    | none => .error .impossibleMoment

def signature : Signature where
  Call := Query
  Answer _ := Except String (Option Row)
  Event := Empty

def failure (intent : String) (fault : Fault) : Failure :=
  .reported .storage (intent ++ fault.message)

def foundKey : Except String (Option Row) → Except Failure (Option ApiKey)
  | .error message => .error (failure "Failed to get API key: " (.database message))
  | .ok none => .ok none
  | .ok (some row) => (row.key.mapError (failure "Invalid API key row: ")).map some

def findKey (id : String) : Dialogue signature (Except Failure (Option ApiKey)) :=
  .ask (.findKey id) fun answer => .done (foundKey answer)

def check : Dialogue signature (Except Failure Unit) :=
  .ask .check fun answer => .done (match answer with
    | .error message => .error (failure "Database ping failed: " (.database message))
    | .ok _ => .ok ())

end QuoteGateway.KeyStore.Database
