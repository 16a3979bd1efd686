import QuoteGateway.Proofs.Calendar.Instants
import QuoteGateway.Proofs.QuotaText

/-!
# Records of keys read back

The record of a key is written with its expiration only if it has one. What is written is read as
the same record, whatever its identifiers are and to the nanosecond of its expiration.
-/

namespace QuoteGateway.ApiKey

open Calendar Json

theorem reads_instant {t : Instant} {text : String} (h : t.IsText text) :
    Reads instantReader (writeText text) t := by
  intro rest _
  refine parsedText_written ?_ rest
  rw [h.read]
  rfl

def lastingMembers (key : ApiKey) : List (Member ApiKey) := [
  { field := .of "id" .required signed64 fun id draft => { draft with id }
    value := .integer key.id.toInt
    change := fun draft => { draft with id := key.id } },
  { field := .of "api_key_id" .required Json.text fun apiKeyId draft => { draft with apiKeyId }
    value := .text key.apiKeyId
    change := fun draft => { draft with apiKeyId := key.apiKeyId } },
  { field := .of "user_id" .required Json.text fun userId draft => { draft with userId }
    value := .text key.userId
    change := fun draft => { draft with userId := key.userId } },
  { field := .of "tier" .required Tier.reader fun tier draft => { draft with tier }
    value := key.tier.document
    change := fun draft => { draft with tier := key.tier } }]

def endingMember (t : Instant) : Member ApiKey where
  field := .of "expiration" .namedOptional (Json.optional instantReader) fun expiration draft =>
    { draft with expiration }
  value := .text (String.ofList t.write)
  change draft := { draft with expiration := some t }

theorem lastingMembers_fit (key : ApiKey) : ∀ m ∈ key.lastingMembers, m.Fits shape := by
  intro m hm
  simp only [lastingMembers, List.mem_cons, List.not_mem_nil, or_false] at hm
  rcases hm with rfl | rfl | rfl | rfl
  · refine ⟨rfl, reads_field ?_⟩
    rw [Document.write]
    exact reads_signed64 key.id
  · refine ⟨rfl, reads_field ?_⟩
    rw [Document.write]
    exact reads_text key.apiKeyId
  · refine ⟨rfl, reads_field ?_⟩
    rw [Document.write]
    exact reads_text key.userId
  · exact ⟨rfl, reads_field key.tier.reads_document⟩

theorem endingMember_fits {t : Instant} (years : 0 ≤ t.date.year ∧ t.date.year ≤ 9999) :
    (endingMember t).Fits shape := by
  refine ⟨rfl, reads_field ?_⟩
  rw [endingMember, Document.write]
  exact reads_optional_text (reads_instant (Instant.isText_write years))

theorem reads_document (key : ApiKey)
    (years : ∀ t ∈ key.expiration, 0 ≤ t.date.year ∧ t.date.year ≤ 9999) :
    Reads reader key.document.write key := by
  obtain ⟨id, apiKeyId, userId, tier, _ | t⟩ := key
  · exact reads_record shape _ (lastingMembers_fit _)
      (show ["id", "api_key_id", "user_id", "tier"].Nodup by decide)
      (show ∀ name ∈ ["id", "api_key_id", "user_id", "tier"],
        name ∈ ["id", "api_key_id", "user_id", "tier"] by decide)
  · have fits : ∀ m ∈ lastingMembers ⟨id, apiKeyId, userId, tier, some t⟩ ++ [endingMember t],
        m.Fits shape := by
      intro m hm
      rcases List.mem_append.mp hm with lasting | ending
      · exact lastingMembers_fit _ m lasting
      · obtain rfl := List.mem_singleton.mp ending
        exact endingMember_fits (years t rfl)
    exact reads_record shape _ fits
      (show ["id", "api_key_id", "user_id", "tier", "expiration"].Nodup by decide)
      (show ∀ name ∈ ["id", "api_key_id", "user_id", "tier"],
        name ∈ ["id", "api_key_id", "user_id", "tier", "expiration"] by decide)

/-- How the record of a key is written and read. -/
structure Kept (key : ApiKey) : Prop where
  reread : readText reader key.document.compact = .ok key
  members : ∃ rows, key.document = .object rows ∧
    (key.expiration = none → "expiration" ∉ rows.map Prod.fst) ∧
    ∀ t ∈ key.expiration, ∃ text, ("expiration", .text text) ∈ rows ∧ t.IsText text ∧
      Instant.read text = .ok t

/-- The record of a key whose expiration has a year of four digits, if it has one, is kept. -/
theorem kept_of_years (key : ApiKey)
    (years : ∀ t ∈ key.expiration, 0 ≤ t.date.year ∧ t.date.year ≤ 9999) : key.Kept where
  reread := readText_of_reads (key.reads_document years)
  members := by
    refine ⟨_, rfl, fun lasting => ?_, fun t ending => ?_⟩
    · rw [lasting]
      exact show "expiration" ∉ ["id", "api_key_id", "user_id", "tier"] by decide
    · have isText := Instant.isText_write (years t ending)
      refine ⟨_, ?_, isText, isText.read⟩
      rw [Option.mem_def.mp ending]
      exact List.mem_append_right _ List.mem_cons_self

/-- The last instant of the year 9999, a leap second, in a record that needs escapes. -/
def lastOfAll : ApiKey where
  id := Int64.minValue
  apiKeyId := "\"\\\t"
  userId := "é\u2028"
  tier := .limited
  expiration := some ⟨253402300799, 1999999999, by decide, by decide, by decide⟩

theorem kept_lastOfAll :
    (∀ t ∈ lastOfAll.expiration, 0 ≤ t.date.year ∧ t.date.year ≤ 9999) ∧ lastOfAll.Kept ∧
      lastOfAll.document.compact =
        "\x7b\"id\":-9223372036854775808,\"api_key_id\":\"\\\"\\\\\\t\"," ++
          "\"user_id\":\"é\u2028\",\"tier\":\"limited\"," ++
          "\"expiration\":\"9999-12-31T23:59:60.999999999Z\"\x7d" := by
  have years : ∀ t ∈ lastOfAll.expiration, 0 ≤ t.date.year ∧ t.date.year ≤ 9999 := by
    rintro t ⟨⟩
    decide +kernel
  exact ⟨years, kept_of_years lastOfAll years, by decide +kernel⟩

end QuoteGateway.ApiKey
