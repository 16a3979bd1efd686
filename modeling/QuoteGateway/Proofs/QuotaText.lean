import QuoteGateway.Proofs.Json.Composites
import QuoteGateway.Quota

/-!
# Usage logs read back

The log that the gate writes for a key is read as the same log, whatever the identifier of the key,
its tier and the seconds in it.
-/

namespace QuoteGateway

open Json

theorem Tier.reads_document (tier : Tier) : Reads Tier.reader tier.document.write tier := by
  rw [Tier.document, Document.write]
  cases tier <;> exact reads_oneOf rfl

namespace QuotaState

def usageMember (t : Int64) : Member Int64 where
  field := .of "timestamp" .required signed64 fun timestamp _ => timestamp
  value := .integer t.toInt
  change _ := t

theorem reads_usage (t : Int64) : Reads usageReader (usageDocument t).write t := by
  refine reads_record usageShape [usageMember t] ?_ (show ["timestamp"].Nodup by decide)
    (show ∀ name ∈ ["timestamp"], name ∈ ["timestamp"] by decide)
  intro m hm
  obtain rfl := List.mem_singleton.mp hm
  refine ⟨rfl, reads_field ?_⟩
  rw [usageMember, Document.write]
  exact reads_signed64 t

def members (state : QuotaState) : List (Member QuotaState) := [
  { field := .of "api_key_id" .required Json.text fun apiKeyId draft => { draft with apiKeyId }
    value := .text state.apiKeyId
    change := fun draft => { draft with apiKeyId := state.apiKeyId } },
  { field := .of "tier" .required Tier.reader fun tier draft => { draft with tier }
    value := state.tier.document
    change := fun draft => { draft with tier := state.tier } },
  { field := .of "usages" .defaulted (Json.list usageReader) fun usages draft =>
      { draft with usages }
    value := .list (state.usages.map usageDocument)
    change := fun draft => { draft with usages := state.usages } }]

theorem members_fit (state : QuotaState) : ∀ m ∈ state.members, m.Fits shape := by
  intro m hm
  simp only [members, List.mem_cons, List.not_mem_nil, or_false] at hm
  rcases hm with rfl | rfl | rfl
  · refine ⟨rfl, reads_field ?_⟩
    rw [Document.write]
    exact reads_text state.apiKeyId
  · exact ⟨rfl, reads_field state.tier.reads_document⟩
  · exact ⟨rfl, reads_field (reads_list state.usages fun t _ => ⟨opens_object _, reads_usage t⟩)⟩

theorem reads_document (state : QuotaState) : Reads reader state.document.write state :=
  reads_record shape state.members state.members_fit
    (show ["api_key_id", "tier", "usages"].Nodup by decide)
    (show ∀ name ∈ ["api_key_id", "tier"], name ∈ ["api_key_id", "tier", "usages"] by decide)

/-- The text of a log is read as the log. -/
theorem readText_compact (state : QuotaState) :
    readText reader state.document.compact = .ok state :=
  readText_of_reads state.reads_document

end QuotaState

end QuoteGateway
