import QuoteGateway.Proofs.Json.Composites
import QuoteGateway.Proofs.Json.Reals
import QuoteGateway.Rate

/-!
# Published rates read back

The entry that a cycle writes for a rate is read with the same timestamp, and with what the text of
the rate alone is read as.
-/

namespace QuoteGateway.CachedRate

open Json
open Number (Binary64)

def members (cached : CachedRate) (y : Binary64) : List (Member CachedRate) := [
  { field := .of "rate" .required Json.real fun rate draft => { draft with rate }
    value := .real cached.rate
    change := fun draft => { draft with rate := y } },
  { field := .of "timestamp" .required Json.signed64 fun timestamp draft =>
      { draft with timestamp }
    value := .integer cached.timestamp.toInt
    change := fun draft => { draft with timestamp := cached.timestamp } }]

theorem members_fit (cached : CachedRate) {y : Binary64}
    (h : Reads real (Document.writeReal cached.rate) y) :
    ∀ m ∈ cached.members y, m.Fits shape := by
  intro m hm
  simp only [members, List.mem_cons, List.not_mem_nil, or_false] at hm
  rcases hm with rfl | rfl
  · refine ⟨rfl, reads_field ?_⟩
    rw [Document.write]
    exact h
  · refine ⟨rfl, reads_field ?_⟩
    rw [Document.write]
    exact reads_signed64 cached.timestamp

theorem reads_document (cached : CachedRate) {y : Binary64}
    (h : Reads real (Document.writeReal cached.rate) y) :
    Reads reader cached.document.write ⟨y, cached.timestamp⟩ :=
  reads_record shape (cached.members y) (cached.members_fit h)
    (show ["rate", "timestamp"].Nodup by decide)
    (show ∀ name ∈ ["rate", "timestamp"], name ∈ ["rate", "timestamp"] by decide)

/-- The text of a finite rate is read as its timestamp and the number that its rate reads as. -/
theorem readText_compact (cached : CachedRate) (finite : cached.rate.isFinite = true) :
    readText real (Document.real cached.rate).compact = .ok (reread cached.rate) ∧
      readText reader cached.document.compact = .ok ⟨reread cached.rate, cached.timestamp⟩ := by
  have reads := reads_real finite
  refine ⟨?_, readText_of_reads (cached.reads_document reads)⟩
  rw [Document.compact, Document.write]
  exact readText_of_reads reads

end QuoteGateway.CachedRate
