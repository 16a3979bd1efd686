import QuoteGateway.Proofs.Json.ExactReals
import QuoteGateway.Proofs.PairText
import QuoteGateway.Proofs.Publication
import QuoteGateway.Proofs.TypedEntries

/-!
# Rates through the cache

A rate that goes through the cache keeps its pair and its timestamp, and its number becomes what the
text of the number is read as. That is the same number if its text shows at most 53 bits and a small
power of ten, as the texts of up to fifteen digits do. A longer text may be read as a neighbour.
-/

namespace QuoteGateway

open Json
open Number (Binary64)

/-- The rate as it is read from its text. -/
def CachedRate.reread (cached : CachedRate) : CachedRate :=
  { cached with rate := Json.reread cached.rate }

namespace RateResult

def reread (result : RateResult) : RateResult := { result with rate := Json.reread result.rate }

structure IsReadable (result : RateResult) : Prop where
  finite : result.rate.isFinite = true
  pair : result.pair.IsReadable

def members (result : RateResult) : List (Member RateResult) := [
  { field := .of "pair" .required CurrencyPair.reader fun pair draft => { draft with pair }
    value := .text result.pair.text
    change := fun draft => { draft with pair := result.pair } },
  { field := .of "rate" .required Json.real fun rate draft => { draft with rate }
    value := .real result.rate
    change := fun draft => { draft with rate := Json.reread result.rate } },
  { field := .of "timestamp" .required Json.signed64 fun timestamp draft =>
      { draft with timestamp }
    value := .integer result.timestamp.toInt
    change := fun draft => { draft with timestamp := result.timestamp } }]

theorem members_fit {result : RateResult} (readable : result.IsReadable) :
    ∀ m ∈ result.members, m.Fits shape := by
  intro m hm
  simp only [members, List.mem_cons, List.not_mem_nil, or_false] at hm
  rcases hm with rfl | rfl | rfl
  · refine ⟨rfl, reads_field ?_⟩
    rw [Document.write]
    exact CurrencyPair.reads_text readable.pair
  · refine ⟨rfl, reads_field ?_⟩
    rw [Document.write]
    exact reads_real readable.finite
  · refine ⟨rfl, reads_field ?_⟩
    rw [Document.write]
    exact reads_signed64 result.timestamp

theorem reads_document {result : RateResult} (readable : result.IsReadable) :
    Reads reader result.document.write result.reread :=
  reads_record shape result.members (members_fit readable)
    (show ["pair", "rate", "timestamp"].Nodup by decide)
    (show ∀ name ∈ ["pair", "rate", "timestamp"], name ∈ ["pair", "rate", "timestamp"] by decide)

theorem reread_eq_self (result : RateResult) (readable : result.IsReadable)
    (exactly : ShownExactly result.rate) : result.reread = result := by
  rw [reread, reread_of_shownExactly readable.finite exactly]

end RateResult

namespace QuoteResponse

def reread (response : QuoteResponse) : QuoteResponse := ⟨response.rates.map RateResult.reread⟩

def member (response : QuoteResponse) : Member QuoteResponse where
  field := .of "rates" .required (Json.list RateResult.reader) fun rates draft =>
    { draft with rates }
  value := .list (response.rates.map RateResult.document)
  change draft := { draft with rates := response.rates.map RateResult.reread }

theorem reads_document {response : QuoteResponse}
    (readable : ∀ result ∈ response.rates, result.IsReadable) :
    Reads reader response.document.write response.reread := by
  refine reads_record shape [response.member] ?_ (show ["rates"].Nodup by decide)
    (show ∀ name ∈ ["rates"], name ∈ ["rates"] by decide)
  intro m hm
  obtain rfl := List.mem_singleton.mp hm
  exact ⟨rfl, reads_field (reads_list_map response.rates fun result member =>
    ⟨opens_object _, RateResult.reads_document (readable result member)⟩)⟩

end QuoteResponse

namespace Handover

/-- A finite rate arrives with its timestamp, alone, with its pair and in a response. It arrives as
the number that its text is read as, which is the rate itself if the text shows it exactly. -/
theorem received_rates (handover : Handover) :
    (∀ cached : CachedRate, cached.rate.isFinite = true →
      handover.received CachedRate.reader cached.document = .ok (some cached.reread) ∧
      (ShownExactly cached.rate → cached.reread = cached)) ∧
    (∀ result : RateResult, result.IsReadable →
      handover.received RateResult.reader result.document = .ok (some result.reread) ∧
      (ShownExactly result.rate → result.reread = result)) ∧
    ∀ response : QuoteResponse, (∀ result ∈ response.rates, result.IsReadable) →
      handover.received QuoteResponse.reader response.document = .ok (some response.reread) ∧
      ((∀ result ∈ response.rates, ShownExactly result.rate) → response.reread = response) := by
  refine ⟨?_, ?_, ?_⟩
  · intro cached finite
    refine ⟨handover.received_eq_some_iff.mpr (cached.readText_compact finite).2, ?_⟩
    intro exactly
    rw [CachedRate.reread, reread_of_shownExactly finite exactly]
  · intro result readable
    exact ⟨handover.received_eq_some_iff.mpr
      (readText_of_reads (RateResult.reads_document readable)), result.reread_eq_self readable⟩
  · intro response readable
    refine ⟨handover.received_eq_some_iff.mpr
      (readText_of_reads (QuoteResponse.reads_document readable)), ?_⟩
    intro exactly
    have same : response.rates.map RateResult.reread = response.rates.map id :=
      List.map_congr_left fun result member =>
        result.reread_eq_self (readable result member) (exactly result member)
    rw [QuoteResponse.reread, same, List.map_id]

end Handover

namespace Small

def handover : Handover where
  before := .empty
  key := "rate_usd_jpy"
  lifetime := .ofSeconds 600
  written := 0
  read := (Duration.ofSeconds 5).nanos
  live := by decide
  c := world
  faultless _ _ := rfl

def short : Binary64 := ⟨0x404535c28f5c28f6⟩

/-- The number 1.0826025765941323, which is one divided by 0.9237. -/
def long : Binary64 := ⟨0x3ff1525714509819⟩

def result (rate : Binary64) : RateResult := ⟨⟨"USD", "JPY"⟩, rate, -1⟩

theorem received_short :
    handover.received CachedRate.reader (⟨short, -1⟩ : CachedRate).document =
      .ok (some ⟨short, -1⟩) ∧
    handover.received RateResult.reader (result short).document = .ok (some (result short)) ∧
    handover.received QuoteResponse.reader (⟨[result short]⟩ : QuoteResponse).document =
      .ok (some ⟨[result short]⟩) := by
  have finite : short.isFinite = true := by decide +kernel
  have exactly : ShownExactly short := by decide +kernel
  have readable : (result short).IsReadable := ⟨finite, "USD_JPY", rfl⟩
  obtain ⟨alone, same⟩ := handover.received_rates.1 ⟨short, -1⟩ finite
  obtain ⟨paired, samePaired⟩ := handover.received_rates.2.1 (result short) readable
  obtain ⟨answered, sameAnswered⟩ := handover.received_rates.2.2 ⟨[result short]⟩
    (List.forall_mem_singleton.mpr readable)
  refine ⟨?_, ?_, ?_⟩
  · rw [same exactly] at alone
    exact alone
  · rw [samePaired exactly] at paired
    exact paired
  · rw [sameAnswered (List.forall_mem_singleton.mpr exactly)] at answered
    exact answered

/-- Seventeen digits are too many for the quick rule, and the neighbour of the rate is received. -/
theorem received_ne_long :
    handover.received CachedRate.reader (⟨long, 0⟩ : CachedRate).document ≠
      .ok (some ⟨long, 0⟩) := by
  rw [Ne, handover.received_eq_some_iff]
  decide +kernel

end Small

end QuoteGateway
