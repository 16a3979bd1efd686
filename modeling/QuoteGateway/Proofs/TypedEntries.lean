import QuoteGateway.Proofs.Conduct
import QuoteGateway.Proofs.QuotaText

/-!
# Typed entries

A typed set writes a document as text, and a typed get reads the text as a value. While the entry is
live and no call fails, what is received is what the text alone is read as. For the log of a key
that is the log itself, and writing a log again does not change it any more.
-/

namespace QuoteGateway

open Cache (TimedMap)

/-- A typed set and a later typed get of the same key, while the entry is live and nothing fails. -/
structure Handover where
  before : TimedMap
  key : String
  lifetime : Duration
  written : Nat
  read : Nat
  live : read < written + lifetime.nanos
  c : Circumstances
  faultless : ∀ calls call, c.fault calls call = none

namespace Handover

variable {α : Type} (handover : Handover) (reader : Json.Reader α) (document : Json.Document)

def after : TimedMap :=
  (handover.c.conduct handover.written
    (Job.writeEntry handover.key document handover.lifetime) ⟨0, handover.before⟩).2.map

/-- What the typed get returns. -/
def received : Except Failure (Option α) :=
  (handover.c.conduct handover.read (Job.readEntry reader handover.key)
    ⟨0, handover.after document⟩).1

theorem after_eq : handover.after document =
    handover.before.put handover.written handover.key document.compact handover.lifetime := by
  simp only [after, Circumstances.conduct_writeEntry, handover.faultless]

theorem received_eq : handover.received reader document =
    match Json.readText reader document.compact with
    | .ok a => .ok (some a)
    | .error cause => .error (.unreadableEntry handover.key cause) := by
  cases read : Json.readText reader document.compact <;>
    simp only [received, Circumstances.conduct_readEntry, handover.faultless, after_eq, found,
      TimedMap.live?_put_self, if_pos handover.live, read]

variable {reader document}

theorem received_eq_some_iff {a : α} : handover.received reader document = .ok (some a) ↔
    Json.readText reader document.compact = .ok a := by
  rw [received_eq]
  cases Json.readText reader document.compact <;> simp

end Handover

namespace QuotaState

/-- The text of a log, written again after it has been read. -/
def rewritten (text : String) : Except Json.ReadError String :=
  (Json.readText reader text).map fun state => state.document.compact

/-- A log is read as it was written, from its text alone and from the cache. A text that is read as
a log may look different, but written again it is still read as this log, and then stays the
same. -/
theorem round_trip :
    (∀ state : QuotaState, Json.readText reader state.document.compact = .ok state) ∧
    (∀ text state, Json.readText reader text = .ok state → ∃ again, rewritten text = .ok again ∧
      Json.readText reader again = .ok state ∧ rewritten again = .ok again) ∧
    ∀ (handover : Handover) (state : QuotaState),
      handover.received reader state.document = .ok (some state) := by
  refine ⟨readText_compact, ?_, ?_⟩
  · intro text state read
    refine ⟨state.document.compact, ?_, state.readText_compact, ?_⟩
    · rw [rewritten, read]
      rfl
    · rw [rewritten, state.readText_compact]
      rfl
  · intro handover state
    exact handover.received_eq_some_iff.mpr state.readText_compact

/-- Blanks, escapes, members in another order and members that nobody knows. -/
def unusual : String :=
  "\n \x7b\"since\": [null, \x7b\"a\\u007d\": -1.5e3\x7d], \"tier\" : \"\\u006cimited\",\t" ++
    "\"api_key_id\": \"\\ud83d\\ude00\\\"\\\\\\u0000\", \"x\": \"\"\x7d "

def listed : String :=
  "[\"key\", \"limited\", [[9223372036854775807], " ++
    "\x7b\"timestamp\":-9223372036854775808\x7d]]"

/-- Unusual texts are read as logs, so they are read the same once they are written again. -/
theorem round_trip_unusual :
    (∃ again, rewritten unusual = .ok again ∧
      Json.readText reader again = .ok ⟨"😀\"\\\x00", .limited, []⟩ ∧ rewritten again = .ok again) ∧
    ∃ again, rewritten listed = .ok again ∧
      Json.readText reader again =
        .ok ⟨"key", .limited, [9223372036854775807, -9223372036854775808]⟩ ∧
      rewritten again = .ok again :=
  ⟨round_trip.2.1 unusual _ (by decide +kernel), round_trip.2.1 listed _ (by decide +kernel)⟩

end QuotaState

end QuoteGateway
