import QuoteGateway.Proofs.Course
import QuoteGateway.Proofs.QuotaText
import QuoteGateway.Proofs.UsageLog

/-!
# Admission

The courses of the gate: which exchanges lead to a log, and what the gate makes of it.
-/

namespace QuoteGateway

open Calendar (Instant)

namespace Gate

variable {limit : RateLimit} {id : String} {now : Instant} {state : QuotaState}
  {exchanges : List (Exchange gatewaySignature)} {result : Except Failure QuotaState}

def verdict (limit : RateLimit) (id : String) (now : Instant) :
    Except Failure QuotaState → Except Failure QuotaState
  | .error failure => .error failure
  | .ok state =>
    if state.exceeds limit now then
      .error (.quotaExceeded id limit.maxUsages limit.window.seconds)
    else .ok state

/-- A log comes from the entry of its key, or from the record of the key where there is none. -/
theorem course_loadState_ok (h : Job.Course (loadState id) exchanges (.ok state)) :
    (∃ text, exchanges = [⟨.cache (.read (CacheKey.ofApiKey id)), .ok (some text)⟩] ∧
      Json.readText QuotaState.reader text = .ok state) ∨
    ∃ key, exchanges = [⟨.cache (.read (CacheKey.ofApiKey id)), .ok none⟩,
      ⟨.findKey id, .ok (some key)⟩] ∧ state = .ofKey key := by
  rcases Job.course_bind.mp h with ⟨failure, -, ⟨⟩⟩ | ⟨first, entry, rest, rfl, found, goesOn⟩
  obtain ⟨answer, rfl, told⟩ := Job.course_readEntry.mp found
  cases entry with
  | some log =>
    obtain ⟨text, rfl, read⟩ := Job.entryOf_eq_some told.symm
    obtain ⟨rfl, same⟩ := Job.course_pure.mp goesOn
    cases same
    exact .inl ⟨text, rfl, read⟩
  | none =>
    obtain rfl := Job.entryOf_eq_none told.symm
    rcases Job.course_bind.mp goesOn with ⟨failure, -, ⟨⟩⟩ | ⟨second, record, last, rfl, find, ends⟩
    obtain rfl := Job.course_call.mp find
    cases record with
    | none => cases ends.2
    | some key =>
      obtain ⟨rfl, same⟩ := Job.course_pure.mp ends
      cases same
      exact .inr ⟨key, rfl, rfl⟩

theorem course_authorize_unnamed :
    Job.Course (authorize limit "" now) exchanges result ↔
      exchanges = [] ∧ result = .error .missingApiKey :=
  Iff.rfl

/-- For a request that names a key, the gate asks for the log and nothing else. -/
theorem course_authorize (named : id ≠ "") :
    Job.Course (authorize limit id now) exchanges result ↔
      ∃ loaded, Job.Course (loadState id) exchanges loaded ∧
        result = verdict limit id now loaded := by
  have someId : ¬id.isEmpty := fun none => named (String.isEmpty_iff.mp none)
  have goesOn (state : QuotaState) {rest : List (Exchange gatewaySignature)} :
      Job.Course (if state.exceeds limit now then do
          Job.report (.quotaExceeded id (state.usagesSince (limit.windowStart now)))
          throw (.quotaExceeded id limit.maxUsages limit.window.seconds)
          pure state
        else pure state) rest result ↔
        rest = [] ∧ result = verdict limit id now (.ok state) := by
    simp only [verdict]
    cases state.exceeds limit now <;> exact Iff.rfl
  simp only [authorize, someId, Bool.false_eq_true, if_false]
  rw [Job.course_bind]
  constructor
  · rintro (⟨failure, load, rfl⟩ | ⟨first, state, rest, rfl, load, later⟩)
    · exact ⟨_, load, rfl⟩
    · obtain ⟨rfl, rfl⟩ := (goesOn state).mp later
      exact ⟨_, by rwa [List.append_nil], rfl⟩
  · rintro ⟨failure | state, load, rfl⟩
    · exact .inl ⟨failure, load, rfl⟩
    · exact .inr ⟨exchanges, state, [], (List.append_nil _).symm, load,
        (goesOn state).mpr ⟨rfl, rfl⟩⟩

/-- Whatever log is kept for a key can be what the gate starts from. -/
theorem course_loadState_kept (id : String) (log : QuotaState) :
    Job.Course (loadState id)
      [⟨.cache (.read (CacheKey.ofApiKey id)), .ok (some log.document.compact)⟩] (.ok log) := by
  have entry : Job.entryOf QuotaState.reader (CacheKey.ofApiKey id)
      (.ok (some log.document.compact)) = .ok (some log) := by
    simp only [Job.entryOf, QuotaState.readText_compact]
  refine Job.course_bind.mpr (.inr ⟨_, some log, [], (List.append_nil _).symm, ?_, rfl, rfl⟩)
  exact Job.course_readEntry.mpr ⟨_, rfl, entry.symm⟩

theorem course_authorize_ok :
    Job.Course (authorize limit id now) exchanges (.ok state) ↔
      id ≠ "" ∧ Job.Course (loadState id) exchanges (.ok state) ∧
        state.exceeds limit now = false := by
  by_cases named : id = ""
  · subst named
    simp [course_authorize_unnamed]
  · rw [course_authorize named]
    constructor
    · rintro ⟨failure | other, load, passed⟩
      · cases passed
      · unfold verdict at passed
        cases exceeds : other.exceeds limit now with
        | true =>
          simp [exceeds] at passed
        | false =>
          simp only [exceeds, Bool.false_eq_true, if_false, Except.ok.injEq] at passed
          subst passed
          exact ⟨named, load, exceeds⟩
    · rintro ⟨-, load, admitted⟩
      exact ⟨.ok state, load, by simp [verdict, admitted]⟩

theorem course_authorize_full (named : id ≠ "")
    (load : Job.Course (loadState id) exchanges (.ok state))
    (full : state.exceeds limit now = true) :
    Job.Course (authorize limit id now) exchanges
      (.error (.quotaExceeded id limit.maxUsages limit.window.seconds)) :=
  (course_authorize named).mpr ⟨.ok state, load, by simp [verdict, full]⟩

end Gate

end QuoteGateway
