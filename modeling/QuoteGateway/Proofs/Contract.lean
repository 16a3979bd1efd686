import Mathlib.Order.Basic
import QuoteGateway.Proofs.Run
import QuoteGateway.Proofs.UsageLog

/-!
# Contracts

What a dialogue may ask, and which answers it can rely on, as the knowledge about its surroundings
grows. A dialogue that keeps a contract does so under every interpreter that keeps its promises,
whether the dialogue is carried out at once or answered one question at a time.
-/

namespace QuoteGateway

/-- What may be asked with some knowledge, and which answers and which later knowledge a dialogue
has to be ready for. -/
structure Contract (S : Signature) (σ : Type) where
  allows : σ → S.Call → Prop
  promises : σ → (call : S.Call) → S.Answer call → σ → Prop

namespace Dialogue

variable {S : Signature} {σ α β : Type} {K : Contract S σ}

/-- The dialogue asks what is allowed, whatever it is promised, and ends in a way that fits what is
known then. -/
def Keeps (K : Contract S σ) (ends : σ → α → Prop) : Dialogue S α → σ → Prop
  | done a, s => ends s a
  | ask call next, s =>
    K.allows s call ∧ ∀ answer s', K.promises s call answer s' → (next answer).Keeps K ends s'
  | tell _ next, s => next.Keeps K ends s

theorem Keeps.bind {mid : σ → α → Prop} {ends : σ → β → Prop} {d : Dialogue S α}
    {f : α → Dialogue S β} {s : σ} (first : d.Keeps K mid s)
    (goesOn : ∀ s' a, mid s' a → (f a).Keeps K ends s') : (d.bind f).Keeps K ends s := by
  induction d generalizing s with
  | done a => exact goesOn s a first
  | ask call next ih =>
    refine ⟨first.1, ?_⟩
    intro answer s' promised
    exact ih answer (first.2 answer s' promised)
  | tell event next ih => exact ih first

theorem Keeps.weaken {strong weak : σ → α → Prop} (h : ∀ s a, strong s a → weak s a)
    {d : Dialogue S α} {s : σ} (keeps : d.Keeps K strong s) : d.Keeps K weak s := by
  induction d generalizing s with
  | done a => exact h s a keeps
  | ask call next ih =>
    refine ⟨keeps.1, ?_⟩
    intro answer s' promised
    exact ih answer (keeps.2 answer s' promised)
  | tell event next ih => exact ih keeps

end Dialogue

namespace Job

variable {σ α β : Type} {K : Contract gatewaySignature σ}

/-- A job keeps a contract up to its result or failure. -/
def Keeps (K : Contract gatewaySignature σ) (ends : σ → Except Failure α → Prop) (job : Job α)
    (s : σ) : Prop :=
  Dialogue.Keeps K ends job.run s

theorem keeps_pure {ends : σ → Except Failure α → Prop} {a : α} {s : σ} (h : ends s (.ok a)) :
    Keeps K ends (pure a) s := h

theorem keeps_throw {ends : σ → Except Failure α → Prop} {failure : Failure} {s : σ}
    (h : ends s (.error failure)) : Keeps K ends (throw failure) s := h

theorem keeps_read {key : String} {ends : σ → Except Failure (Option String) → Prop} {s : σ}
    (allowed : K.allows s (.cache (.read key)))
    (h : ∀ (answer : Except Failure (Option String)) s',
      K.promises s (.cache (.read key)) answer s' → ends s' answer) :
    Keeps K ends (Job.call (.cache (.read key)) : Job (Option String)) s := ⟨allowed, h⟩

theorem keeps_writeEntry {key : String} {document : Json.Document} {lifetime : Duration}
    {ends : σ → Except Failure Unit → Prop} {s : σ}
    (allowed : K.allows s (.cache (.write key document.compact lifetime)))
    (h : ∀ (answer : Except Failure Unit) s',
      K.promises s (.cache (.write key document.compact lifetime)) answer s' → ends s' answer) :
    Keeps K ends (Job.writeEntry key document lifetime) s := ⟨allowed, h⟩

theorem keeps_findKey {id : String} {ends : σ → Except Failure (Option ApiKey) → Prop} {s : σ}
    (allowed : K.allows s (.findKey id))
    (h : ∀ (answer : Except Failure (Option ApiKey)) s',
      K.promises s (.findKey id) answer s' → ends s' answer) :
    Keeps K ends (Job.call (.findKey id) : Job (Option ApiKey)) s := ⟨allowed, h⟩

theorem Keeps.bind (mid : σ → Except Failure α → Prop) {ends : σ → Except Failure β → Prop}
    {job : Job α} {f : α → Job β} {s : σ} (first : Keeps K mid job s)
    (fails : ∀ s' failure, mid s' (.error failure) → ends s' (.error failure))
    (goesOn : ∀ s' a, mid s' (.ok a) → Keeps K ends (f a) s') : Keeps K ends (job >>= f) s := by
  change (job.run.bind _).Keeps K ends s
  apply Dialogue.Keeps.bind first
  intro s' result reached
  cases result with
  | error failure => exact fails s' failure reached
  | ok a => exact goesOn s' a reached

theorem Keeps.weaken {strong weak : σ → Except Failure α → Prop}
    (h : ∀ s result, strong s result → weak s result) {job : Job α} {s : σ}
    (keeps : Keeps K strong job s) : Keeps K weak job s :=
  Dialogue.Keeps.weaken h keeps

theorem keeps_report {ends : σ → Except Failure α → Prop} {event : Event} {f : Unit → Job α}
    {s : σ} (h : Keeps K ends (f ()) s) : Keeps K ends (Job.report event >>= f) s := h

theorem keeps_lift_run {ends : σ → Except Failure (Except Failure α) → Prop} {job : Job α} {s : σ}
    (h : Keeps K (fun s result => ends s (.ok result)) job s) :
    Keeps K ends (ExceptT.lift job.run) s := by
  change (job.run.bind _).Keeps K ends s
  exact Dialogue.Keeps.bind h fun _ _ reached => reached

theorem keeps_adapt {ends : σ → Except Failure α → Prop} {change : Failure → Failure}
    {job : Job α} {s : σ} (h : Keeps K (fun s result => ends s (result.mapError change)) job s) :
    Keeps K ends (ExceptT.adapt change job) s := by
  change (job.run.bind _).Keeps K ends s
  exact Dialogue.Keeps.bind h fun _ _ reached => reached

theorem keeps_readEntry {reader : Json.Reader α} {key : String}
    {ends : σ → Except Failure (Option α) → Prop} {s : σ}
    (allowed : K.allows s (.cache (.read key)))
    (h : ∀ (answer : Except Failure (Option String)) s',
      K.promises s (.cache (.read key)) answer s' →
        (∀ failure, answer = .error failure → ends s' (.error failure)) ∧
        (answer = .ok none → ends s' (.ok none)) ∧
        (∀ text a, answer = .ok (some text) → Json.readText reader text = .ok a →
          ends s' (.ok (some a))) ∧
        ∀ text cause, answer = .ok (some text) → Json.readText reader text = .error cause →
          ends s' (.error (.unreadableEntry key cause))) :
    Keeps K ends (Job.readEntry reader key) s := by
  apply Keeps.bind _ (keeps_read allowed h)
  · exact fun s' failure reached => reached.1 failure rfl
  · intro s' entry reached
    cases entry with
    | none => exact keeps_pure (reached.2.1 rfl)
    | some text =>
      simp only
      cases read : Json.readText reader text with
      | ok a => exact keeps_pure (reached.2.2.1 text a rfl read)
      | error cause => exact keeps_throw (reached.2.2.2 text cause rfl read)

end Job

/-- A dialogue that keeps a contract has the same result from two related states, if its
surroundings keep what they promise and relate the states after every call that is allowed. -/
theorem Circumstances.carryOut_agree {σ α : Type} (c : Circumstances) (now : Nat)
    {K : Contract gatewaySignature σ} {related : σ → Progress → Progress → Prop}
    (sound : ∀ s call p q, related s p q → K.allows s call →
      (c.respond now call p).1 = (c.respond now call q).1 ∧
        ∃ s', K.promises s call (c.respond now call p).1 s' ∧
          related s' (c.respond now call p).2 (c.respond now call q).2)
    {ends : σ → α → Prop} {d : Dialogue gatewaySignature α} {s : σ} (keeps : d.Keeps K ends s)
    {p q : Progress} (h : related s p q) :
    (c.carryOut now d p).1 = (c.carryOut now d q).1 ∧
      ∃ s', related s' (c.carryOut now d p).2 (c.carryOut now d q).2 := by
  induction d generalizing s p q with
  | done a => exact ⟨rfl, s, h⟩
  | ask call next ih =>
    obtain ⟨same, s', promised, h'⟩ := sound s call p q h keeps.1
    rw [carryOut_ask, carryOut_ask, ← same]
    exact ih _ (keeps.2 _ s' promised) h'
  | tell event next ih => exact ih keeps h

section Request

variable {γ : Type} [Preorder γ]

/-- What a request is told, on top of later knowledge. A log read for its key and one made from its
record fit what is known, and a log that is written is known to be. -/
def toldRequest (id : String) (fits : γ → QuotaState → Prop) (s s' : γ × Bool) :
    (call : gatewaySignature.Call) → gatewaySignature.Answer call → Prop
  | .cache (.read key), answer =>
    s'.2 = s.2 ∧ ∀ text, answer = .ok (some text) → key = CacheKey.ofApiKey id →
      ∀ state, Json.readText QuotaState.reader text = .ok state → fits s'.1 state
  | .cache (.write _ _ _), answer => s'.2 = (s.2 || Except.isOk answer)
  | .findKey _, answer =>
    s'.2 = s.2 ∧ ∀ key, answer = .ok (some key) → fits s'.1 (.ofKey key)
  | _, _ => s'.2 = s.2

/-- The contract of a request. It knows which logs may be found for its key, and whether its own
has been written. It reads the log of its key and rates, and writes its log once. -/
def requestContract (limit : RateLimit) (inquiry : Inquiry) (fits : γ → QuotaState → Prop) :
    Contract gatewaySignature (γ × Bool) where
  allows s
    | .cache (.read key) =>
      key = CacheKey.ofApiKey inquiry.id ∨ ∃ base target, key = CacheKey.ofRate base target
    | .cache (.write key value _) =>
      s.2 = false ∧ key = CacheKey.ofApiKey inquiry.id ∧ ∃ state, fits s.1 state ∧
        value = (state.record inquiry.now.unixSeconds
          (limit.windowStart inquiry.now)).document.compact
    | .findKey id => id = inquiry.id
    | _ => False
  promises s call answer s' :=
    s.1 ≤ s'.1 ∧ ¬ Refused (α := call.Result) answer ∧
      toldRequest inquiry.id fits s s' call answer

variable {policy : QuotePolicy} {inquiry : Inquiry} {fits : γ → QuotaState → Prop}

theorem keeps_loadState {s : γ × Bool} (unwritten : s.2 = false) :
    Job.Keeps (requestContract policy.limit inquiry fits)
      (fun s' result => s'.2 = false ∧ ¬ Refused result ∧
        ∀ state, result = .ok state → fits s'.1 state)
      (Gate.loadState inquiry.id) s := by
  unfold Gate.loadState
  apply Job.Keeps.bind fun s' result => s'.2 = false ∧ ¬ Refused result ∧
    ∀ state, result = .ok (some state) → fits s'.1 state
  · apply Job.keeps_readEntry
    · exact .inl rfl
    rintro answer s' ⟨-, unrefused, same, fitting⟩
    have still : s'.2 = false := same.trans unwritten
    refine ⟨?_, ?_, ?_, ?_⟩
    · rintro failure rfl
      exact ⟨still, fun refused => unrefused refused.change, nofun⟩
    · exact fun _ => ⟨still, not_refused_ok _, nofun⟩
    · rintro text state rfl read
      refine ⟨still, not_refused_ok _, ?_⟩
      rintro other ⟨⟩
      exact fitting text rfl rfl state read
    · exact fun text cause _ _ => ⟨still, nofun, nofun⟩
  · exact fun s' failure reached => ⟨reached.1, fun refused => reached.2.1 refused.change, nofun⟩
  · rintro s' (_ | state) ⟨still, -, fitting⟩
    · apply Job.Keeps.bind fun s'' result => s''.2 = false ∧ ¬ Refused result ∧
        ∀ key, result = .ok (some key) → fits s''.1 (.ofKey key)
      · apply Job.keeps_findKey
        · rfl
        rintro answer s'' ⟨-, unrefused, same, fitting⟩
        exact ⟨same.trans still, unrefused, fitting⟩
      · exact fun s'' failure reached =>
          ⟨reached.1, fun refused => reached.2.1 refused.change, nofun⟩
      · rintro s'' (_ | key) ⟨still, -, fitting⟩
        · exact Job.keeps_throw ⟨still, nofun, nofun⟩
        · refine Job.keeps_pure ⟨still, not_refused_ok _, ?_⟩
          rintro other ⟨⟩
          exact fitting key rfl
    · refine Job.keeps_pure ⟨still, not_refused_ok _, ?_⟩
      rintro other ⟨⟩
      exact fitting state rfl

/-- A request is refused only for a log that fits what is known. -/
theorem keeps_authorize {s : γ × Bool} (unwritten : s.2 = false) :
    Job.Keeps (requestContract policy.limit inquiry fits)
      (fun s' result => s'.2 = false ∧ (∀ state, result = .ok state → fits s'.1 state) ∧
        (Refused result →
          ∃ state, fits s'.1 state ∧ state.exceeds policy.limit inquiry.now = true))
      (Gate.authorize policy.limit inquiry.id inquiry.now) s := by
  unfold Gate.authorize
  by_cases empty : inquiry.id.isEmpty
  · simp only [empty, if_true]
    exact Job.keeps_throw ⟨unwritten, nofun, nofun⟩
  · simp only [empty, if_false, Bool.false_eq_true]
    apply Job.Keeps.bind _ (keeps_loadState unwritten)
    · rintro s' failure ⟨still, unrefused, -⟩
      exact ⟨still, nofun, fun refused => absurd refused.change unrefused⟩
    · rintro s' state ⟨still, -, fitting⟩
      have fits := fitting state rfl
      split
      · rename_i exceeded
        exact Job.keeps_report (Job.keeps_throw ⟨still, nofun, fun _ => ⟨state, fits, exceeded⟩⟩)
      · refine Job.keeps_pure ⟨still, ?_, fun refused => absurd refused (not_refused_ok _)⟩
        rintro other ⟨⟩
        exact fits

theorem keeps_resolve (pair : CurrencyPair) (s : γ × Bool) :
    Job.Keeps (requestContract policy.limit inquiry fits)
      (fun s' result => s.1 ≤ s'.1 ∧ s'.2 = s.2 ∧ ¬ Refused result)
      (Lookup.resolve pair) s := by
  unfold Lookup.resolve
  apply Job.Keeps.bind fun s' result => s.1 ≤ s'.1 ∧ s'.2 = s.2 ∧ ¬ Refused result
  · apply Job.keeps_adapt
    apply Job.keeps_readEntry
    · exact .inr ⟨pair.base, pair.target, rfl⟩
    rintro answer s' ⟨later, -, same, -⟩
    refine ⟨?_, ?_, ?_, ?_⟩
    · exact fun failure _ => ⟨later, same, nofun⟩
    · exact fun _ => ⟨later, same, not_refused_ok _⟩
    · exact fun text cached _ _ => ⟨later, same, not_refused_ok _⟩
    · exact fun text cause _ _ => ⟨later, same, nofun⟩
  · exact fun s' failure reached =>
      ⟨reached.1, reached.2.1, fun refused => reached.2.2 refused.change⟩
  · rintro s' (_ | cached) ⟨later, same, -⟩
    · exact Job.keeps_throw ⟨later, same, nofun⟩
    · exact Job.keeps_pure ⟨later, same, not_refused_ok _⟩

theorem keeps_resolveAll (pairs : List CurrencyPair) (s : γ × Bool) :
    Job.Keeps (requestContract policy.limit inquiry fits)
      (fun s' result => s.1 ≤ s'.1 ∧ s'.2 = s.2 ∧ ¬ Refused result)
      (Lookup.resolveAll pairs) s := by
  induction pairs generalizing s with
  | nil => exact Job.keeps_pure ⟨le_rfl, rfl, not_refused_ok _⟩
  | cons pair pairs ih =>
    rw [Lookup.resolveAll]
    apply Job.Keeps.bind _ (keeps_resolve pair s)
    · exact fun s' failure reached =>
        ⟨reached.1, reached.2.1, fun refused => reached.2.2 refused.change⟩
    · rintro s' result ⟨later, same, -⟩
      apply Job.Keeps.bind _ (ih s')
      · exact fun s'' failure reached => ⟨later.trans reached.1, reached.2.1.trans same,
          fun refused => reached.2.2 refused.change⟩
      · exact fun s'' results reached => Job.keeps_pure
          ⟨later.trans reached.1, reached.2.1.trans same, not_refused_ok _⟩

/-- What fits is a log of the key that the request names. -/
theorem keeps_recordUsage (owned : ∀ g state, fits g state → state.apiKeyId = inquiry.id)
    {state : QuotaState} {s : γ × Bool} (unwritten : s.2 = false) (fitting : fits s.1 state) :
    Job.Keeps (requestContract policy.limit inquiry fits) (fun _ result => ¬ Refused result)
      (Gate.recordUsage policy.limit state inquiry.now) s := by
  unfold Gate.recordUsage
  apply Job.Keeps.bind fun _ result => ¬ Refused result
  · apply Job.keeps_writeEntry
    · exact ⟨unwritten, congrArg CacheKey.ofApiKey (owned s.1 state fitting), state, fitting, rfl⟩
    · exact fun answer s' promised => promised.2.1
  · exact fun s' failure unrefused refused => unrefused refused.change
  · exact fun s' written _ => Job.keeps_pure (not_refused_ok _)

/-- A request that is refused has written nothing, and some log that fits what is known exceeds the
quota. -/
theorem keeps_answer (later : ∀ g g' state, g ≤ g' → fits g state → fits g' state)
    (owned : ∀ g state, fits g state → state.apiKeyId = inquiry.id) {s : γ × Bool}
    (unwritten : s.2 = false) :
    Job.Keeps (requestContract policy.limit inquiry fits)
      (fun s' result => Refused result → s'.2 = false ∧
        ∃ state, fits s'.1 state ∧ state.exceeds policy.limit inquiry.now = true)
      (policy.answer inquiry.id inquiry.pairs inquiry.now) s := by
  unfold QuotePolicy.answer
  by_cases empty : inquiry.pairs.isEmpty
  · simp only [empty, if_true]
    exact Job.keeps_throw nofun
  simp only [empty, if_false, Bool.false_eq_true]
  apply Job.Keeps.bind _ (keeps_authorize unwritten)
  · exact fun s' failure reached refused => ⟨reached.1, reached.2.2 refused.change⟩
  rintro s' state ⟨still, fitting, -⟩
  apply Job.Keeps.bind _ (keeps_resolveAll inquiry.pairs s')
  · exact fun s'' failure reached refused => absurd refused.change reached.2.2
  rintro s'' rates ⟨more, same, -⟩
  have fits' := later _ _ _ more (fitting state rfl)
  apply Job.Keeps.bind fun _ recorded => ∃ outcome, recorded = .ok outcome ∧ ¬ Refused outcome
  · apply Job.keeps_lift_run
    apply Job.Keeps.weaken _ (keeps_recordUsage owned (same.trans still) fits')
    exact fun _ result unrefused => ⟨result, rfl, unrefused⟩
  · rintro s failure ⟨outcome, ⟨⟩, -⟩
  rintro s outcome ⟨result, ⟨⟩, unrefused⟩
  cases outcome with
  | ok state => exact Job.keeps_pure fun refused => absurd refused (not_refused_ok _)
  | error failure =>
    cases policy.recording with
    | strict => exact Job.keeps_throw fun refused => absurd refused.change unrefused
    | bestEffort =>
      exact Job.keeps_report (Job.keeps_pure fun refused => absurd refused (not_refused_ok _))

variable (c : Circumstances) (now : Nat) (p : Progress) {g : γ} {flag : Bool}

theorem not_refused_reported {α : Type} {category : Category} {words : String}
    (h : category.kind ≠ .tooManyRequests) :
    ¬ Refused (.error (.reported category words) : Except Failure α) :=
  fun refused => h (refused_error_iff.mp refused)

theorem promised_read {key : String}
    (logs : ∀ entry, p.map.live? now (CacheKey.ofApiKey inquiry.id) = some entry →
      ∀ state, Json.readText QuotaState.reader entry.value = .ok state → fits g state) :
    (requestContract policy.limit inquiry fits).promises (g, flag) (.cache (.read key))
      (c.respond now (.cache (.read key)) p).1 (g, flag) := by
  rw [c.respond_read]
  refine ⟨le_rfl, ?_, rfl, ?_⟩
  · cases c.fault p.calls (.read key) with
    | some words => exact not_refused_reported (by decide)
    | none => exact not_refused_ok _
  · intro text told own state read
    cases fault : c.fault p.calls (.read key) with
    | some words =>
      rw [fault] at told
      cases told
    | none =>
      rw [fault] at told
      subst own
      obtain ⟨entry, live, rfl⟩ := Option.map_eq_some_iff.mp (Except.ok.inj told)
      exact logs entry live state read

theorem promised_findKey
    (records : ∀ key, c.record inquiry.id = .ok (some key) → fits g (.ofKey key)) :
    (requestContract policy.limit inquiry fits).promises (g, flag) (.findKey inquiry.id)
      (c.respond now (.findKey inquiry.id) p).1 (g, flag) := by
  refine ⟨le_rfl, ?_, rfl, ?_⟩
  · simp only [Circumstances.respond]
    cases c.record inquiry.id with
    | error words => exact not_refused_reported (by decide)
    | ok key => exact not_refused_ok _
  · intro key told
    simp only [Circumstances.respond] at told
    cases record : c.record inquiry.id with
    | error words =>
      rw [record] at told
      cases told
    | ok key =>
      rw [record] at told
      cases told
      exact records _ record

variable {key value : String} {lifetime : Duration}

theorem promised_unwritten {words : String} :
    (requestContract policy.limit inquiry fits).promises (g, flag)
      (.cache (.write key value lifetime)) (.error (.reported .cache words)) (g, flag) :=
  ⟨le_rfl, not_refused_reported (by decide), (Bool.or_false _).symm⟩

theorem promised_written {more : γ} (later : g ≤ more) :
    (requestContract policy.limit inquiry fits).promises (g, flag)
      (.cache (.write key value lifetime)) (.ok ()) (more, true) :=
  ⟨later, not_refused_ok _, (Bool.or_true _).symm⟩

end Request

end QuoteGateway
