import QuoteGateway.Proofs.Charge

/-!
# The stages of a request

A request goes through its stages one after the other, and the first that fails decides it. Each
stage has at most one call of its own, so the calls that are made are those of the stages up to the
deciding one. This holds against surroundings that answer every call as they like.
-/

namespace QuoteGateway

/-- A stage: what it exchanges with the surroundings, if anything, and how it fails, if it does. -/
structure Stage where
  exchange : Option (Exchange gatewaySignature)
  failure : Option Failure

namespace Stage

def fails (stage : Stage) : Bool := stage.failure.isSome

def upToDecision (stages : List Stage) : List Stage :=
  stages.take (stages.findIdx fails + 1)

/-- What is exchanged until the first stage fails. -/
def exchanges (stages : List Stage) : List (Exchange gatewaySignature) :=
  (upToDecision stages).filterMap exchange

/-- How the first stage fails that does. -/
def verdict (stages : List Stage) : Option Failure := stages.findSome? failure

/-- The result of a job with these stages, which is `a` unless one fails. -/
def outcome {α : Type} (stages : List Stage) (a : α) : Except Failure α :=
  match verdict stages with
  | some failure => .error failure
  | none => .ok a

def skipped : Stage := ⟨none, none⟩

def ofResult {α : Type} (call : Call) (answer : Except Failure call.Result)
    (result : Except Failure α) : Stage :=
  ⟨some ⟨call, answer⟩, failureOf result⟩

theorem exchanges_cons (stage : Stage) (stages : List Stage) :
    exchanges (stage :: stages) =
      stage.exchange.toList ++ if stage.fails then [] else exchanges stages := by
  cases fails : stage.fails <;> cases call : stage.exchange <;>
    simp [exchanges, upToDecision, List.findIdx_cons, fails, call]

theorem verdict_cons (stage : Stage) (stages : List Stage) :
    verdict (stage :: stages) = stage.failure.or (verdict stages) := by
  cases failure : stage.failure <;> simp [verdict, failure]

theorem verdict_append (stages more : List Stage) :
    verdict (stages ++ more) = (verdict stages).or (verdict more) :=
  List.findSome?_append

theorem exchanges_append (stages more : List Stage) :
    exchanges (stages ++ more) =
      exchanges stages ++ if (verdict stages).isSome then [] else exchanges more := by
  induction stages with
  | nil => simp [exchanges, upToDecision, verdict]
  | cons stage stages ih =>
    rw [List.cons_append, exchanges_cons, exchanges_cons, verdict_cons, ih]
    cases failure : stage.failure <;> cases verdict stages <;> simp [fails, failure]

/-- What is exchanged is a beginning of what all stages would exchange. -/
theorem exchanges_prefix (stages : List Stage) :
    exchanges stages <+: stages.filterMap exchange :=
  (List.take_prefix _ stages).filterMap exchange

theorem outcome_of_none {α : Type} {stages : List Stage} (h : verdict stages = none) (a : α) :
    outcome stages a = .ok a := by
  rw [outcome, h]

theorem outcome_of_some {α : Type} {stages : List Stage} {failure : Failure}
    (h : verdict stages = some failure) (a : α) : outcome stages a = .error failure := by
  rw [outcome, h]

end Stage

namespace Job

variable {α β : Type}

/-- The job can go through these stages, and then has the value `a` unless one of them fails. -/
def Passes (job : Job α) (stages : List Stage) (a : α) : Prop :=
  Course job (Stage.exchanges stages) (Stage.outcome stages a)

theorem passes_pure (a : α) : Passes (pure a) [] a := ⟨rfl, rfl⟩

/-- Where a job fails without a call, no later stage counts. -/
theorem passes_throw (failure : Failure) (stages : List Stage) (a : α) :
    Passes (throw failure) (⟨none, some failure⟩ :: stages) a := by
  rw [Passes, Stage.exchanges_cons]
  exact ⟨rfl, rfl⟩

theorem Passes.skip {job : Job α} {stages : List Stage} {a : α} (passes : Passes job stages a) :
    Passes job (.skipped :: stages) a := by
  rw [Passes, Stage.exchanges_cons]
  exact passes

theorem passes_of_course {job : Job α} {call : Call} {answer : Except Failure call.Result}
    {result : Except Failure α} {a : α} (course : Course job [⟨call, answer⟩] result)
    (same : ∀ b, result = .ok b → b = a) :
    Passes job [.ofResult call answer result] a := by
  cases result with
  | error failure => exact course
  | ok b =>
    obtain rfl := same b rfl
    exact course

/-- A job with one call goes on from the value that the call leads to. -/
theorem passes_bind_of_course {job : Job α} {f : α → Job β} {call : Call}
    {answer : Except Failure call.Result} {result : Except Failure α} {stages : List Stage} {b : β}
    (course : Course job [⟨call, answer⟩] result)
    (goesOn : ∀ a, result = .ok a → Passes (f a) stages b) :
    Passes (job >>= f) (.ofResult call answer result :: stages) b := by
  rw [Passes, Stage.exchanges_cons]
  cases result with
  | error failure => exact course_bind.mpr (.inl ⟨failure, course, rfl⟩)
  | ok a => exact course_bind.mpr (.inr ⟨_, a, _, rfl, course, goesOn a rfl⟩)

theorem Passes.bind {job : Job α} {f : α → Job β} {stages more : List Stage} {a : α} {b : β}
    (first : Passes job stages a)
    (goesOn : Stage.verdict stages = none → Passes (f a) more b) :
    Passes (job >>= f) (stages ++ more) b := by
  rw [Passes, Stage.exchanges_append, Stage.outcome, Stage.verdict_append]
  cases verdict : Stage.verdict stages with
  | none =>
    rw [Passes, Stage.outcome_of_none verdict] at first
    exact course_bind.mpr (.inr ⟨_, a, _, rfl, first, goesOn verdict⟩)
  | some failure =>
    rw [Passes, Stage.outcome_of_some verdict] at first
    refine course_bind.mpr (.inl ⟨failure, ?_, rfl⟩)
    simpa using first

end Job

/-- What the answer of the key store is taken for, where the cache holds no log. -/
def Gate.seeded (id : String) : Except Failure (Option ApiKey) → Except Failure QuotaState
  | .error failure => .error failure
  | .ok none => .error (.unknownApiKey id)
  | .ok (some key) => .ok (.ofKey key)

def Lookup.told (pair : CurrencyPair) (answer : Except Failure (Option String)) :
    Except Failure RateResult :=
  match Job.entryOf CachedRate.reader (CacheKey.ofRate pair.base pair.target) answer with
  | .error failure => .error (.rateNotRead pair failure)
  | .ok none => .error (.noRate pair)
  | .ok (some cached) => .ok (.ofCached pair cached)

/-- What becomes of a request once its log has been written or not. -/
def QuotePolicy.concluded (policy : QuotePolicy) (rates : List RateResult) :
    Except Failure Unit → Except Failure QuoteResponse
  | .ok () => .ok ⟨rates⟩
  | .error failure =>
    match policy.recording with
    | .strict => .error failure
    | .bestEffort => .ok ⟨rates⟩

/-- What the surroundings answer at each stage of a request, if it gets there: to the reading of the
log, at the key store, to the reading of the rate of each pair by its place, and to the write of the
log that an admitted one leads to. -/
structure Turns where
  log : Except Failure (Option String)
  record : Except Failure (Option ApiKey)
  rate : Nat → CurrencyPair → Except Failure (Option String)
  write : QuotaState → Except Failure Unit

namespace Turns

variable (turns : Turns) (id : String)

def entry : Except Failure (Option QuotaState) :=
  Job.entryOf QuotaState.reader (CacheKey.ofApiKey id) turns.log

/-- The log that the request starts from. An empty one stands for one that cannot be had, with which
no request goes on. -/
def state : QuotaState :=
  match turns.entry id, Gate.seeded id turns.record with
  | .ok (some state), _ => state
  | _, .ok state => state
  | _, _ => ⟨id, .undefined, []⟩

def results (pairs : List CurrencyPair) : List RateResult :=
  (pairs.mapIdx fun i pair => Lookup.told pair (turns.rate i pair)).filterMap Except.toOption

end Turns

namespace Gate

def readLog (id : String) : Call := .cache (.read (CacheKey.ofApiKey id))

variable (limit : RateLimit) (id : String) (now : Calendar.Instant) (turns : Turns)

def nameStage : Stage := ⟨none, if id.isEmpty then some .missingApiKey else none⟩

def logStage : Stage := .ofResult (readLog id) turns.log (turns.entry id)

/-- The key store is asked where the cache holds no log. -/
def recordStage : Stage :=
  match turns.log with
  | .ok none => .ofResult (.findKey id) turns.record (seeded id turns.record)
  | _ => .skipped

def quotaStage : Stage :=
  ⟨none, if (turns.state id).exceeds limit now then
    some (.quotaExceeded id limit.maxUsages limit.window.seconds) else none⟩

/-- The stages of the gate. -/
def stages : List Stage :=
  [nameStage id, logStage id turns, recordStage id turns, quotaStage limit id now turns]

end Gate

namespace Lookup

def readRate (pair : CurrencyPair) : Call :=
  .cache (.read (CacheKey.ofRate pair.base pair.target))

def rateStage (pair : CurrencyPair) (answer : Except Failure (Option String)) : Stage :=
  .ofResult (readRate pair) answer (told pair answer)

def stages (pairs : List CurrencyPair) (turns : Turns) : List Stage :=
  pairs.mapIdx fun i pair => rateStage pair (turns.rate i pair)

end Lookup

namespace QuotePolicy

variable (policy : QuotePolicy) (inquiry : Inquiry) (turns : Turns)

def pairsStage : Stage := ⟨none, if inquiry.pairs.isEmpty then some .noPairs else none⟩

def writeStage : Stage :=
  let state := turns.state inquiry.id
  .ofResult (policy.charge inquiry state) (turns.write state)
    (policy.concluded (turns.results inquiry.pairs) (turns.write state))

def earlierStages : List Stage :=
  pairsStage inquiry :: Gate.stages policy.limit inquiry.id inquiry.now turns ++
    Lookup.stages inquiry.pairs turns

/-- All stages of a request, in their order. -/
def stages : List Stage :=
  policy.earlierStages inquiry turns ++ [policy.writeStage inquiry turns]

end QuotePolicy

namespace Gate

variable (limit : RateLimit) (id : String) (now : Calendar.Instant) (turns : Turns)

theorem course_seed (answer : Except Failure (Option ApiKey)) : Job.Course (do
      match ← Job.call (.findKey id) with
      | some key => return QuotaState.ofKey key
      | none => throw (.unknownApiKey id))
    [⟨.findKey id, answer⟩] (seeded id answer) := by
  rcases answer with failure | _ | key
  · exact Job.course_bind.mpr (.inl ⟨failure, Job.course_call.mpr rfl, rfl⟩)
  · exact Job.course_bind.mpr (.inr ⟨_, none, [], rfl, Job.course_call.mpr rfl, rfl, rfl⟩)
  · exact Job.course_bind.mpr (.inr ⟨_, some key, [], rfl, Job.course_call.mpr rfl, rfl, rfl⟩)

theorem passes_loadState : Job.Passes (loadState id) [logStage id turns, recordStage id turns]
    (turns.state id) := by
  apply Job.passes_bind_of_course (Job.course_readEntry.mpr ⟨turns.log, rfl, rfl⟩)
  rintro (_ | state) found
  · have missed : turns.log = .ok none := Job.entryOf_eq_none found
    have entry : turns.entry id = .ok none := found
    simp only [recordStage, missed, Turns.state, entry]
    apply Job.passes_of_course (course_seed id turns.record)
    intro state seed
    rw [seed]
  · obtain ⟨text, held, -⟩ := Job.entryOf_eq_some found
    have entry : turns.entry id = .ok (some state) := found
    simp only [recordStage, held, Turns.state, entry]
    exact (Job.passes_pure state).skip

theorem passes_authorize :
    Job.Passes (authorize limit id now) (stages limit id now turns) (turns.state id) := by
  unfold authorize stages nameStage
  by_cases empty : id.isEmpty
  · simp only [empty, if_true]
    exact Job.passes_throw _ _ _
  simp only [empty, if_false, Bool.false_eq_true]
  apply Job.Passes.skip
  refine (passes_loadState id turns).bind fun _ => ?_
  unfold quotaStage QuotaState.exceeds
  split
  · exact Job.passes_throw _ _ _
  · exact (Job.passes_pure _).skip

end Gate

namespace Lookup

theorem course_told (pair : CurrencyPair) (answer : Except Failure (Option String)) :
    Job.Course (resolve pair) [⟨readRate pair, answer⟩] (told pair answer) := by
  let entry := Job.entryOf CachedRate.reader (CacheKey.ofRate pair.base pair.target) answer
  have read : Job.Course (ExceptT.adapt (Failure.rateNotRead pair)
      (Job.readEntry CachedRate.reader (CacheKey.ofRate pair.base pair.target)))
      [⟨readRate pair, answer⟩] (entry.mapError (Failure.rateNotRead pair)) :=
    Job.course_adapt.mpr ⟨entry, Job.course_readEntry.mpr ⟨answer, rfl, rfl⟩, rfl⟩
  unfold told
  change Job.Course _ _ (match entry with
    | .error failure => _
    | .ok none => _
    | .ok (some cached) => _)
  rcases entry with failure | _ | cached
  · exact Job.course_bind.mpr (.inl ⟨_, read, rfl⟩)
  · exact Job.course_bind.mpr (.inr ⟨_, none, [], rfl, read, rfl, rfl⟩)
  · exact Job.course_bind.mpr (.inr ⟨_, some cached, [], rfl, read, rfl, rfl⟩)

theorem stages_cons (pair : CurrencyPair) (pairs : List CurrencyPair) (turns : Turns) :
    stages (pair :: pairs) turns = rateStage pair (turns.rate 0 pair) ::
      stages pairs { turns with rate := fun i => turns.rate (i + 1) } := by
  simp only [stages, List.mapIdx_cons]

theorem passes_resolveAll (pairs : List CurrencyPair) (turns : Turns) :
    Job.Passes (resolveAll pairs) (stages pairs turns) (turns.results pairs) := by
  induction pairs generalizing turns with
  | nil => exact Job.passes_pure []
  | cons pair pairs ih =>
    rw [stages_cons]
    apply Job.passes_bind_of_course (course_told pair _)
    intro result resolved
    let later : Turns := { turns with rate := fun i => turns.rate (i + 1) }
    have results : turns.results (pair :: pairs) = result :: later.results pairs := by
      simp [Turns.results, List.mapIdx_cons, resolved, Except.toOption, later]
    rw [results, ← List.append_nil (stages pairs _)]
    exact (ih later).bind fun _ => Job.passes_pure _

end Lookup

namespace QuotePolicy

variable (policy : QuotePolicy) (inquiry : Inquiry) (turns : Turns)

theorem course_concluded (state : QuotaState) (rates : List RateResult)
    (answer : Except Failure Unit) : Job.Course (do
      match ← ExceptT.lift (Gate.recordUsage policy.limit state inquiry.now).run with
      | .ok _ => return (⟨rates⟩ : QuoteResponse)
      | .error failure =>
        match policy.recording with
        | .strict => throw failure
        | .bestEffort =>
          Job.report (.usageNotRecorded inquiry.id failure)
          return ⟨rates⟩) [⟨policy.charge inquiry state, answer⟩]
    (policy.concluded rates answer) := by
  refine Job.course_lift_run_bind.mpr ⟨_, _, [], (List.append_nil _).symm,
    Gate.course_recordUsage.mpr ⟨answer, rfl, rfl⟩, ?_⟩
  unfold concluded
  cases answer with
  | ok done => exact Job.course_pure.mpr ⟨rfl, rfl⟩
  | error failure =>
    simp only [Except.map]
    cases policy.recording with
    | strict => exact Job.course_throw.mpr ⟨rfl, rfl⟩
    | bestEffort => exact Job.course_report.mpr (Job.course_pure.mpr ⟨rfl, rfl⟩)

theorem eq_of_concluded {rates : List RateResult} {answer : Except Failure Unit}
    {response : QuoteResponse} (h : policy.concluded rates answer = .ok response) :
    response = ⟨rates⟩ := by
  unfold concluded at h
  split at h
  · exact (Except.ok.inj h).symm
  · split at h
    · cases h
    · exact (Except.ok.inj h).symm

/-- A request goes through its stages, whatever it is answered there. -/
theorem passes_answer : Job.Passes (policy.answer inquiry.id inquiry.pairs inquiry.now)
    (policy.stages inquiry turns) ⟨turns.results inquiry.pairs⟩ := by
  unfold answer stages earlierStages pairsStage
  by_cases empty : inquiry.pairs.isEmpty
  · simp only [empty, if_true]
    exact Job.passes_throw _ _ _
  simp only [empty, if_false, Bool.false_eq_true]
  rw [List.cons_append, List.cons_append, List.append_assoc]
  apply Job.Passes.skip
  refine (Gate.passes_authorize _ _ _ turns).bind fun _ => ?_
  refine (Lookup.passes_resolveAll _ turns).bind fun _ => ?_
  exact Job.passes_of_course (course_concluded policy inquiry _ _ _) fun response concluded =>
    policy.eq_of_concluded concluded

end QuotePolicy

namespace QuotePolicy

variable (policy : QuotePolicy) (inquiry : Inquiry) (turns : Turns)

def chargeExchange : Exchange gatewaySignature :=
  ⟨policy.charge inquiry (turns.state inquiry.id), turns.write (turns.state inquiry.id)⟩

theorem exchanges_stages : Stage.exchanges (policy.stages inquiry turns) =
    Stage.exchanges (policy.earlierStages inquiry turns) ++
      if (Stage.verdict (policy.earlierStages inquiry turns)).isSome then []
      else [policy.chargeExchange inquiry turns] := by
  have last : Stage.exchanges [policy.writeStage inquiry turns] =
      [policy.chargeExchange inquiry turns] := by
    rw [Stage.exchanges_cons]
    cases Stage.fails _ <;> rfl
  rw [← last]
  exact Stage.exchanges_append _ _

theorem looks_earlierStages :
    ∀ exchange ∈ Stage.exchanges (policy.earlierStages inquiry turns),
      Call.Looks exchange.call := by
  intro exchange member
  have gate : ∀ exchange ∈ Stage.exchanges (Gate.stages policy.limit inquiry.id inquiry.now turns),
      Call.Looks exchange.call :=
    (Gate.looks_authorize policy.limit inquiry.id inquiry.now).of_course
      (Gate.passes_authorize policy.limit inquiry.id inquiry.now turns)
  have rates : ∀ exchange ∈ Stage.exchanges (Lookup.stages inquiry.pairs turns),
      Call.Looks exchange.call :=
    (Lookup.looks_resolveAll inquiry.pairs).of_course (Lookup.passes_resolveAll _ turns)
  rw [earlierStages, Stage.exchanges_append, Stage.exchanges_cons, List.mem_append] at member
  rcases member with first | last
  · split at first
    · cases first
    · exact gate exchange first
  · split at last
    · cases last
    · exact rates exchange last

variable {policy inquiry turns}

/-- A request that fails before its log is written does so under every policy. -/
theorem outcome_of_earlier {failure : Failure} (response : QuoteResponse)
    (fails : Stage.verdict (policy.earlierStages inquiry turns) = some failure) :
    Stage.outcome (policy.stages inquiry turns) response = .error failure := by
  apply Stage.outcome_of_some
  rw [stages, Stage.verdict_append, fails, Option.some_or]

/-- Once its log is written or not, a request ends as the policy says. -/
theorem outcome_of_written
    (passes : Stage.verdict (policy.earlierStages inquiry turns) = none) :
    Stage.outcome (policy.stages inquiry turns) ⟨turns.results inquiry.pairs⟩ =
      policy.concluded (turns.results inquiry.pairs) (turns.write (turns.state inquiry.id)) := by
  have verdict : Stage.verdict (policy.stages inquiry turns) =
      failureOf (policy.concluded (turns.results inquiry.pairs)
        (turns.write (turns.state inquiry.id))) := by
    rw [stages, Stage.verdict_append, passes, Option.none_or, Stage.verdict_cons]
    exact Option.or_none
  cases ended : policy.concluded (turns.results inquiry.pairs)
    (turns.write (turns.state inquiry.id)) with
  | error failure =>
    rw [ended] at verdict
    exact Stage.outcome_of_some verdict _
  | ok response =>
    rw [ended] at verdict
    rw [policy.eq_of_concluded ended]
    exact Stage.outcome_of_none verdict _

end QuotePolicy

end QuoteGateway
