import QuoteGateway.Proofs.Counters
import QuoteGateway.Proofs.Stages

/-!
# The first failing stage decides

Run against any surroundings, a request makes the calls of its stages up to the first that fails,
and fails as this one does. What the stages are answered is read off the surroundings: each call
after those that come before it where nothing fails.
-/

namespace QuoteGateway

namespace Responder

variable {σ α : Type} (respond : Responder σ)

/-- The surroundings after some calls. -/
def after (s : σ) (calls : List Call) : σ := calls.foldl (fun s call => (respond call s).2) s

/-- What a call is answered after some others. -/
def reply (s : σ) (before : List Call) (call : Call) : Except Failure call.Result :=
  (respond call (respond.after s before)).1

def callsIn (exchanges : List (Exchange gatewaySignature)) : List Call := exchanges.map (·.call)

theorem callsIn_append (first rest : List (Exchange gatewaySignature)) :
    callsIn (first ++ rest) = callsIn first ++ callsIn rest := List.map_append

/-- What a job exchanges with the surroundings. -/
def exchanges (job : Job α) (s : σ) : List (Exchange gatewaySignature) :=
  job.run.journal respond (fun _ => pure ()) s

/-- What a job results in. -/
def result (job : Job α) (s : σ) : Except Failure α :=
  (job.run.run (m := StateM σ) respond (fun _ => pure ()) s).1

/-- The surroundings give these answers, in this order. -/
def Gives : σ → List (Exchange gatewaySignature) → Prop
  | _, [] => True
  | s, exchange :: rest =>
    exchange.answer = (respond exchange.call s).1 ∧ Gives (respond exchange.call s).2 rest

theorem after_append (s : σ) (calls more : List Call) :
    respond.after s (calls ++ more) = respond.after (respond.after s calls) more :=
  List.foldl_append

theorem reply_append (s : σ) (before more : List Call) (call : Call) :
    respond.reply s (before ++ more) call = respond.reply (respond.after s before) more call := by
  rw [reply, after_append]
  rfl

theorem gives_append {s : σ} {first rest : List (Exchange gatewaySignature)} :
    respond.Gives s (first ++ rest) ↔
      respond.Gives s first ∧ respond.Gives (respond.after s (callsIn first)) rest := by
  induction first generalizing s with
  | nil => exact (and_iff_right trivial).symm
  | cons exchange first ih =>
    simp only [List.cons_append, Gives, ih, and_assoc]
    rfl

/-- A course with the answers that the surroundings give is what happens. -/
theorem eq_of_course {d : Dialogue gatewaySignature α} {s : σ}
    {exchanges : List (Exchange gatewaySignature)} {a : α} (course : d.Course exchanges a)
    (given : respond.Gives s exchanges) :
    d.journal respond (fun _ => pure ()) s = exchanges ∧
      (d.run (m := StateM σ) respond (fun _ => pure ()) s).1 = a := by
  induction d generalizing s exchanges with
  | done b =>
    obtain ⟨rfl, rfl⟩ := course
    exact ⟨rfl, rfl⟩
  | ask call next ih =>
    obtain ⟨answer, rest, rfl, later⟩ := course
    obtain ⟨here, there⟩ := given
    change answer = (respond call s).1 at here
    subst here
    obtain ⟨journal, result⟩ := ih _ later there
    exact ⟨congrArg _ journal, result⟩
  | tell event next ih => exact ih course given

end Responder

namespace QuotePolicy

variable {σ : Type} (policy : QuotePolicy) (inquiry : Inquiry) (respond : Responder σ) (s : σ)

def gateCalls (id : String) : Except Failure (Option String) → List Call
  | .ok none => [Gate.readLog id, .findKey id]
  | _ => [Gate.readLog id]

/-- What a request is answered at each of its stages, if it gets there. -/
def faced : Turns :=
  let log := respond.reply s [] (Gate.readLog inquiry.id)
  let gate := gateCalls inquiry.id log
  { log
    record := respond.reply s [Gate.readLog inquiry.id] (.findKey inquiry.id)
    rate i pair := respond.reply s (gate ++ (inquiry.pairs.take i).map Lookup.readRate)
      (Lookup.readRate pair)
    write state := respond.reply s (gate ++ inquiry.pairs.map Lookup.readRate)
      (policy.charge inquiry state) }

variable (turns : Turns)

def gateExchanges (limit : RateLimit) : List (Exchange gatewaySignature) :=
  (Gate.stages limit inquiry.id inquiry.now turns).filterMap Stage.exchange

def rateExchanges (pairs : List CurrencyPair) : List (Exchange gatewaySignature) :=
  (Lookup.stages pairs turns).filterMap Stage.exchange

theorem callsIn_gateExchanges (limit : RateLimit) :
    Responder.callsIn (gateExchanges inquiry turns limit) = gateCalls inquiry.id turns.log := by
  simp only [gateExchanges, Gate.stages, Gate.nameStage, Gate.logStage, Gate.recordStage,
    Gate.quotaStage, Stage.ofResult]
  rcases turns.log with failure | _ | text <;> rfl

theorem rateExchanges_cons (pair : CurrencyPair) (pairs : List CurrencyPair) :
    rateExchanges turns (pair :: pairs) = ⟨Lookup.readRate pair, turns.rate 0 pair⟩ ::
      rateExchanges { turns with rate := fun i => turns.rate (i + 1) } pairs := by
  rw [rateExchanges, Lookup.stages_cons]
  rfl

theorem callsIn_rateExchanges (pairs : List CurrencyPair) :
    Responder.callsIn (rateExchanges turns pairs) = pairs.map Lookup.readRate := by
  induction pairs generalizing turns with
  | nil => rfl
  | cons pair pairs ih =>
    rw [rateExchanges_cons, List.map_cons, ← ih]
    rfl

theorem gives_rateExchanges (pairs : List CurrencyPair) (s : σ)
    (rate : turns.rate = fun i pair => respond.reply s ((pairs.take i).map Lookup.readRate)
      (Lookup.readRate pair)) :
    respond.Gives s (rateExchanges turns pairs) := by
  induction pairs generalizing turns s with
  | nil => trivial
  | cons pair pairs ih =>
    rw [rateExchanges_cons]
    refine ⟨congrFun (congrFun rate 0) pair, ih _ _ ?_⟩
    funext i other
    exact congrFun (congrFun rate (i + 1)) other

theorem gives_gate : respond.Gives s
    (gateExchanges inquiry (policy.faced inquiry respond s) policy.limit) := by
  simp only [gateExchanges, Gate.stages, Gate.nameStage, Gate.logStage, Gate.recordStage,
    Gate.quotaStage, Stage.ofResult]
  rcases log : (policy.faced inquiry respond s).log with failure | _ | text
  · exact ⟨log.symm, trivial⟩
  · exact ⟨log.symm, rfl, trivial⟩
  · exact ⟨log.symm, trivial⟩

def allCalls : List Call :=
  gateCalls inquiry.id turns.log ++ inquiry.pairs.map Lookup.readRate ++
    [policy.charge inquiry (turns.state inquiry.id)]

theorem exchanges_of_stages : (policy.stages inquiry turns).filterMap Stage.exchange =
    gateExchanges inquiry turns policy.limit ++ rateExchanges turns inquiry.pairs ++
      [⟨policy.charge inquiry (turns.state inquiry.id),
        turns.write (turns.state inquiry.id)⟩] := by
  rw [stages, earlierStages, List.cons_append, List.cons_append, List.filterMap_cons_none rfl,
    List.filterMap_append, List.filterMap_append]
  rfl

theorem callsIn_lookups : Responder.callsIn
    (gateExchanges inquiry turns policy.limit ++ rateExchanges turns inquiry.pairs) =
    gateCalls inquiry.id turns.log ++ inquiry.pairs.map Lookup.readRate := by
  rw [Responder.callsIn_append, callsIn_gateExchanges, callsIn_rateExchanges]

theorem callsIn_stages :
    Responder.callsIn ((policy.stages inquiry turns).filterMap Stage.exchange) =
      policy.allCalls inquiry turns := by
  rw [exchanges_of_stages, Responder.callsIn_append, callsIn_lookups]
  rfl

theorem gives_stages : respond.Gives s
    ((policy.stages inquiry (policy.faced inquiry respond s)).filterMap Stage.exchange) := by
  let turns := policy.faced inquiry respond s
  rw [exchanges_of_stages, Responder.gives_append, Responder.gives_append]
  refine ⟨⟨gives_gate policy inquiry respond s, ?_⟩, ?_⟩
  · rw [callsIn_gateExchanges]
    apply gives_rateExchanges
    funext i pair
    exact respond.reply_append s _ _ _
  · let written := policy.charge inquiry (turns.state inquiry.id)
    have calls := policy.callsIn_lookups inquiry turns
    exact ⟨congrArg (respond.reply s · written) calls.symm, trivial⟩

/-- What a request exchanges, and what it results in, is what its stages say. -/
theorem result_and_exchanges :
    let job := policy.answer inquiry.id inquiry.pairs inquiry.now
    let turns := policy.faced inquiry respond s
    respond.exchanges job s = Stage.exchanges (policy.stages inquiry turns) ∧
      respond.result job s =
        Stage.outcome (policy.stages inquiry turns) ⟨turns.results inquiry.pairs⟩ := by
  intro job turns
  obtain ⟨rest, whole⟩ := Stage.exchanges_prefix (policy.stages inquiry turns)
  have given := policy.gives_stages inquiry respond s
  rw [← whole, Responder.gives_append] at given
  exact respond.eq_of_course (policy.passes_answer inquiry turns) given.1

end QuotePolicy

def Stage.FailsWith (P : Failure → Prop) (stage : Stage) : Prop :=
  ∀ failure, stage.failure = some failure → P failure

def Failure.Names (pair : CurrencyPair) (failure : Failure) : Prop :=
  ∃ before after, failure.message = before ++ pair.text ++ after

theorem Failure.names_noRate (pair : CurrencyPair) : (Failure.noRate pair).Names pair :=
  ⟨_, "", (String.append_empty).symm⟩

theorem Failure.names_rateNotRead (pair : CurrencyPair) (cause : Failure) :
    (Failure.rateNotRead pair cause).Names pair :=
  ⟨Category.cache.heading ++ "Failed to read rate for ", ": " ++ cause.message,
    String.append_assoc⟩

theorem Job.category_of_entryOf {α : Type} {reader : Json.Reader α} {key : String}
    {answer : Except Failure (Option String)} {failure : Failure}
    (own : ∀ failure, answer = .error failure → failure.category = .cache)
    (h : entryOf reader key answer = .error failure) : failure.category = .cache := by
  unfold entryOf at h
  split at h
  · exact own failure (by rw [Except.error.inj h])
  · cases h
  · split at h
    · cases h
    · rw [← Except.error.inj h]
      rfl

theorem Lookup.failsWith_rateStage (pair : CurrencyPair)
    (answer : Except Failure (Option String)) :
    (rateStage pair answer).FailsWith fun failure => failure.Names pair ∧
      (failure.category = .cache ∨ failure.category = .notFound ∧ answer = .ok none) := by
  intro failure fails
  have missed : told pair answer = .error failure := failureOf_eq_some.mp fails
  unfold told at missed
  split at missed
  · obtain rfl := Except.error.inj missed
    exact ⟨Failure.names_rateNotRead pair _, .inl rfl⟩
  · rename_i entry
    obtain rfl := Except.error.inj missed
    exact ⟨Failure.names_noRate pair, .inr ⟨rfl, Job.entryOf_eq_none entry⟩⟩
  · cases missed

theorem Gate.failsWith_recordStage (id : String) (turns : Turns) :
    (recordStage id turns).FailsWith fun failure => turns.log = .ok none ∧
      (turns.record = .error failure ∨
        turns.record = .ok none ∧ failure.category = .notFound) := by
  intro failure fails
  unfold recordStage at fails
  split at fails
  · rename_i missed
    refine ⟨missed, ?_⟩
    have unseeded : seeded id turns.record = .error failure := failureOf_eq_some.mp fails
    unfold seeded at unseeded
    split at unseeded
    · rename_i cause answer
      exact .inl (by rw [answer, Except.error.inj unseeded])
    · rename_i answer
      refine .inr ⟨answer, ?_⟩
      rw [← Except.error.inj unseeded]
      rfl
    · cases unseeded
  · cases fails

theorem QuotePolicy.failsWith_writeStage (policy : QuotePolicy) (inquiry : Inquiry)
    (turns : Turns) : (policy.writeStage inquiry turns).FailsWith fun failure =>
      policy.recording = .strict ∧ turns.write (turns.state inquiry.id) = .error failure := by
  intro failure fails
  have ended : policy.concluded _ (turns.write (turns.state inquiry.id)) = .error failure :=
    failureOf_eq_some.mp fails
  unfold concluded at ended
  split at ended
  · cases ended
  · rename_i cause answer
    split at ended
    · rename_i strict
      exact ⟨strict, by rw [answer, Except.error.inj ended]⟩
    · cases ended

theorem isSome_ite_some {α : Type} (condition : Bool) (a : α) :
    (if condition then some a else none).isSome = true ↔ condition = true := by
  cases condition <;> simp

theorem Job.fails_entryOf {α : Type} (reader : Json.Reader α) (key : String)
    (answer : Except Failure (Option String)) :
    (failureOf (entryOf reader key answer)).isSome = true ↔ answer ≠ .ok none ∧
      ∀ text, answer = .ok (some text) → ∀ a, Json.readText reader text ≠ .ok a := by
  rcases answer with failure | _ | text
  · simp [entryOf, failureOf]
  · simp [entryOf, failureOf]
  · cases read : Json.readText reader text <;> simp [entryOf, failureOf, read]

theorem Lookup.fails_rateStage (pair : CurrencyPair) (answer : Except Failure (Option String)) :
    (rateStage pair answer).fails = true ↔ ∀ text, answer = .ok (some text) →
      ∀ cached, Json.readText CachedRate.reader text ≠ .ok cached := by
  change (failureOf (told pair answer)).isSome = true ↔ _
  rcases answer with failure | _ | text
  · simp [told, Job.entryOf, failureOf]
  · simp [told, Job.entryOf, failureOf]
  · cases read : Json.readText CachedRate.reader text <;>
      simp [told, Job.entryOf, failureOf, read]

theorem Gate.fails_recordStage (id : String) (turns : Turns) :
    (recordStage id turns).fails = true ↔
      turns.log = .ok none ∧ ∀ key, turns.record ≠ .ok (some key) := by
  rcases log : turns.log with failure | _ | text
  · simp [recordStage, log, Stage.fails, Stage.skipped]
  · rcases record : turns.record with failure | _ | key <;>
      simp [recordStage, log, record, Stage.fails, Stage.ofResult, seeded, failureOf]
  · simp [recordStage, log, Stage.fails, Stage.skipped]

theorem QuotePolicy.fails_writeStage (policy : QuotePolicy) (inquiry : Inquiry) (turns : Turns) :
    (policy.writeStage inquiry turns).fails = true ↔
      policy.recording = .strict ∧ turns.write (turns.state inquiry.id) ≠ .ok () := by
  rcases write : turns.write (turns.state inquiry.id) with failure | done
  · cases recording : policy.recording <;>
      simp [writeStage, write, Stage.fails, Stage.ofResult, concluded, recording, failureOf]
  · simp [writeStage, write, Stage.fails, Stage.ofResult, concluded, failureOf]

namespace QuotePolicy

variable {σ : Type} (policy : QuotePolicy) (inquiry : Inquiry)

/-- How the stages of a request fail, if they do. -/
structure FailsInKind (turns : Turns) : Prop where
  pairs : (pairsStage inquiry).FailsWith fun failure =>
    inquiry.pairs = [] ∧ failure.category = .validation
  name : (Gate.nameStage inquiry.id).FailsWith fun failure =>
    inquiry.id = "" ∧ failure.category = .notAuthorized
  log : (∀ failure, turns.log = .error failure → failure.category = .cache) →
    (Gate.logStage inquiry.id turns).FailsWith fun failure => failure.category = .cache
  record : (Gate.recordStage inquiry.id turns).FailsWith fun failure => turns.log = .ok none ∧
    (turns.record = .error failure ∨ turns.record = .ok none ∧ failure.category = .notFound)
  quota : (Gate.quotaStage policy.limit inquiry.id inquiry.now turns).FailsWith fun failure =>
    failure.category = .tooManyRequests ∧ (turns.state inquiry.id).tier = .limited ∧
      policy.limit.maxUsages.toNat ≤ countSince (policy.limit.windowStart inquiry.now).toInt
        (turns.state inquiry.id).seconds
  rate : ∀ pair answer, (Lookup.rateStage pair answer).FailsWith fun failure =>
    failure.Names pair ∧
      (failure.category = .cache ∨ failure.category = .notFound ∧ answer = .ok none)
  write : (policy.writeStage inquiry turns).FailsWith fun failure =>
    policy.recording = .strict ∧ turns.write (turns.state inquiry.id) = .error failure

theorem failsInKind (turns : Turns) : policy.FailsInKind inquiry turns where
  pairs failure fails := by
    have empty : inquiry.pairs.isEmpty ∧ Failure.noPairs = failure := by
      simpa [pairsStage] using fails
    exact ⟨List.isEmpty_iff.mp empty.1, empty.2 ▸ rfl⟩
  name failure fails := by
    have empty : inquiry.id.isEmpty ∧ Failure.missingApiKey = failure := by
      simpa [Gate.nameStage] using fails
    exact ⟨String.isEmpty_iff.mp empty.1, empty.2 ▸ rfl⟩
  log own failure fails := Job.category_of_entryOf own (failureOf_eq_some.mp fails)
  record := Gate.failsWith_recordStage inquiry.id turns
  quota failure fails := by
    have full : (turns.state inquiry.id).exceeds policy.limit inquiry.now ∧
        Failure.quotaExceeded inquiry.id policy.limit.maxUsages policy.limit.window.seconds =
          failure := by
      simpa [Gate.quotaStage] using fails
    exact ⟨full.2 ▸ rfl, (QuotaState.exceeds_iff _ _ _).mp full.1⟩
  rate := Lookup.failsWith_rateStage
  write := policy.failsWith_writeStage inquiry turns

/-- When the stages of a request fail. -/
structure FailsWhen (turns : Turns) : Prop where
  pairs : (pairsStage inquiry).fails ↔ inquiry.pairs = []
  name : (Gate.nameStage inquiry.id).fails ↔ inquiry.id = ""
  log : (Gate.logStage inquiry.id turns).fails ↔ turns.log ≠ .ok none ∧
    ∀ text, turns.log = .ok (some text) → ∀ state, Json.readText QuotaState.reader text ≠ .ok state
  record : (Gate.recordStage inquiry.id turns).fails ↔
    turns.log = .ok none ∧ ∀ key, turns.record ≠ .ok (some key)
  quota : (Gate.quotaStage policy.limit inquiry.id inquiry.now turns).fails ↔
    (turns.state inquiry.id).tier = .limited ∧
      policy.limit.maxUsages.toNat ≤ countSince (policy.limit.windowStart inquiry.now).toInt
        (turns.state inquiry.id).seconds
  rate : ∀ pair answer, (Lookup.rateStage pair answer).fails ↔
    ∀ text, answer = .ok (some text) → ∀ cached, Json.readText CachedRate.reader text ≠ .ok cached
  absent : ∀ pair, (Lookup.rateStage pair (.ok none)).FailsWith fun failure =>
    failure.category = .notFound
  write : (policy.writeStage inquiry turns).fails ↔
    policy.recording = .strict ∧ turns.write (turns.state inquiry.id) ≠ .ok ()

theorem failsWhen (turns : Turns) : policy.FailsWhen inquiry turns where
  pairs := (isSome_ite_some _ _).trans List.isEmpty_iff
  name := (isSome_ite_some _ _).trans String.isEmpty_iff
  log := Job.fails_entryOf ..
  record := Gate.fails_recordStage inquiry.id turns
  quota := (isSome_ite_some _ _).trans (QuotaState.exceeds_iff _ _ _)
  rate := Lookup.fails_rateStage
  absent pair failure fails := by
    have missed : Failure.noRate pair = failure := Option.some.inj fails
    exact missed ▸ rfl
  write := policy.fails_writeStage inquiry turns

theorem exchanges_stages_of_missing (turns : Turns)
    (missing : inquiry.pairs = [] ∨ inquiry.id = "") :
    Stage.exchanges (policy.stages inquiry turns) = [] := by
  have rejects : (pairsStage inquiry).fails ∨ (Gate.nameStage inquiry.id).fails := by
    rcases missing with pairs | name
    · exact .inl (by rw [pairsStage, pairs]; rfl)
    · exact .inr (by rw [name]; rfl)
  unfold stages earlierStages Gate.stages
  rw [List.cons_append, List.cons_append, List.cons_append, List.cons_append,
    Stage.exchanges_cons, Stage.exchanges_cons]
  rcases rejects with pairs | name
  · rw [pairs]
    rfl
  · rw [name]
    cases (pairsStage inquiry).fails <;> rfl

/-- A request is decided by the first of its stages that fails, and makes the calls of the stages up
to this one. -/
structure Decided (respond : Responder σ) (s : σ) : Prop where
  exchanges : respond.exchanges (policy.answer inquiry.id inquiry.pairs inquiry.now) s =
    Stage.exchanges (policy.stages inquiry (policy.faced inquiry respond s))
  result : respond.result (policy.answer inquiry.id inquiry.pairs inquiry.now) s =
    Stage.outcome (policy.stages inquiry (policy.faced inquiry respond s))
      ⟨(policy.faced inquiry respond s).results inquiry.pairs⟩
  kinds : policy.FailsInKind inquiry (policy.faced inquiry respond s)
  causes : policy.FailsWhen inquiry (policy.faced inquiry respond s)
  calls : Responder.callsIn
      (respond.exchanges (policy.answer inquiry.id inquiry.pairs inquiry.now) s) <+:
    policy.allCalls inquiry (policy.faced inquiry respond s)
  silent : inquiry.pairs = [] ∨ inquiry.id = "" →
    respond.exchanges (policy.answer inquiry.id inquiry.pairs inquiry.now) s = []

/-- Whatever the cache holds, whichever calls fail and whatever the key store knows, a request is
decided by the first stage that fails: pairs are missing, the key is missing, the log cannot be
read, no record is found where there is no log, the log is full, one of the pairs in their order has
no rate, the log cannot be written. -/
theorem decided_by_first_failure (respond : Responder σ) (s : σ) :
    policy.Decided inquiry respond s := by
  obtain ⟨exchanges, result⟩ := policy.result_and_exchanges inquiry respond s
  refine ⟨exchanges, result, policy.failsInKind inquiry _, policy.failsWhen inquiry _, ?_,
    fun missing => ?_⟩
  · rw [exchanges, ← callsIn_stages]
    exact (Stage.exchanges_prefix _).map _
  · rw [exchanges]
    exact policy.exchanges_stages_of_missing inquiry _ missing

end QuotePolicy

namespace Small

/-- A full log is the reason given, where the pair would have no rate either. -/
example :
    let scene := setup.after published [.inquire (inquiry firstSecond) world]
    (failureOf (setup.inquire scene ⟨"key", [⟨"eur", "jpy"⟩], firstSecond⟩ world).1).map
      Failure.category = some .tooManyRequests := by
  decide +kernel

end Small

end QuoteGateway
