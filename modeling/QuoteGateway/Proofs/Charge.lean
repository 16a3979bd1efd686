import QuoteGateway.Proofs.Conduct
import QuoteGateway.Proofs.Course
import QuoteGateway.Proofs.QuotaText

/-!
# What a request charges

A request that fails leaves the cache as it was. One that is served asks for the log of its key,
then for the rate of each pair, and then writes the log with one more usage in it, which is all
that it ever changes. This is read off the courses of the request, so it does not depend on what
the cache holds, on which of its calls fail or on what the key store knows.
-/

namespace QuoteGateway

open Cache (TimedMap)

/-- A call that looks something up, in the cache or in the key store. -/
def Call.Looks : Call → Prop
  | .cache (.read _) | .findKey _ => True
  | _ => False

namespace Exchange

def effect (now : Nat) (map : TimedMap) : Exchange gatewaySignature → TimedMap
  | ⟨.cache call, .ok _⟩ => (map.answer now call).2
  | _ => map

/-- The exchange leaves the cache alone: something is looked up, or the call fails. -/
def Idle : Exchange gatewaySignature → Prop
  | ⟨call, answer⟩ => Call.Looks call ∨ ∃ failure, answer = .error failure

theorem effect_of_idle {exchange : Exchange gatewaySignature} (h : exchange.Idle) (now : Nat)
    (map : TimedMap) : effect now map exchange = map := by
  obtain ⟨call, answer⟩ := exchange
  rcases h with looks | ⟨failure, rfl⟩
  · cases call with
    | cache call =>
      cases call with
      | read key => cases answer <;> rfl
      | _ => cases looks
    | _ => rfl
  · cases call <;> rfl

theorem foldl_effect_of_idle {exchanges : List (Exchange gatewaySignature)}
    (h : ∀ exchange ∈ exchanges, exchange.Idle) (now : Nat) (map : TimedMap) :
    exchanges.foldl (effect now) map = map := by
  induction exchanges with
  | nil => rfl
  | cons exchange exchanges ih =>
    rw [List.foldl_cons, effect_of_idle (h exchange List.mem_cons_self)]
    exact ih fun other later => h other (List.mem_cons_of_mem exchange later)

theorem idle_of_looks {exchanges : List (Exchange gatewaySignature)}
    (h : ∀ exchange ∈ exchanges, Call.Looks exchange.call) :
    ∀ exchange ∈ exchanges, exchange.Idle :=
  fun exchange member => .inl (h exchange member)

end Exchange

namespace Circumstances

variable (c : Circumstances) (now : Nat) {α : Type}

def exchanges (d : Dialogue gatewaySignature α) (p : Progress) :
    List (Exchange gatewaySignature) :=
  d.journal (c.respond now) (fun _ => pure ()) p

theorem respond_map (call : gatewaySignature.Call) (p : Progress) :
    (c.respond now call p).2.map = Exchange.effect now p.map ⟨call, (c.respond now call p).1⟩ := by
  cases call with
  | cache call =>
    rw [respond]
    cases c.fault p.calls call <;> rfl
  | findKey id => rfl
  | pingStore => rfl
  | fetchRates bases => rfl

/-- The map after a dialogue is the one that its exchanges lead to. -/
theorem carryOut_map (d : Dialogue gatewaySignature α) (p : Progress) :
    (c.carryOut now d p).2.map = (c.exchanges now d p).foldl (Exchange.effect now) p.map := by
  induction d generalizing p with
  | done a => rfl
  | ask call next ih =>
    rw [carryOut_ask, ih, respond_map]
    rfl
  | tell event next ih => exact ih p

end Circumstances

namespace Gate

variable {limit : RateLimit} {id : String} {t : Calendar.Instant} {state : QuotaState}
  {exchanges : List (Exchange gatewaySignature)}

theorem looks_loadState (id : String) : Job.Asks Call.Looks (loadState id) := by
  apply Job.Asks.bind (Job.asks_readEntry trivial)
  rintro (_ | state)
  · apply Job.Asks.bind (Job.asks_call trivial)
    rintro (_ | key)
    · exact Job.asks_throw _
    · exact Job.asks_pure _
  · exact Job.asks_pure _

/-- The gate decides without changing anything. -/
theorem looks_authorize (limit : RateLimit) (id : String) (t : Calendar.Instant) :
    Job.Asks Call.Looks (authorize limit id t) := by
  unfold authorize
  by_cases empty : id.isEmpty
  · simp only [empty, if_true]
    exact Job.asks_throw _
  simp only [empty, if_false, Bool.false_eq_true]
  apply Job.Asks.bind (looks_loadState id)
  intro state
  split
  · exact (Job.asks_throw _).report _
  · exact Job.asks_pure _

theorem course_recordUsage {result : Except Failure QuotaState} :
    Job.Course (recordUsage limit state t) exchanges result ↔
      ∃ answer : Except Failure Unit,
        exchanges = [⟨.cache (.write (CacheKey.ofApiKey state.apiKeyId)
          (state.record t.unixSeconds (limit.windowStart t)).document.compact limit.stateLifetime),
          answer⟩] ∧
        result = answer.map fun _ => state.record t.unixSeconds (limit.windowStart t) := by
  rw [recordUsage, Job.course_bind]
  constructor
  · rintro (⟨failure, write, rfl⟩ | ⟨first, ⟨⟩, rest, rfl, write, ends⟩)
    · exact ⟨.error failure, Job.course_writeEntry.mp write, rfl⟩
    · obtain ⟨rfl, rfl⟩ := Job.course_pure.mp ends
      exact ⟨.ok (), (List.append_nil first).trans (Job.course_writeEntry.mp write), rfl⟩
  · rintro ⟨failure | ⟨⟩, rfl, rfl⟩
    · exact .inl ⟨failure, Job.course_writeEntry.mpr rfl, rfl⟩
    · exact .inr ⟨_, (), [], rfl, Job.course_writeEntry.mpr rfl, rfl, rfl⟩

end Gate

/-- A pair with an entry of the cache that tells its rate. -/
structure Hit where
  pair : CurrencyPair
  text : String
  cached : CachedRate
  told : Json.readText CachedRate.reader text = .ok cached

namespace Hit

def exchange (hit : Hit) : Exchange gatewaySignature :=
  ⟨.cache (.read (CacheKey.ofRate hit.pair.base hit.pair.target)), .ok (some hit.text)⟩

def result (hit : Hit) : RateResult := .ofCached hit.pair hit.cached

end Hit

namespace Lookup

variable {exchanges : List (Exchange gatewaySignature)}

theorem looks_resolve (pair : CurrencyPair) : Job.Asks Call.Looks (resolve pair) := by
  apply Job.Asks.bind ((Job.asks_readEntry trivial).adapt _)
  rintro (_ | cached)
  · exact Job.asks_throw _
  · exact Job.asks_pure _

theorem looks_resolveAll (pairs : List CurrencyPair) : Job.Asks Call.Looks (resolveAll pairs) := by
  induction pairs with
  | nil => exact Job.asks_pure _
  | cons pair pairs ih =>
    exact (looks_resolve pair).bind fun _ => ih.bind fun _ => Job.asks_pure _

theorem course_resolve {pair : CurrencyPair} {rate : RateResult}
    (h : Job.Course (resolve pair) exchanges (.ok rate)) :
    ∃ hit : Hit, hit.pair = pair ∧ exchanges = [hit.exchange] ∧ rate = hit.result := by
  rcases Job.course_bind.mp h with ⟨failure, -, ⟨⟩⟩ | ⟨first, entry, rest, rfl, read, ends⟩
  obtain ⟨outcome, read, same⟩ := Job.course_adapt.mp read
  obtain ⟨answer, rfl, rfl⟩ := Job.course_readEntry.mp read
  rcases answer with failure | _ | text
  · cases same
  · cases same
    cases ends.2
  simp only [Job.entryOf] at same
  cases told : Json.readText CachedRate.reader text with
  | error cause =>
    rw [told] at same
    cases same
  | ok cached =>
    rw [told] at same
    cases same
    obtain ⟨rfl, ⟨⟩⟩ := Job.course_pure.mp ends
    exact ⟨⟨pair, text, cached, told⟩, rfl, rfl, rfl⟩

theorem course_resolveAll {pairs : List CurrencyPair} {rates : List RateResult}
    (h : Job.Course (resolveAll pairs) exchanges (.ok rates)) :
    ∃ hits : List Hit, hits.map Hit.pair = pairs ∧ exchanges = hits.map Hit.exchange ∧
      rates = hits.map Hit.result := by
  induction pairs generalizing exchanges rates with
  | nil =>
    obtain ⟨rfl, same⟩ := Job.course_pure.mp h
    cases same
    exact ⟨[], rfl, rfl, rfl⟩
  | cons pair pairs ih =>
    rcases Job.course_bind.mp h with ⟨failure, -, ⟨⟩⟩ | ⟨first, rate, rest, rfl, one, goesOn⟩
    rcases Job.course_bind.mp goesOn with ⟨failure, -, ⟨⟩⟩ | ⟨second, others, last, rfl, more, ends⟩
    obtain ⟨rfl, same⟩ := Job.course_pure.mp ends
    cases same
    obtain ⟨hit, rfl, rfl, rfl⟩ := course_resolve one
    obtain ⟨hits, rfl, rfl, rfl⟩ := ih more
    exact ⟨hit :: hits, rfl, by simp, rfl⟩

end Lookup

namespace QuotePolicy

variable (policy : QuotePolicy) (inquiry : Inquiry)

/-- The call that writes the log of an admitted request. -/
def charge (state : QuotaState) : Call :=
  .cache (.write (CacheKey.ofApiKey state.apiKeyId) (state.record inquiry.now.unixSeconds
    (policy.limit.windowStart inquiry.now)).document.compact policy.limit.stateLifetime)

/-- The exchanges of a request that is served: the gate admits it, every pair is found, and then
the log is written. Only a policy that asks for no more than an attempt lets the write fail. -/
structure ServedBy (exchanges : List (Exchange gatewaySignature)) (state : QuotaState)
    (response : QuoteResponse) (answer : Except Failure Unit)
    (gate : List (Exchange gatewaySignature)) (hits : List Hit) : Prop where
  order : exchanges = gate ++ hits.map Hit.exchange ++ [⟨policy.charge inquiry state, answer⟩]
  admitted : Job.Course (Gate.authorize policy.limit inquiry.id inquiry.now) gate (.ok state)
  nonempty : inquiry.pairs ≠ []
  pairs : hits.map Hit.pair = inquiry.pairs
  rates : response.rates = hits.map Hit.result
  recorded : answer = .ok () ∨ policy.recording = .bestEffort

variable {policy inquiry} {exchanges : List (Exchange gatewaySignature)}

theorem ServedBy.looks {state : QuotaState} {response : QuoteResponse}
    {answer : Except Failure Unit} {gate : List (Exchange gatewaySignature)} {hits : List Hit}
    (served : policy.ServedBy inquiry exchanges state response answer gate hits) :
    ∀ exchange ∈ gate ++ hits.map Hit.exchange, Call.Looks exchange.call := by
  rw [List.forall_mem_append, List.forall_mem_map]
  exact ⟨(Gate.looks_authorize _ _ _).of_course served.admitted, fun hit _ => trivial⟩

/-- The last part of a request is one write, whose failure is that of the request if the policy is
strict. -/
theorem course_record {state : QuotaState} {rates : List RateResult}
    {result : Except Failure QuoteResponse} (h : Job.Course (do
      match ← ExceptT.lift (Gate.recordUsage policy.limit state inquiry.now).run with
      | .ok _ => return ⟨rates⟩
      | .error failure =>
        match policy.recording with
        | .strict => throw failure
        | .bestEffort =>
          Job.report (.usageNotRecorded inquiry.id failure)
          return ⟨rates⟩) exchanges result) :
    ∃ answer, exchanges = [⟨policy.charge inquiry state, answer⟩] ∧
      ((∃ failure, answer = .error failure ∧ result = .error failure) ∨
        (result = .ok ⟨rates⟩ ∧ (answer = .ok () ∨ policy.recording = .bestEffort))) := by
  obtain ⟨last, outcome, rest, rfl, attempt, goesOn⟩ := Job.course_lift_run_bind.mp h
  obtain ⟨answer, rfl, rfl⟩ := Gate.course_recordUsage.mp attempt
  refine ⟨answer, ?_⟩
  cases answer with
  | ok done =>
    obtain ⟨rfl, served⟩ := Job.course_pure.mp goesOn
    exact ⟨rfl, .inr ⟨served, .inl rfl⟩⟩
  | error failure =>
    cases recording : policy.recording with
    | strict =>
      simp only [Except.map, recording] at goesOn
      obtain ⟨rfl, failed⟩ := Job.course_throw.mp goesOn
      exact ⟨rfl, .inl ⟨failure, rfl, failed⟩⟩
    | bestEffort =>
      simp only [Except.map, recording] at goesOn
      obtain ⟨rfl, served⟩ := Job.course_pure.mp (Job.course_report.mp goesOn)
      exact ⟨rfl, .inr ⟨served, .inr rfl⟩⟩

/-- On every cache, a request either fails and has changed nothing, or it is served with one write
at its end. -/
theorem course_answer {result : Except Failure QuoteResponse}
    (h : Job.Course (policy.answer inquiry.id inquiry.pairs inquiry.now) exchanges result) :
    (∃ failure, result = .error failure ∧ ∀ exchange ∈ exchanges, exchange.Idle) ∨
      ∃ state response answer gate hits, result = .ok response ∧
        policy.ServedBy inquiry exchanges state response answer gate hits := by
  unfold answer at h
  by_cases empty : inquiry.pairs.isEmpty
  · simp only [empty, if_true] at h
    obtain ⟨rfl, rfl⟩ := Job.course_throw.mp h
    exact .inl ⟨_, rfl, List.forall_mem_nil _⟩
  simp only [empty, if_false, Bool.false_eq_true] at h
  rcases Job.course_bind.mp h with ⟨failure, refused, rfl⟩ | ⟨gate, state, rest, rfl, admitted, h⟩
  · exact .inl ⟨failure, rfl,
      Exchange.idle_of_looks ((Gate.looks_authorize _ _ _).of_course refused)⟩
  have gateIdle := Exchange.idle_of_looks ((Gate.looks_authorize _ _ _).of_course admitted)
  rcases Job.course_bind.mp h with ⟨failure, missed, rfl⟩ | ⟨lookups, rates, last, rfl, found, h⟩
  · refine .inl ⟨failure, rfl, List.forall_mem_append.mpr ⟨gateIdle, ?_⟩⟩
    exact Exchange.idle_of_looks ((Lookup.looks_resolveAll _).of_course missed)
  have lookupsIdle := Exchange.idle_of_looks ((Lookup.looks_resolveAll _).of_course found)
  obtain ⟨answer, rfl, ⟨failure, rfl, rfl⟩ | ⟨rfl, recorded⟩⟩ := course_record h
  · refine .inl ⟨failure, rfl, List.forall_mem_append.mpr ⟨gateIdle,
      List.forall_mem_append.mpr ⟨lookupsIdle, ?_⟩⟩⟩
    exact List.forall_mem_singleton.mpr (.inr ⟨failure, rfl⟩)
  · obtain ⟨hits, pairs, rfl, rfl⟩ := Lookup.course_resolveAll found
    exact .inr ⟨state, _, answer, gate, hits, rfl, (List.append_assoc _ _ _).symm, admitted,
      mt List.isEmpty_iff.mpr empty, pairs, rfl, recorded⟩

end QuotePolicy

namespace Setup

variable (setup : Setup) (scene : Scene) (inquiry : Inquiry) (c : Circumstances)

def admission : Except Failure QuotaState :=
  (c.conduct scene.now (Gate.authorize setup.policy.limit inquiry.id inquiry.now) ⟨0, scene.map⟩).1

def exchanges : List (Exchange gatewaySignature) :=
  c.exchanges scene.now (setup.policy.answer inquiry.id inquiry.pairs inquiry.now).run
    ⟨0, scene.map⟩

theorem course_exchanges :
    Job.Course (setup.policy.answer inquiry.id inquiry.pairs inquiry.now)
      (setup.exchanges scene inquiry c) (setup.inquire scene inquiry c).1 :=
  Dialogue.course_journal _ _ _ _

theorem inquire_map_eq_foldl : (setup.inquire scene inquiry c).2.map =
    (setup.exchanges scene inquiry c).foldl (Exchange.effect scene.now) scene.map :=
  c.carryOut_map scene.now _ _

variable {setup scene inquiry c} {state : QuotaState} {response : QuoteResponse}
  {answer : Except Failure Unit} {gate : List (Exchange gatewaySignature)} {hits : List Hit}

theorem admission_of_servedBy (served : setup.policy.ServedBy inquiry
    (setup.exchanges scene inquiry c) state response answer gate hits) :
    setup.admission scene inquiry c = .ok state := by
  have order := served.order
  have first : ∃ rest, setup.exchanges scene inquiry c = c.exchanges scene.now
      (Gate.authorize setup.policy.limit inquiry.id inquiry.now).run ⟨0, scene.map⟩ ++ rest := by
    unfold exchanges QuotePolicy.answer
    simp only [List.isEmpty_iff, served.nonempty, if_false]
    exact ⟨_, Dialogue.journal_bind _ _ _ _ _⟩
  obtain ⟨rest, first⟩ := first
  -- Both are courses of the gate at the beginning of the same exchanges.
  rw [first, List.append_assoc] at order
  exact ((Dialogue.course_journal _ _ _ _).unique served.admitted order).2

variable (setup scene inquiry c)

def charged (log : QuotaState) : Except Failure Unit → TimedMap
  | .ok () => setup.logged scene log
  | .error _ => scene.map

/-- A request that is served, and all that it does to the cache: the gate admits it with a log, it
looks up what it needs, and its one write, the last of its calls, adds one usage to what the window
still sees of that log. -/
structure Charges (state : QuotaState) (response : QuoteResponse) (answer : Except Failure Unit)
    (gate : List (Exchange gatewaySignature)) (hits : List Hit) : Prop where
  result : (setup.inquire scene inquiry c).1 = .ok response
  admitted : setup.admission scene inquiry c = .ok state
  served : setup.policy.ServedBy inquiry (setup.exchanges scene inquiry c) state response answer
    gate hits
  looks : ∀ exchange ∈ gate ++ hits.map Hit.exchange, Call.Looks exchange.call
  stored : Json.readText QuotaState.reader (setup.log inquiry state).document.compact =
    .ok (setup.log inquiry state)
  log : setup.log inquiry state = { state with
    usages := (state.usages.filter fun t => setup.policy.limit.windowStart inquiry.now ≤ t) ++
      [inquiry.now.unixSeconds] }
  map : (setup.inquire scene inquiry c).2.map =
    setup.charged scene (setup.log inquiry state) answer

variable {setup scene inquiry c}

theorem charges_of_servedBy (result : (setup.inquire scene inquiry c).1 = .ok response)
    (served : setup.policy.ServedBy inquiry (setup.exchanges scene inquiry c) state response answer
      gate hits) : setup.Charges scene inquiry c state response answer gate hits where
  result := result
  admitted := admission_of_servedBy served
  served := served
  looks := served.looks
  stored := QuotaState.readText_compact _
  log := rfl
  map := by
    rw [inquire_map_eq_foldl, served.order, List.foldl_append,
      Exchange.foldl_effect_of_idle (Exchange.idle_of_looks served.looks)]
    cases answer <;> rfl

/-- A request fails and leaves the cache as it was, or it is served and charged. -/
theorem fails_or_charges (setup : Setup) (scene : Scene) (inquiry : Inquiry) (c : Circumstances) :
    (∃ failure, (setup.inquire scene inquiry c).1 = .error failure ∧
      (setup.inquire scene inquiry c).2.map = scene.map) ∨
    ∃ state response answer gate hits,
      setup.Charges scene inquiry c state response answer gate hits := by
  rcases QuotePolicy.course_answer (setup.course_exchanges scene inquiry c) with
    ⟨failure, result, idle⟩ | ⟨state, response, answer, gate, hits, result, served⟩
  · refine .inl ⟨failure, result, ?_⟩
    rw [inquire_map_eq_foldl, Exchange.foldl_effect_of_idle idle]
  · exact .inr ⟨state, response, answer, gate, hits, charges_of_servedBy result served⟩

/-- A request is atomic. If it fails, the cache is as it was. If it is served, it has charged its
key once. The pairs that it asks for have no part in what is charged. -/
theorem inquire_atomic (setup : Setup) (scene : Scene) (id : String) (now : Calendar.Instant)
    (c : Circumstances) : ∃ state, ∀ pairs,
      (∃ failure, (setup.inquire scene ⟨id, pairs, now⟩ c).1 = .error failure ∧
        (setup.inquire scene ⟨id, pairs, now⟩ c).2.map = scene.map) ∨
      ∃ response answer gate hits,
        setup.Charges scene ⟨id, pairs, now⟩ c state response answer gate hits := by
  -- The gate does not see the pairs, so it admits every list with the same log.
  cases admission : setup.admission scene ⟨id, [], now⟩ c with
  | error failure =>
    refine ⟨⟨id, .undefined, []⟩, fun pairs => ?_⟩
    apply (setup.fails_or_charges scene ⟨id, pairs, now⟩ c).imp_right
    rintro ⟨state, response, answer, gate, hits, charges⟩
    cases admission.symm.trans charges.admitted
  | ok state =>
    refine ⟨state, fun pairs => ?_⟩
    apply (setup.fails_or_charges scene ⟨id, pairs, now⟩ c).imp_right
    rintro ⟨other, response, answer, gate, hits, charges⟩
    obtain rfl : state = other := Except.ok.inj (admission.symm.trans charges.admitted)
    exact ⟨response, answer, gate, hits, charges⟩

end Setup

theorem QuotaState.getLast?_usages_record (state : QuotaState) (now start : Int64) :
    (state.record now start).usages.getLast? = some now := by
  rw [usages_record, List.getLast?_concat]

namespace Setup

variable (setup : Setup) (scene : Scene) (inquiry : Inquiry) (c : Circumstances)

/-- A request charges a key: no other entry changes, and once the request is served strictly, the
log of this key ends with the second of the request. -/
structure ChargesKey (id : String) : Prop where
  others : ∀ key, key ≠ CacheKey.ofApiKey id →
    (setup.inquire scene inquiry c).2.map.entries.get? key = scene.map.entries.get? key
  last : setup.policy.recording = .strict →
    ∀ response, (setup.inquire scene inquiry c).1 = .ok response →
      ∃ entry log, (setup.inquire scene inquiry c).2.map.entries.get? (CacheKey.ofApiKey id) =
          some entry ∧
        Json.readText QuotaState.reader entry.value = .ok log ∧
        log.usages.getLast? = some inquiry.now.unixSeconds

variable {setup scene inquiry c} {id : String}

/-- A request charges the key that the log it starts from belongs to. This is the key that the
request names if the cache holds that key's own log, or else the store that key's own record. -/
theorem chargesKey_of_loaded (owned : ∀ state,
    c.loaded scene.now inquiry.id scene.map = .ok state → state.apiKeyId = id) :
    setup.ChargesKey scene inquiry c id := by
  rcases setup.inquire_cases scene inquiry c with ⟨failure, fails⟩ | ⟨state, response, serves⟩
  · refine ⟨fun key _ => by rw [fails.map], fun _ response served => ?_⟩
    cases fails.result.symm.trans served
  have owner : (setup.log inquiry state).apiKeyId = id := owned state serves.loaded
  rcases serves.map with written | ⟨unwritten, lenient, -⟩
  · rw [logged, owner] at written
    constructor
    · intro key other
      rw [written, Cache.TimedMap.put, Table.get?_put_of_ne _ _ other]
    · intro strict other served
      have held : (setup.inquire scene inquiry c).2.map.entries.get? (CacheKey.ofApiKey id) =
          some ⟨(setup.log inquiry state).document.compact,
            scene.now + setup.policy.limit.stateLifetime.nanos⟩ := by
        rw [written, Cache.TimedMap.put, Table.get?_put_self]
      exact ⟨_, setup.log inquiry state, held, QuotaState.readText_compact _,
        state.getLast?_usages_record _ _⟩
  · refine ⟨fun key _ => by rw [unwritten], fun strict => ?_⟩
    cases lenient.symm.trans strict

end Setup

namespace Small

def published : Scene := setup.after .initial [.refresh world]

theorem chargesKey_own : (∀ state,
      world.loaded published.now "key" published.map = .ok state → state.apiKeyId = "key") ∧
    setup.ChargesKey published (inquiry firstSecond) world "key" := by
  have owned : ∀ state,
      world.loaded published.now "key" published.map = .ok state → state.apiKeyId = "key" := by
    rintro state ⟨⟩
    rfl
  exact ⟨owned, Setup.chargesKey_of_loaded owned⟩

/-- The key store finds the record of another key, as one that looks keys up in either case may. -/
def loose : Circumstances :=
  { world with record := fun _ => .ok (some ⟨1, "KEY", "user", .limited, none⟩) }

/-- With such a record, a request is served without a charge to the key that it names. -/
theorem not_chargesKey_named :
    ¬ setup.ChargesKey published (inquiry firstSecond) loose (inquiry firstSecond).id := by
  intro charges
  have unheld : (setup.inquire published (inquiry firstSecond) loose).2.map.entries.get?
      (CacheKey.ofApiKey "key") = none := by decide +kernel
  have served : (setup.inquire published (inquiry firstSecond) loose).1.isOk = true := by
    decide +kernel
  cases result : (setup.inquire published (inquiry firstSecond) loose).1 with
  | error failure =>
    rw [result] at served
    cases served
  | ok response =>
    obtain ⟨entry, log, held, -⟩ := charges.last rfl response result
    cases unheld.symm.trans held

end Small

end QuoteGateway
