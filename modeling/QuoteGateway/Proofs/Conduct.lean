import QuoteGateway.Proofs.CacheKeys
import QuoteGateway.Proofs.Run
import QuoteGateway.Proofs.UsageLog

/-!
# What jobs do

The effect of every job on the map, and the result it ends with. A request leaves the map alone
unless it is admitted and resolved, and then writes one log. A cycle writes rates in their order
until a write fails.
-/

namespace QuoteGateway

open Cache (TimedMap)

def found {α : Type} (reader : Json.Reader α) (now : Nat) (map : TimedMap) (key : String) :
    Except Failure (Option α) :=
  match map.live? now key with
  | none => .ok none
  | some entry =>
    match Json.readText reader entry.value with
    | .ok a => .ok (some a)
    | .error cause => .error (.unreadableEntry key cause)

section Found

variable {α : Type} {reader : Json.Reader α} {now : Nat} {map : TimedMap} {key : String}

theorem found_of_missing (h : map.live? now key = none) : found reader now map key = .ok none := by
  rw [found, h]

theorem found_of_entry {entry : Cache.Entry} {a : α} (h : map.live? now key = some entry)
    (read : Json.readText reader entry.value = .ok a) :
    found reader now map key = .ok (some a) := by
  simp only [found, h, read]

theorem live?_of_found_none (h : found reader now map key = .ok none) :
    map.live? now key = none := by
  unfold found at h
  split at h
  · assumption
  · split at h <;> cases h

theorem live?_of_found_some {a : α} (h : found reader now map key = .ok (some a)) :
    ∃ entry, map.live? now key = some entry ∧ Json.readText reader entry.value = .ok a := by
  unfold found at h
  split at h
  · cases h
  · rename_i entry live
    split at h
    · rename_i b read
      cases h
      exact ⟨entry, live, read⟩
    · cases h

end Found

namespace Circumstances

variable (c : Circumstances) (now : Nat)

theorem conduct_readEntry {α : Type} (reader : Json.Reader α) (key : String) (p : Progress) :
    c.conduct now (Job.readEntry reader key) p =
      (match c.fault p.calls (.read key) with
        | some words => .error (.reported .cache words)
        | none => found reader now p.map key, ⟨p.calls + 1, p.map⟩) := by
  rw [Job.readEntry, conduct_bind]
  have called := c.conduct_read now key p
  rw [called]
  cases c.fault p.calls (.read key) with
  | some words => rfl
  | none =>
    unfold found
    cases p.map.live? now key with
    | none => rfl
    | some entry =>
      simp only [Option.map_some]
      cases Json.readText reader entry.value with
      | error cause => rfl
      | ok a => rfl

theorem conduct_writeEntry (key : String) (document : Json.Document) (lifetime : Duration)
    (p : Progress) :
    c.conduct now (Job.writeEntry key document lifetime) p =
      match c.fault p.calls (.write key document.compact lifetime) with
      | some words => (.error (.reported .cache words), ⟨p.calls + 1, p.map⟩)
      | none => (.ok (), ⟨p.calls + 1, p.map.put now key document.compact lifetime⟩) :=
  c.conduct_write now key document.compact lifetime p

def loaded (id : String) (map : TimedMap) : Except Failure QuotaState :=
  match c.fault 0 (.read (CacheKey.ofApiKey id)) with
  | some words => .error (.reported .cache words)
  | none =>
    match found QuotaState.reader now map (CacheKey.ofApiKey id) with
    | .error failure => .error failure
    | .ok (some state) => .ok state
    | .ok none =>
      match c.record id with
      | .error words => .error (.reported .storage words)
      | .ok none => .error (.unknownApiKey id)
      | .ok (some key) => .ok (.ofKey key)

theorem conduct_loadState (id : String) (map : TimedMap) :
    ∃ calls, c.conduct now (Gate.loadState id) ⟨0, map⟩ = (c.loaded now id map, ⟨calls, map⟩) := by
  rw [Gate.loadState, conduct_bind, conduct_readEntry, loaded]
  cases c.fault 0 (.read (CacheKey.ofApiKey id)) with
  | some words => exact ⟨1, rfl⟩
  | none =>
    simp only
    cases found QuotaState.reader now map (CacheKey.ofApiKey id) with
    | error failure => exact ⟨1, rfl⟩
    | ok state =>
      cases state with
      | some state => exact ⟨1, rfl⟩
      | none =>
        refine ⟨2, ?_⟩
        simp only
        rw [conduct_bind]
        have called := c.conduct_findKey now id ⟨1, map⟩
        rw [called]
        rcases c.record id with words | key
        · rfl
        · cases key <;> rfl

/-- A log comes from a live entry, or from the record of the key where there is none. -/
theorem loaded_eq_ok_iff {id : String} {map : TimedMap} {state : QuotaState} :
    c.loaded now id map = .ok state ↔ c.fault 0 (.read (CacheKey.ofApiKey id)) = none ∧
      ((∃ entry, map.live? now (CacheKey.ofApiKey id) = some entry ∧
          Json.readText QuotaState.reader entry.value = .ok state) ∨
        (map.live? now (CacheKey.ofApiKey id) = none ∧
          ∃ key, c.record id = .ok (some key) ∧ QuotaState.ofKey key = state)) := by
  constructor
  · intro h
    unfold loaded at h
    split at h
    · cases h
    · rename_i fault
      refine ⟨fault, ?_⟩
      split at h
      · cases h
      · rename_i read
        obtain rfl := Except.ok.inj h
        exact .inl (live?_of_found_some read)
      · rename_i read
        split at h
        · cases h
        · cases h
        · rename_i key record
          exact .inr ⟨live?_of_found_none read, key, record, Except.ok.inj h⟩
  · rintro ⟨fault, ⟨entry, live, read⟩ | ⟨missing, key, record, rfl⟩⟩
    · simp only [loaded, fault, found_of_entry live read]
    · simp only [loaded, fault, found_of_missing missing, record]

theorem kind_of_loaded {id : String} {map : TimedMap} {failure : Failure}
    (h : c.loaded now id map = .error failure) : failure.kind ≠ .tooManyRequests := by
  unfold loaded at h
  split at h
  · obtain rfl := Except.error.inj h
    nofun
  · split at h
    · rename_i read
      obtain rfl := Except.error.inj h
      unfold found at read
      split at read
      · cases read
      · split at read
        · cases read
        · obtain rfl := Except.error.inj read
          nofun
    · cases h
    · split at h
      · obtain rfl := Except.error.inj h
        nofun
      · obtain rfl := Except.error.inj h
        nofun
      · cases h

/-- Whether a request may go ahead. -/
def authorized (limit : RateLimit) (id : String) (t : Calendar.Instant) (map : TimedMap) :
    Except Failure QuotaState :=
  if id.isEmpty then .error .missingApiKey
  else match c.loaded now id map with
    | .error failure => .error failure
    | .ok state =>
      if state.exceeds limit t then
        .error (.quotaExceeded id limit.maxUsages limit.window.seconds)
      else .ok state

theorem conduct_authorize (limit : RateLimit) (id : String) (t : Calendar.Instant)
    (map : TimedMap) :
    ∃ calls, c.conduct now (Gate.authorize limit id t) ⟨0, map⟩ =
      (c.authorized now limit id t map, ⟨calls, map⟩) := by
  obtain ⟨calls, load⟩ := c.conduct_loadState now id map
  unfold Gate.authorize authorized
  by_cases empty : id.isEmpty
  · simp only [empty, if_true]
    exact ⟨0, rfl⟩
  · refine ⟨calls, ?_⟩
    simp only [empty, if_false, Bool.false_eq_true]
    rw [conduct_bind, load]
    cases c.loaded now id map with
    | error failure => rfl
    | ok state =>
      unfold QuotaState.exceeds
      by_cases exceeded :
          state.tier.isLimited && !state.isWithin (limit.windowStart t) limit.maxUsages
      · simp only [exceeded, if_true]
        rfl
      · simp only [exceeded, if_false, Bool.false_eq_true]
        rfl

/-- A request is admitted with the log that it starts from, unless that one is full. -/
theorem authorized_eq_ok_iff {limit : RateLimit} {id : String} {t : Calendar.Instant}
    {map : TimedMap} {state : QuotaState} :
    c.authorized now limit id t map = .ok state ↔
      id ≠ "" ∧ c.loaded now id map = .ok state ∧ state.exceeds limit t = false := by
  unfold authorized
  by_cases missing : id.isEmpty
  · simp [String.isEmpty_iff.mp missing]
  · have named : id ≠ "" := fun none => missing (String.isEmpty_iff.mpr none)
    simp only [missing, Bool.false_eq_true, if_false]
    cases load : c.loaded now id map with
    | error failure => simp
    | ok found =>
      cases exceeded : found.exceeds limit t with
      | true =>
        simp only [exceeded, if_true, reduceCtorEq, Except.ok.injEq, false_iff]
        rintro ⟨-, rfl, admitted⟩
        rw [exceeded] at admitted
        cases admitted
      | false =>
        simp only [exceeded, Bool.false_eq_true, if_false, Except.ok.injEq]
        constructor
        · rintro rfl
          exact ⟨named, rfl, exceeded⟩
        · exact fun admitted => admitted.2.1

/-- The gate refuses a request exactly if the log that it starts from is full. -/
theorem kind_of_authorized {limit : RateLimit} {id : String} {t : Calendar.Instant}
    {map : TimedMap} {failure : Failure}
    (h : c.authorized now limit id t map = .error failure) :
    failure.kind = .tooManyRequests ↔
      id ≠ "" ∧ ∃ state, c.loaded now id map = .ok state ∧ state.exceeds limit t = true := by
  unfold authorized at h
  by_cases missing : id.isEmpty
  · rw [if_pos missing] at h
    obtain rfl := Except.error.inj h
    exact ⟨nofun, fun named => absurd (String.isEmpty_iff.mp missing) named.1⟩
  · have named : id ≠ "" := fun none => missing (String.isEmpty_iff.mpr none)
    rw [if_neg missing] at h
    cases load : c.loaded now id map with
    | error cause =>
      simp only [load] at h
      obtain rfl := Except.error.inj h
      constructor
      · exact fun refusal => absurd refusal (c.kind_of_loaded now load)
      · rintro ⟨-, state, ⟨⟩, -⟩
    | ok state =>
      simp only [load] at h
      cases exceeded : state.exceeds limit t with
      | true =>
        simp only [exceeded, if_true] at h
        obtain rfl := Except.error.inj h
        exact ⟨fun _ => ⟨named, state, rfl, exceeded⟩, fun _ => rfl⟩
      | false =>
        simp only [exceeded, Bool.false_eq_true, if_false] at h
        cases h

def resolved (calls : Nat) (pair : CurrencyPair) (map : TimedMap) : Except Failure RateResult :=
  let key := CacheKey.ofRate pair.base pair.target
  match c.fault calls (.read key) with
  | some words => .error (.rateNotRead pair (.reported .cache words))
  | none =>
    match found CachedRate.reader now map key with
    | .error failure => .error (.rateNotRead pair failure)
    | .ok none => .error (.noRate pair)
    | .ok (some cached) => .ok (.ofCached pair cached)

theorem conduct_resolve (pair : CurrencyPair) (p : Progress) :
    c.conduct now (Lookup.resolve pair) p =
      (c.resolved now p.calls pair p.map, ⟨p.calls + 1, p.map⟩) := by
  rw [Lookup.resolve, conduct_bind, conduct_adapt, conduct_readEntry, resolved]
  cases c.fault p.calls (.read (CacheKey.ofRate pair.base pair.target)) with
  | some words => rfl
  | none =>
    simp only
    cases found CachedRate.reader now p.map (CacheKey.ofRate pair.base pair.target) with
    | error failure => rfl
    | ok cached => cases cached <;> rfl

def allResolved (map : TimedMap) : (calls : Nat) → List CurrencyPair →
    Except Failure (List RateResult)
  | _, [] => .ok []
  | calls, pair :: pairs =>
    match c.resolved now calls pair map with
    | .error failure => .error failure
    | .ok result => (allResolved map (calls + 1) pairs).map (result :: ·)

theorem conduct_resolveAll (pairs : List CurrencyPair) (p : Progress) :
    ∃ calls, c.conduct now (Lookup.resolveAll pairs) p =
      (c.allResolved now p.map p.calls pairs, ⟨calls, p.map⟩) := by
  induction pairs generalizing p with
  | nil => exact ⟨p.calls, rfl⟩
  | cons pair pairs ih =>
    rw [Lookup.resolveAll, conduct_bind, conduct_resolve, allResolved]
    cases c.resolved now p.calls pair p.map with
    | error failure => exact ⟨p.calls + 1, rfl⟩
    | ok result =>
      obtain ⟨calls, rest⟩ := ih ⟨p.calls + 1, p.map⟩
      refine ⟨calls, ?_⟩
      simp only
      rw [conduct_bind, rest]
      simp only
      cases c.allResolved now p.map (p.calls + 1) pairs <;> rfl

theorem kind_of_resolved {calls : Nat} {pair : CurrencyPair} {map : TimedMap} {failure : Failure}
    (h : c.resolved now calls pair map = .error failure) : failure.kind ≠ .tooManyRequests := by
  unfold resolved at h
  simp only at h
  split at h
  · obtain rfl := Except.error.inj h
    nofun
  · split at h
    · obtain rfl := Except.error.inj h
      nofun
    · obtain rfl := Except.error.inj h
      nofun
    · cases h

theorem kind_of_allResolved {calls : Nat} {pairs : List CurrencyPair} {map : TimedMap}
    {failure : Failure} (h : c.allResolved now map calls pairs = .error failure) :
    failure.kind ≠ .tooManyRequests := by
  induction pairs generalizing calls with
  | nil => cases h
  | cons pair pairs ih =>
    rw [allResolved] at h
    cases one : c.resolved now calls pair map with
    | error cause =>
      rw [one] at h
      obtain rfl := Except.error.inj h
      exact c.kind_of_resolved now one
    | ok result =>
      rw [one] at h
      simp only at h
      cases others : c.allResolved now map (calls + 1) pairs with
      | error cause =>
        rw [others] at h
        obtain rfl := Except.error.inj h
        exact ih others
      | ok results =>
        rw [others] at h
        cases h

def recorded (limit : RateLimit) (state : QuotaState) (t : Calendar.Instant) (calls : Nat)
    (map : TimedMap) : Option String × TimedMap :=
  let log := state.record t.unixSeconds (limit.windowStart t)
  let key := CacheKey.ofApiKey log.apiKeyId
  match c.fault calls (.write key log.document.compact limit.stateLifetime) with
  | some words => (some words, map)
  | none => (none, map.put now key log.document.compact limit.stateLifetime)

theorem conduct_recordUsage (limit : RateLimit) (state : QuotaState) (t : Calendar.Instant)
    (p : Progress) :
    c.conduct now (Gate.recordUsage limit state t) p =
      (match (c.recorded now limit state t p.calls p.map).1 with
        | some words => .error (.reported .cache words)
        | none => .ok (state.record t.unixSeconds (limit.windowStart t)),
        ⟨p.calls + 1, (c.recorded now limit state t p.calls p.map).2⟩) := by
  rw [Gate.recordUsage, conduct_bind, conduct_writeEntry, recorded]
  cases c.fault p.calls (.write (CacheKey.ofApiKey
    (state.record t.unixSeconds (limit.windowStart t)).apiKeyId)
    (state.record t.unixSeconds (limit.windowStart t)).document.compact limit.stateLifetime) <;> rfl

/-- The answer to a request and the map after it. The gate takes `gate` calls, and gate and rates
together take `rates`. -/
def answered (policy : QuotePolicy) (inquiry : Inquiry) (gate rates : Nat) (map : TimedMap) :
    Except Failure QuoteResponse × TimedMap :=
  if inquiry.pairs.isEmpty then (.error .noPairs, map)
  else match c.authorized now policy.limit inquiry.id inquiry.now map with
    | .error failure => (.error failure, map)
    | .ok state =>
      match c.allResolved now map gate inquiry.pairs with
      | .error failure => (.error failure, map)
      | .ok results =>
        match c.recorded now policy.limit state inquiry.now rates map, policy.recording with
        | (some words, _), .strict => (.error (.reported .cache words), map)
        | (some _, _), .bestEffort => (.ok ⟨results⟩, map)
        | (none, later), _ => (.ok ⟨results⟩, later)

theorem conduct_answer (policy : QuotePolicy) (inquiry : Inquiry) (map : TimedMap) :
    ∃ gate rates calls,
      c.conduct now (policy.answer inquiry.id inquiry.pairs inquiry.now) ⟨0, map⟩ =
        ((c.answered now policy inquiry gate rates map).1,
          ⟨calls, (c.answered now policy inquiry gate rates map).2⟩) := by
  obtain ⟨gate, admission⟩ :=
    c.conduct_authorize now policy.limit inquiry.id inquiry.now map
  obtain ⟨rates, resolution⟩ := c.conduct_resolveAll now inquiry.pairs ⟨gate, map⟩
  refine ⟨gate, rates, ?_⟩
  unfold QuotePolicy.answer answered
  by_cases empty : inquiry.pairs.isEmpty
  · simp only [empty, if_true]
    exact ⟨0, rfl⟩
  · simp only [empty, if_false, Bool.false_eq_true]
    rw [conduct_bind, admission]
    cases c.authorized now policy.limit inquiry.id inquiry.now map with
    | error failure => exact ⟨gate, rfl⟩
    | ok state =>
      simp only
      rw [conduct_bind, resolution]
      cases c.allResolved now map gate inquiry.pairs with
      | error failure => exact ⟨rates, rfl⟩
      | ok results =>
        refine ⟨rates + 1, ?_⟩
        simp only
        rw [conduct_bind, conduct_lift_run, conduct_recordUsage]
        unfold recorded
        simp only
        cases c.fault rates (.write (CacheKey.ofApiKey
            (state.record inquiry.now.unixSeconds (policy.limit.windowStart inquiry.now)).apiKeyId)
          (state.record inquiry.now.unixSeconds
            (policy.limit.windowStart inquiry.now)).document.compact
          policy.limit.stateLifetime) with
        | none => rfl
        | some words =>
          simp only
          cases policy.recording <;> rfl

end Circumstances

namespace Setup

variable (setup : Setup)

def log (inquiry : Inquiry) (state : QuotaState) : QuotaState :=
  state.record inquiry.now.unixSeconds (setup.policy.limit.windowStart inquiry.now)

def logged (scene : Scene) (log : QuotaState) : TimedMap :=
  scene.map.put scene.now (CacheKey.ofApiKey log.apiKeyId) log.document.compact
    setup.policy.limit.stateLifetime

/-- A request that fails: the map stays as it was. -/
structure Fails (scene : Scene) (inquiry : Inquiry) (c : Circumstances) (failure : Failure) :
    Prop where
  result : (setup.inquire scene inquiry c).1 = .error failure
  map : (setup.inquire scene inquiry c).2.map = scene.map
  refusal : failure.kind = .tooManyRequests ↔ inquiry.pairs ≠ [] ∧ inquiry.id ≠ "" ∧
    ∃ state, c.loaded scene.now inquiry.id scene.map = .ok state ∧
      state.exceeds setup.policy.limit inquiry.now = true

/-- A request that is served from a log. -/
structure Serves (scene : Scene) (inquiry : Inquiry) (c : Circumstances) (state : QuotaState)
    (response : QuoteResponse) : Prop where
  result : (setup.inquire scene inquiry c).1 = .ok response
  pairs : inquiry.pairs ≠ []
  id : inquiry.id ≠ ""
  loaded : c.loaded scene.now inquiry.id scene.map = .ok state
  admitted : state.exceeds setup.policy.limit inquiry.now = false
  map : (setup.inquire scene inquiry c).2.map = setup.logged scene (setup.log inquiry state) ∨
    (setup.inquire scene inquiry c).2.map = scene.map ∧ setup.policy.recording = .bestEffort ∧
      ∃ calls key value lifetime, c.fault calls (.write key value lifetime) ≠ none

/-- A request either fails or is served, and this is all that it does. -/
theorem inquire_cases (scene : Scene) (inquiry : Inquiry) (c : Circumstances) :
    (∃ failure, setup.Fails scene inquiry c failure) ∨
      ∃ state response, setup.Serves scene inquiry c state response := by
  obtain ⟨gate, rates, calls, carried⟩ := c.conduct_answer scene.now setup.policy inquiry scene.map
  have both : setup.inquire scene inquiry c = _ := carried
  unfold Circumstances.answered at both
  by_cases empty : inquiry.pairs.isEmpty
  · left
    simp only [empty, if_true] at both
    refine ⟨.noPairs, congrArg (·.1) both, congrArg (·.2.map) both, nofun, ?_⟩
    rintro ⟨pairs, -⟩
    exact absurd (List.isEmpty_iff.mp empty) pairs
  have pairs : inquiry.pairs ≠ [] := fun none => empty (List.isEmpty_iff.mpr none)
  simp only [empty, if_false, Bool.false_eq_true] at both
  cases admission : c.authorized scene.now setup.policy.limit inquiry.id inquiry.now scene.map with
  | error failure =>
    left
    simp only [admission] at both
    refine ⟨failure, congrArg (·.1) both, congrArg (·.2.map) both, ?_⟩
    rw [c.kind_of_authorized scene.now admission]
    exact (and_iff_right pairs).symm
  | ok state =>
    obtain ⟨id, load, admitted⟩ := (c.authorized_eq_ok_iff scene.now).mp admission
    simp only [admission] at both
    -- Once it is admitted, a request is not refused any more.
    have noRefusal {failure : Failure} (kind : failure.kind ≠ .tooManyRequests) :
        failure.kind = .tooManyRequests ↔ inquiry.pairs ≠ [] ∧ inquiry.id ≠ "" ∧
          ∃ state, c.loaded scene.now inquiry.id scene.map = .ok state ∧
            state.exceeds setup.policy.limit inquiry.now = true := by
      refine ⟨fun refusal => absurd refusal kind, ?_⟩
      rintro ⟨-, -, other, loaded, exceeds⟩
      rw [load] at loaded
      obtain rfl := Except.ok.inj loaded
      rw [admitted] at exceeds
      cases exceeds
    cases resolution : c.allResolved scene.now scene.map gate inquiry.pairs with
    | error failure =>
      left
      simp only [resolution] at both
      exact ⟨failure, congrArg (·.1) both, congrArg (·.2.map) both,
        noRefusal (c.kind_of_allResolved scene.now resolution)⟩
    | ok results =>
      simp only [resolution] at both
      unfold Circumstances.recorded at both
      simp only at both
      cases fault : c.fault rates (.write
          (CacheKey.ofApiKey (setup.log inquiry state).apiKeyId)
          (setup.log inquiry state).document.compact setup.policy.limit.stateLifetime) with
      | none =>
        right
        unfold log at fault
        simp only [fault] at both
        exact ⟨state, ⟨results⟩, congrArg (·.1) both, pairs, id, load, admitted,
          .inl (congrArg (·.2.map) both)⟩
      | some words =>
        have failing : c.fault rates (.write _ _ _) ≠ none :=
          fault ▸ Option.some_ne_none words
        unfold log at fault
        cases policy : setup.policy.recording with
        | strict =>
          left
          simp only [fault, policy] at both
          exact ⟨_, congrArg (·.1) both, congrArg (·.2.map) both, noRefusal nofun⟩
        | bestEffort =>
          right
          simp only [fault, policy] at both
          exact ⟨state, ⟨results⟩, congrArg (·.1) both, pairs, id, load, admitted,
            .inr ⟨congrArg (·.2.map) both, policy, rates, _, _, _, failing⟩⟩

/-- A request is refused exactly if it names a key and pairs and the log it starts from is full. -/
theorem refused_iff (scene : Scene) (inquiry : Inquiry) (c : Circumstances) :
    Refused (setup.inquire scene inquiry c).1 ↔ inquiry.pairs ≠ [] ∧ inquiry.id ≠ "" ∧
      ∃ state, c.loaded scene.now inquiry.id scene.map = .ok state ∧
        state.exceeds setup.policy.limit inquiry.now = true := by
  rcases setup.inquire_cases scene inquiry c with ⟨failure, fails⟩ | ⟨state, response, serves⟩
  · rw [← fails.refusal, Refused, fails.result]
    constructor
    · rintro ⟨other, same, refusal⟩
      obtain rfl := Except.error.inj same
      exact refusal
    · exact fun refusal => ⟨failure, rfl, refusal⟩
  · constructor
    · rintro ⟨failure, result, -⟩
      rw [serves.result] at result
      cases result
    · rintro ⟨-, -, other, loaded, exceeds⟩
      rw [serves.loaded] at loaded
      obtain rfl := Except.ok.inj loaded
      rw [serves.admitted] at exceeds
      cases exceeds

/-- The map after a request: as it was, or with a log in it. -/
theorem inquire_map (scene : Scene) (inquiry : Inquiry) (c : Circumstances) :
    (setup.inquire scene inquiry c).2.map = scene.map ∨
      ∃ state, c.loaded scene.now inquiry.id scene.map = .ok state ∧
        (setup.inquire scene inquiry c).2.map = setup.logged scene (setup.log inquiry state) := by
  rcases setup.inquire_cases scene inquiry c with ⟨failure, fails⟩ | ⟨state, response, serves⟩
  · exact .inl fails.map
  · rcases serves.map with written | ⟨unwritten, -⟩
    · exact .inr ⟨state, serves.loaded, written⟩
    · exact .inl unwritten

end Setup

namespace UpdaterPlan

variable (plan : UpdaterPlan)

def put (now : Nat) (map : TimedMap) (rate : FeedRate) : TimedMap :=
  map.put now (CacheKey.ofRate rate.base rate.target) rate.cached.document.compact
    plan.rateLifetime

end UpdaterPlan

namespace Circumstances

variable (c : Circumstances) (now : Nat) (plan : UpdaterPlan)

def written : (calls : Nat) → List FeedRate → List FeedRate
  | _, [] => []
  | calls, rate :: rates =>
    match c.fault calls (.write (CacheKey.ofRate rate.base rate.target)
        rate.cached.document.compact plan.rateLifetime) with
    | some _ => []
    | none => rate :: written (calls + 1) rates

def published : List FeedRate :=
  match c.rates plan.bases with
  | .error _ => []
  | .ok rates => c.written plan 1 rates

theorem mem_of_written {calls : Nat} {rates : List FeedRate} {rate : FeedRate}
    (h : rate ∈ c.written plan calls rates) : rate ∈ rates := by
  induction rates generalizing calls with
  | nil => cases h
  | cons first rates ih =>
    rw [written] at h
    split at h
    · cases h
    · rcases List.mem_cons.mp h with rfl | later
      · exact List.mem_cons_self
      · exact List.mem_cons_of_mem first (ih later)

theorem mem_of_published {rate : FeedRate} (h : rate ∈ c.published plan) :
    ∃ rates, c.rates plan.bases = .ok rates ∧ rate ∈ rates := by
  unfold published at h
  split at h
  · cases h
  · rename_i rates answer
    exact ⟨rates, answer, c.mem_of_written plan h⟩

theorem conduct_publish_map (count : Nat) (rates : List FeedRate) (p : Progress) :
    (c.conduct now (plan.publish count rates) p).2.map =
      (c.written plan p.calls rates).foldl (plan.put now) p.map := by
  induction rates generalizing count p with
  | nil => rfl
  | cons rate rates ih =>
    rw [UpdaterPlan.publish, conduct_bind, conduct_lift_run, conduct_writeEntry, written]
    cases c.fault p.calls (.write (CacheKey.ofRate rate.base rate.target)
      rate.cached.document.compact plan.rateLifetime) with
    | some words => rfl
    | none => exact ih (count + 1) ⟨p.calls + 1, p.map.put now _ _ _⟩

end Circumstances

/-- A cycle puts the rates that it writes into the map, and does nothing else to it. -/
theorem Setup.refresh_map (setup : Setup) (scene : Scene) (c : Circumstances) :
    (setup.refresh scene c).2.map =
      (c.published setup.plan).foldl (setup.plan.put scene.now) scene.map := by
  rw [Setup.refresh, UpdaterPlan.refresh, Circumstances.conduct_bind, Circumstances.published]
  have called := c.conduct_fetchRates scene.now setup.plan.bases ⟨0, scene.map⟩
  rw [called]
  cases c.rates setup.plan.bases with
  | error failure => rfl
  | ok rates => exact c.conduct_publish_map scene.now setup.plan 0 rates ⟨1, scene.map⟩

theorem Circumstances.conduct_publish_result (c : Circumstances) (plan : UpdaterPlan)
    (now later count : Nat) (rates : List FeedRate) {p q : Progress} (same : p.calls = q.calls) :
    (c.conduct now (plan.publish count rates) p).1 =
      (c.conduct later (plan.publish count rates) q).1 := by
  induction rates generalizing count p q with
  | nil => rfl
  | cons rate rates ih =>
    rw [UpdaterPlan.publish, conduct_bind, conduct_bind, conduct_lift_run, conduct_lift_run,
      conduct_writeEntry, conduct_writeEntry, same]
    cases c.fault q.calls (.write (CacheKey.ofRate rate.base rate.target)
      rate.cached.document.compact plan.rateLifetime) with
    | some words => rfl
    | none => exact ih (count + 1) rfl

theorem Setup.refresh_result (setup : Setup) (scene other : Scene) (c : Circumstances) :
    (setup.refresh scene c).1 = (setup.refresh other c).1 := by
  rw [Setup.refresh, Setup.refresh, UpdaterPlan.refresh, Circumstances.conduct_bind,
    Circumstances.conduct_bind]
  have called := c.conduct_fetchRates scene.now setup.plan.bases ⟨0, scene.map⟩
  have calledThere := c.conduct_fetchRates other.now setup.plan.bases ⟨0, other.map⟩
  rw [called, calledThere]
  cases c.rates setup.plan.bases with
  | error failure => rfl
  | ok rates => exact c.conduct_publish_result setup.plan scene.now other.now 0 rates rfl

theorem UpdaterPlan.live?_put_foldl (plan : UpdaterPlan) (now later : Nat) (rates : List FeedRate)
    (map : TimedMap) (id : String) :
    (rates.foldl (plan.put now) map).live? later (CacheKey.ofApiKey id) =
      map.live? later (CacheKey.ofApiKey id) := by
  induction rates generalizing map with
  | nil => rfl
  | cons rate rates ih =>
    rw [List.foldl_cons, ih, UpdaterPlan.put]
    exact TimedMap.live?_put_of_ne map now later _ _ (CacheKey.ofApiKey_ne_ofRate id _ _)

end QuoteGateway
