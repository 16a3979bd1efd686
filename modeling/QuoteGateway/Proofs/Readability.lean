import QuoteGateway.Proofs.Conduct
import QuoteGateway.Proofs.Contract
import QuoteGateway.Proofs.QuotaText
import QuoteGateway.Proofs.RateText

/-!
# Entries that can be read

Requests and cycles of the updater are at work on one cache at the same time, and their questions
are answered one at a time in any order. Whatever they write under the key of a log is a log of that
key, and what they write under the key of a rate is a rate. So none of them ever finds an entry that
it cannot read.
-/

namespace QuoteGateway

open Cache (TimedMap)

/-- Some entry could not be read, perhaps on the way to a rate. -/
def Failure.IsUnreadable : Failure → Prop
  | .unreadableEntry .. => True
  | .rateNotRead _ cause => cause.IsUnreadable
  | _ => False

def Clean {α : Type} (result : Except Failure α) : Prop :=
  ∀ failure, result = .error failure → ¬ failure.IsUnreadable

theorem clean_ok {α : Type} (a : α) : Clean (.ok a) := nofun

theorem clean_error {α : Type} {failure : Failure} (h : ¬ failure.IsUnreadable) :
    Clean (.error failure : Except Failure α) := by
  rintro other ⟨⟩
  exact h

theorem Clean.change {α β : Type} {failure : Failure}
    (h : Clean (.error failure : Except Failure α)) : Clean (.error failure : Except Failure β) :=
  clean_error (h failure rfl)

/-- A text under a key from which it can be read: a log under the key of its owner, or a rate. -/
inductive Fits : (key text : String) → Prop where
  | log (state : QuotaState) {text : String} :
    Json.readText QuotaState.reader text = .ok state → Fits (CacheKey.ofApiKey state.apiKeyId) text
  | rate (base target : String) (cached : CachedRate) {text : String} :
    Json.readText CachedRate.reader text = .ok cached → Fits (CacheKey.ofRate base target) text

namespace Fits

theorem exists_log {key id text : String} (h : Fits key text) (own : key = CacheKey.ofApiKey id) :
    ∃ state, Json.readText QuotaState.reader text = .ok state ∧ state.apiKeyId = id := by
  cases h with
  | log state read => exact ⟨state, read, CacheKey.ofApiKey_injective own⟩
  | rate base target cached read =>
    exact absurd own.symm (CacheKey.ofApiKey_ne_ofRate id base target)

theorem exists_rate {key base target text : String} (h : Fits key text)
    (own : key = CacheKey.ofRate base target) :
    ∃ cached, Json.readText CachedRate.reader text = .ok cached := by
  cases h with
  | log state read => exact absurd own (CacheKey.ofApiKey_ne_ofRate _ base target)
  | rate _ _ cached read => exact ⟨cached, read⟩

theorem document (state : QuotaState) :
    Fits (CacheKey.ofApiKey state.apiKeyId) state.document.compact :=
  .log state state.readText_compact

theorem publication (rate : FeedRate) (finite : rate.rate.isFinite = true) :
    Fits (CacheKey.ofRate rate.base rate.target) rate.cached.document.compact :=
  .rate _ _ _ (rate.cached.readText_compact finite).2

end Fits

/-- What can be relied on: entries fit their keys, and rates from the source are finite. Apart from
the source of rates, no collaborator reports that an entry cannot be read. -/
def Reliable : (call : gatewaySignature.Call) → gatewaySignature.Answer call → Prop
  | .cache (.read key), answer => Clean answer ∧ ∀ text, answer = .ok (some text) → Fits key text
  | .fetchRates _, answer => ∀ rates : List FeedRate, answer = .ok rates →
    ∀ rate ∈ rates, rate.rate.isFinite = true
  | .cache (.write _ _ _), answer => Clean answer
  | .findKey _, answer => Clean answer
  | _, _ => True

def legible : Contract gatewaySignature Unit where
  allows _
    | .cache (.write key text _) => Fits key text
    | _ => True
  promises _ call answer _ := Reliable call answer

namespace Job

variable {α β : Type}

/-- The job writes what can be read, and reads what it finds. -/
def Legible (job : Job α) : Prop := Keeps legible (fun _ result => Clean result) job ()

theorem legible_pure (a : α) : Legible (pure a) := keeps_pure (clean_ok a)

theorem legible_throw {failure : Failure} (h : ¬ failure.IsUnreadable) :
    Legible (throw failure : Job α) := keeps_throw (clean_error h)

theorem Legible.bind {job : Job α} {f : α → Job β} (first : Legible job)
    (goesOn : ∀ a, Legible (f a)) : Legible (job >>= f) :=
  Keeps.bind _ first (fun _ _ clean => clean.change) fun _ a _ => goesOn a

theorem Legible.report {job : Job α} (h : Legible job) (event : Event) :
    Legible (Job.report event >>= fun _ => job) := h

theorem legible_findKey (id : String) :
    Legible (Job.call (.findKey id) : Job (Option ApiKey)) :=
  keeps_findKey trivial fun _ _ clean => clean

theorem legible_readEntry {reader : Json.Reader α} {key : String}
    (h : ∀ text, Fits key text → ∃ a, Json.readText reader text = .ok a) :
    Legible (Job.readEntry reader key) := by
  apply keeps_readEntry trivial
  rintro answer s' ⟨clean, fits⟩
  refine ⟨?_, ?_, ?_, ?_⟩
  · rintro failure rfl
    exact clean.change
  · exact fun _ => clean_ok none
  · exact fun text a _ _ => clean_ok (some a)
  · intro text cause told unreadable
    obtain ⟨a, read⟩ := h text (fits text told)
    cases unreadable.symm.trans read

theorem legible_writeEntry {key : String} {document : Json.Document} (lifetime : Duration)
    (h : Fits key document.compact) : Legible (Job.writeEntry key document lifetime) :=
  keeps_writeEntry h fun _ _ clean => clean

end Job

namespace Gate

theorem legible_loadState (id : String) : Job.Legible (loadState id) := by
  apply Job.Legible.bind
  · apply Job.legible_readEntry
    intro text fits
    obtain ⟨state, read, -⟩ := fits.exists_log rfl
    exact ⟨state, read⟩
  rintro (_ | state)
  · apply (Job.legible_findKey id).bind
    rintro (_ | key)
    · exact Job.legible_throw not_false
    · exact Job.legible_pure _
  · exact Job.legible_pure state

theorem legible_authorize (limit : RateLimit) (id : String) (t : Calendar.Instant) :
    Job.Legible (authorize limit id t) := by
  unfold authorize
  by_cases empty : id.isEmpty
  · simp only [empty, if_true]
    exact Job.legible_throw not_false
  simp only [empty, if_false, Bool.false_eq_true]
  apply (legible_loadState _).bind
  intro state
  split
  · apply Job.Legible.report
    exact Job.legible_throw not_false
  · exact Job.legible_pure state

theorem legible_recordUsage (limit : RateLimit) (state : QuotaState) (t : Calendar.Instant) :
    Job.Legible (recordUsage limit state t) :=
  (Job.legible_writeEntry _ (.document _)).bind fun _ => Job.legible_pure _

end Gate

namespace Lookup

theorem legible_resolve (pair : CurrencyPair) : Job.Legible (resolve pair) := by
  apply Job.Legible.bind
  · apply Job.keeps_adapt
    apply Job.Keeps.weaken _ (Job.legible_readEntry fun text fits => fits.exists_rate rfl)
    rintro s (failure | entry) clean
    · exact clean_error (clean failure rfl)
    · exact clean_ok entry
  rintro (_ | cached)
  · exact Job.legible_throw not_false
  · exact Job.legible_pure _

theorem legible_resolveAll (pairs : List CurrencyPair) : Job.Legible (resolveAll pairs) := by
  induction pairs with
  | nil => exact Job.legible_pure _
  | cons pair pairs ih =>
    exact (legible_resolve pair).bind fun _ => ih.bind fun _ => Job.legible_pure _

end Lookup

theorem QuotePolicy.legible_answer (policy : QuotePolicy) (id : String) (pairs : List CurrencyPair)
    (now : Calendar.Instant) : Job.Legible (policy.answer id pairs now) := by
  unfold answer
  by_cases empty : pairs.isEmpty
  · simp only [empty, if_true]
    exact Job.legible_throw not_false
  simp only [empty, if_false, Bool.false_eq_true]
  apply (Gate.legible_authorize _ _ _).bind
  intro state
  apply (Lookup.legible_resolveAll pairs).bind
  intro rates
  apply Job.Keeps.bind fun _ recorded => ∃ outcome, recorded = .ok outcome ∧ Clean outcome
  · apply Job.keeps_lift_run
    apply Job.Keeps.weaken _ (Gate.legible_recordUsage _ state now)
    exact fun _ outcome clean => ⟨outcome, rfl, clean⟩
  · rintro s failure ⟨outcome, ⟨⟩, -⟩
  rintro s outcome ⟨_, ⟨⟩, clean⟩
  cases outcome with
  | ok log => exact Job.legible_pure _
  | error failure =>
    cases policy.recording with
    | strict => exact Job.legible_throw (clean failure rfl)
    | bestEffort => exact Job.Legible.report (Job.legible_pure _) _

namespace UpdaterPlan

variable (plan : UpdaterPlan)

theorem legible_publish (count : Nat) {rates : List FeedRate}
    (finite : ∀ rate ∈ rates, rate.rate.isFinite = true) :
    Job.Keeps legible (fun _ _ => True) (plan.publish count rates) () := by
  induction rates generalizing count with
  | nil => exact trivial
  | cons rate rates ih =>
    obtain ⟨first, others⟩ := List.forall_mem_cons.mp finite
    apply Job.Keeps.bind fun _ _ => True
    · apply Job.keeps_lift_run
      exact Job.keeps_writeEntry (.publication rate first) fun _ _ _ => trivial
    · exact fun _ _ _ => trivial
    rintro s (failure | ⟨⟩) -
    · exact trivial
    · exact ih (count + 1) others

theorem legible_refresh : Job.Keeps legible (fun _ _ => True) plan.refresh () := by
  apply Job.Keeps.bind fun _ (fetched : Except Failure (List FeedRate)) =>
    ∀ rates, fetched = .ok rates → ∀ rate ∈ rates, rate.rate.isFinite = true
  · exact ⟨trivial, fun _ _ finite => finite⟩
  · exact fun _ _ _ => trivial
  · exact fun _ rates finite => plan.legible_publish 0 (finite rates rfl)

theorem legible_cycle : plan.cycle.Keeps legible (fun _ _ => True) () := by
  change (plan.refresh.run.bind _).Keeps legible _ ()
  apply Dialogue.Keeps.bind plan.legible_refresh
  rintro s (failure | count) -
  · exact trivial
  · exact trivial

end UpdaterPlan

/-- How an errand ends: a request with its answer, a cycle of the updater without one. -/
inductive Outcome where
  | answered (result : Except Failure QuoteResponse)
  | refreshed

def Outcome.IsClean : Outcome → Prop
  | .answered result => Clean result
  | .refreshed => True

/-- The errands begun so far on one cache, with the work that is left of each unless it was
dropped. -/
structure Works where
  now : Nat
  map : TimedMap
  errands : List (Option (Dialogue gatewaySignature Outcome))

/-- What happens next: an errand begins, has its next question answered, or is dropped, or an entry
is given up early, or time passes. -/
inductive Turn where
  | inquire (policy : QuotePolicy) (inquiry : Inquiry)
  | refresh (plan : UpdaterPlan)
  | proceed (number : Nat) (c : Circumstances)
  | drop (number : Nat)
  | expire (key : String)
  | pass (duration : Duration)

/-- The work of answering a request. -/
def QuotePolicy.errand (policy : QuotePolicy) (inquiry : Inquiry) :
    Dialogue gatewaySignature Outcome :=
  (policy.serve inquiry.id inquiry.pairs inquiry.now).bind fun result => .done (.answered result)

/-- The work of a cycle. -/
def UpdaterPlan.errand (plan : UpdaterPlan) : Dialogue gatewaySignature Outcome :=
  plan.cycle.bind fun _ => .done .refreshed

namespace Works

def opening (now : Nat) : Works := ⟨now, .empty, []⟩

def begin (works : Works) (work : Dialogue gatewaySignature Outcome) : Works :=
  { works with errands := works.errands ++ [some work] }

def proceed (works : Works) (number : Nat) (c : Circumstances) : Works :=
  match works.errands[number]? with
  | some (some (.ask call next)) =>
    let reply := c.respond works.now call ⟨0, works.map⟩
    { works with
      map := reply.2.map
      errands := works.errands.set number (some (next reply.1)) }
  | some (some (.tell _ next)) =>
    { works with errands := works.errands.set number (some next) }
  | _ => works

def step (works : Works) : Turn → Works
  | .inquire policy inquiry => works.begin (policy.errand inquiry)
  | .refresh plan => works.begin plan.errand
  | .proceed number c => works.proceed number c
  | .drop number => { works with errands := works.errands.set number none }
  | .expire key => { works with map := works.map.erase key }
  | .pass duration => { works with now := works.now + duration.nanos }

def after (works : Works) (turns : List Turn) : Works := turns.foldl step works

end Works

def InOrder (now : Nat) (map : TimedMap) : Prop :=
  ∀ key entry, map.live? now key = some entry → Fits key entry.value

namespace InOrder

variable {now : Nat} {map : TimedMap}

theorem empty (now : Nat) : InOrder now .empty := nofun

theorem pass (h : InOrder now map) (more : Nat) : InOrder (now + more) map :=
  fun key entry live => h key entry (TimedMap.live?_of_later (Nat.le_add_right now more) live)

theorem erase (h : InOrder now map) (key : String) : InOrder now (map.erase key) := by
  intro other entry live
  by_cases same : other = key
  · subst same
    rw [TimedMap.live?_erase_self] at live
    cases live
  · rw [TimedMap.live?_erase_of_ne _ _ same] at live
    exact h other entry live

theorem put (h : InOrder now map) {key text : String} (fits : Fits key text)
    (lifetime : Duration) : InOrder now (map.put now key text lifetime) := by
  intro other entry live
  by_cases same : other = key
  · subst same
    rw [TimedMap.live?_put_self] at live
    split at live
    · cases live
      exact fits
    · cases live
  · rw [TimedMap.live?_put_of_ne _ _ _ _ _ same] at live
    exact h other entry live

variable {c : Circumstances} {p : Progress}

/-- A call that keeps the contract leaves the map in order. -/
theorem respond (h : InOrder now p.map) (call : gatewaySignature.Call)
    (allowed : legible.allows () call) : InOrder now (c.respond now call p).2.map := by
  rcases call with call | id | _ | bases
  · rw [Circumstances.respond]
    cases c.fault p.calls call with
    | some words => exact h
    | none =>
      cases call with
      | write key text lifetime => exact h.put allowed lifetime
      | delete key => exact h.erase key
      | _ => exact h
  all_goals exact h

theorem reliable (h : InOrder now p.map)
    (finite : ∀ bases rates, c.rates bases = .ok rates → ∀ rate ∈ rates, rate.rate.isFinite = true)
    (call : gatewaySignature.Call) : Reliable call (c.respond now call p).1 := by
  rcases call with (key | ⟨key, text, lifetime⟩ | _ | _ | _ | _) | id | _ | bases
  · rw [c.respond_read]
    cases c.fault p.calls (.read key) with
    | some words => exact ⟨clean_error not_false, nofun⟩
    | none =>
      refine ⟨clean_ok _, ?_⟩
      intro text told
      obtain ⟨entry, live, rfl⟩ := Option.map_eq_some_iff.mp (Except.ok.inj told)
      exact h key entry live
  · rw [c.respond_write]
    cases c.fault p.calls (.write key text lifetime) with
    | some words => exact clean_error not_false
    | none => exact clean_ok ()
  all_goals try exact trivial
  · change Clean ((c.record id).mapError _)
    cases c.record id with
    | error words => exact clean_error not_false
    | ok key => exact clean_ok key
  · exact finite bases

end InOrder

theorem QuotePolicy.legible_errand (policy : QuotePolicy) (inquiry : Inquiry) :
    (policy.errand inquiry).Keeps legible (fun _ outcome => outcome.IsClean) () := by
  change (((policy.answer _ _ _).run.bind _).bind _).Keeps legible _ ()
  rw [Dialogue.bind_assoc]
  exact Dialogue.Keeps.bind (policy.legible_answer inquiry.id inquiry.pairs inquiry.now)
    fun _ _ clean => clean

theorem UpdaterPlan.legible_errand (plan : UpdaterPlan) :
    plan.errand.Keeps legible (fun _ outcome => outcome.IsClean) () :=
  Dialogue.Keeps.bind plan.legible_cycle fun _ _ _ => trivial

/-- The map is in order, and every errand keeps it so with the work that is left of it. -/
structure Sane (works : Works) : Prop where
  inOrder : InOrder works.now works.map
  legible : ∀ work, some work ∈ works.errands →
    work.Keeps legible (fun _ outcome => outcome.IsClean) ()

namespace Sane

variable {works : Works}

theorem opening (now : Nat) : Sane (.opening now) where
  inOrder := .empty now
  legible := nofun

theorem begin (sane : Sane works) {work : Dialogue gatewaySignature Outcome}
    (h : work.Keeps QuoteGateway.legible (fun _ outcome => outcome.IsClean) ()) :
    Sane (works.begin work) where
  inOrder := sane.inOrder
  legible := by
    intro other member
    rcases List.mem_append.mp member with earlier | new
    · exact sane.legible other earlier
    · obtain rfl := Option.some.inj (List.mem_singleton.mp new)
      exact h

theorem set (sane : Sane works) {map : TimedMap} (inOrder : InOrder works.now map) (number : Nat)
    {work : Option (Dialogue gatewaySignature Outcome)}
    (h : ∀ rest, work = some rest →
      rest.Keeps QuoteGateway.legible (fun _ outcome => outcome.IsClean) ()) :
    Sane { works with map := map, errands := works.errands.set number work } where
  inOrder := inOrder
  legible := by
    intro rest member
    rcases List.mem_or_eq_of_mem_set member with other | same
    · exact sane.legible rest other
    · exact h rest same.symm

theorem proceed (sane : Sane works) (number : Nat) {c : Circumstances}
    (finite : ∀ bases rates, c.rates bases = .ok rates →
      ∀ rate ∈ rates, rate.rate.isFinite = true) : Sane (works.proceed number c) := by
  unfold Works.proceed
  split
  · rename_i call next found
    -- The question is one that the contract allows, so its answer is one that can be relied on.
    have keeps := sane.legible _ (List.mem_of_getElem? found)
    refine sane.set (sane.inOrder.respond (p := ⟨0, works.map⟩) call keeps.1) number ?_
    rintro rest ⟨⟩
    exact keeps.2 _ () (sane.inOrder.reliable (p := ⟨0, works.map⟩) finite call)
  · rename_i event next found
    have keeps := sane.legible _ (List.mem_of_getElem? found)
    apply sane.set sane.inOrder number
    rintro rest ⟨⟩
    exact keeps
  · exact sane

theorem step (sane : Sane works) {turn : Turn}
    (finite : ∀ number c bases rates, turn = .proceed number c → c.rates bases = .ok rates →
      ∀ rate ∈ rates, rate.rate.isFinite = true) : Sane (works.step turn) := by
  cases turn with
  | inquire policy inquiry => exact sane.begin (policy.legible_errand inquiry)
  | refresh plan => exact sane.begin plan.legible_errand
  | proceed number c => exact sane.proceed number fun bases rates => finite number c bases rates rfl
  | drop number => exact sane.set sane.inOrder number nofun
  | expire key => exact ⟨sane.inOrder.erase key, sane.legible⟩
  | pass duration => exact ⟨sane.inOrder.pass duration.nanos, sane.legible⟩

theorem after (sane : Sane works) {turns : List Turn}
    (finite : ∀ number c bases rates, Turn.proceed number c ∈ turns → c.rates bases = .ok rates →
      ∀ rate ∈ rates, rate.rate.isFinite = true) : Sane (works.after turns) := by
  induction turns generalizing works with
  | nil => exact sane
  | cons turn turns ih =>
    apply ih
    · apply sane.step
      rintro number c bases rates rfl
      exact finite number c bases rates List.mem_cons_self
    · intro number c bases rates member
      exact finite number c bases rates (List.mem_cons_of_mem turn member)

end Sane

/-- Everything that is kept can be read by those who look for it, and no request has come across an
entry that cannot. -/
structure Readable (works : Works) : Prop where
  logs : ∀ id entry, works.map.live? works.now (CacheKey.ofApiKey id) = some entry →
    ∃ state, Json.readText QuotaState.reader entry.value = .ok state ∧ state.apiKeyId = id
  rates : ∀ base target entry,
    works.map.live? works.now (CacheKey.ofRate base target) = some entry →
      ∃ cached, Json.readText CachedRate.reader entry.value = .ok cached
  kinds : ∀ key entry, works.map.live? works.now key = some entry →
    Xor (∃ id, key = CacheKey.ofApiKey id) (∃ base target, key = CacheKey.ofRate base target)
  foundLogs : ∀ id, ∃ state,
    found QuotaState.reader works.now works.map (CacheKey.ofApiKey id) = .ok state
  foundRates : ∀ base target, ∃ cached,
    found CachedRate.reader works.now works.map (CacheKey.ofRate base target) = .ok cached
  answers : ∀ result, some (.done (.answered result)) ∈ works.errands → Clean result

theorem exists_found {α : Type} {reader : Json.Reader α} {now : Nat} {map : TimedMap}
    {key : String} (h : ∀ entry, map.live? now key = some entry →
      ∃ a, Json.readText reader entry.value = .ok a) : ∃ a, found reader now map key = .ok a := by
  cases live : map.live? now key with
  | none => exact ⟨none, found_of_missing live⟩
  | some entry =>
    obtain ⟨a, read⟩ := h entry live
    exact ⟨some a, found_of_entry live read⟩

theorem Fits.kind {key text : String} (h : Fits key text) :
    Xor (∃ id, key = CacheKey.ofApiKey id) (∃ base target, key = CacheKey.ofRate base target) := by
  cases h with
  | log state read =>
    refine .inl ⟨⟨_, rfl⟩, ?_⟩
    rintro ⟨base, target, same⟩
    exact CacheKey.ofApiKey_ne_ofRate _ _ _ same
  | rate base target cached read =>
    refine .inr ⟨⟨base, target, rfl⟩, ?_⟩
    rintro ⟨id, same⟩
    exact CacheKey.ofApiKey_ne_ofRate _ _ _ same.symm

theorem Sane.readable {works : Works} (sane : Sane works) : Readable works where
  logs id entry live := (sane.inOrder _ entry live).exists_log rfl
  rates base target entry live := (sane.inOrder _ entry live).exists_rate rfl
  kinds key entry live := (sane.inOrder key entry live).kind
  foundLogs id := by
    apply exists_found
    intro entry live
    obtain ⟨state, read, -⟩ := (sane.inOrder _ entry live).exists_log rfl
    exact ⟨state, read⟩
  foundRates base target :=
    exists_found fun entry live => (sane.inOrder _ entry live).exists_rate rfl
  answers result member := sane.legible _ member

/-- From an empty cache on, the gateway can read all that it has written, however requests and
cycles interleave, whichever of their calls fail and whatever records the key store has, as long as
the rates from the source are finite. -/
theorem readable_after (now : Nat) {turns : List Turn}
    (finite : ∀ number c bases rates, Turn.proceed number c ∈ turns → c.rates bases = .ok rates →
      ∀ rate ∈ rates, rate.rate.isFinite = true) :
    Readable ((Works.opening now).after turns) :=
  ((Sane.opening now).after finite).readable

/-- A request for a key that needs escapes starts during a cycle and is recorded. Another one finds
its log. -/
def escaping : List Turn :=
  let inquiry := { Small.inquiry Small.firstSecond with id := "\"\\\n\u0001é" }
  let one := List.replicate 2 (Turn.proceed 0 Small.world)
  let two := List.replicate 4 (Turn.proceed 1 Small.world)
  [.refresh Small.setup.plan, .inquire Small.setup.policy inquiry] ++ one ++ two ++
    [.inquire Small.setup.policy inquiry, .proceed 2 Small.world]

theorem readable_escaping :
    (∀ number c bases rates, Turn.proceed number c ∈ escaping → c.rates bases = .ok rates →
      ∀ rate ∈ rates, rate.rate.isFinite = true) ∧
    Readable ((Works.opening 0).after escaping) ∧
    (((Works.opening 0).after escaping).map.live? 0
      (CacheKey.ofApiKey "\"\\\n\u0001é")).isSome = true := by
  have finite : ∀ number c bases rates, Turn.proceed number c ∈ escaping →
      c.rates bases = .ok rates → ∀ rate ∈ rates, rate.rate.isFinite = true := by
    intro number c bases rates member told
    have same : c = Small.world := by
      simp [escaping] at member
      rcases member with ⟨_, rfl⟩ | ⟨_, rfl⟩ | ⟨_, rfl⟩ <;> rfl
    subst same
    cases told
    simp only [List.mem_singleton, forall_eq]
    rfl
  exact ⟨finite, readable_after 0 finite, by decide +kernel⟩

end QuoteGateway
