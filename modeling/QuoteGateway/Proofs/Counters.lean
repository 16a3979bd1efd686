import QuoteGateway.Observation
import QuoteGateway.Proofs.CacheKeys
import QuoteGateway.Proofs.Course
import QuoteGateway.Proofs.Run
import QuoteGateway.Proofs.Schedule
import QuoteGateway.Proofs.Table

/-!
# What the counters count

The counters of a gateway that has been running for a while, against all that has happened: every
finished request is counted once under the label of its outcome, every cycle under its own, and the
published rates are the rates that were written, also where their cycle failed in the end. The
surroundings may answer what they like, and a request may be abandoned on its way.
-/

namespace QuoteGateway

/-- The value of a counter. One that has not been advanced yet is at zero. -/
def counted (counters : Table Nat) (name : String) : Nat := (counters.get? name).getD 0

def Event.advanceOn (p : String → Bool) (event : Event) : Nat :=
  match event.advance? with
  | none => 0
  | some (name, n) => if p name then n else 0

theorem counted_countEvent (counters : Table Nat) (event : Event) (name : String) :
    counted (countEvent counters event) name =
      counted counters name + event.advanceOn (· == name) := by
  unfold countEvent Event.advanceOn counted
  rcases event.advance? with _ | ⟨other, n⟩
  · rfl
  · by_cases same : other = name
    · simp [same, Table.get?_put_self]
    · simp [same, Table.get?_put_of_ne counters _ (Ne.symm same)]

theorem total_countEvent (counters : Table Nat) (event : Event) (p : String → Bool) :
    (countEvent counters event).total p = counters.total p + event.advanceOn p := by
  unfold countEvent Event.advanceOn
  rcases event.advance? with _ | ⟨name, n⟩
  · rfl
  · have both := counters.total_put p name ((counters.get? name).getD 0 + n)
    cases counts : p name <;> simp only [counts, Bool.false_eq_true, if_false, if_true] at both ⊢
    · exact both
    · omega

/-- The name of the counter of the requests with an outcome. -/
def requestsWith (outcome : String) : String := labelled requestCounter "outcome" outcome

/-- The name of the counter of the cycles that succeeded, or of those that failed. -/
def cyclesWith (succeeded : Bool) : String :=
  labelled cycleCounter "outcome" (cycleOutcome succeeded)

/-- Whether a name is one of the counters of requests, whatever its label. -/
def isRequestCounter (name : String) : Bool :=
  (requestCounter ++ "\x7b").toList.isPrefixOf name.toList

theorem toList_requestsWith (outcome : String) :
    (requestsWith outcome).toList =
      (requestCounter ++ "\x7b" ++ "outcome" ++ "=").toList ++ outcome.toList ++ ['\x7d'] := by
  rw [requestsWith, labelled, String.toList_append, String.toList_append]
  rfl

theorem requestsWith_inj {outcome other : String} :
    requestsWith outcome = requestsWith other ↔ outcome = other := by
  rw [← String.toList_inj, toList_requestsWith, toList_requestsWith, List.append_left_inj,
    List.append_right_inj, String.toList_inj]

theorem isRequestCounter_requestsWith (outcome : String) :
    isRequestCounter (requestsWith outcome) = true := by
  rw [isRequestCounter, List.isPrefixOf_iff_prefix, toList_requestsWith, String.toList_append,
    String.toList_append, String.toList_append, List.append_assoc, List.append_assoc,
    List.append_assoc]
  exact List.prefix_append _ _

theorem requestsWith_ne {name : String} (h : isRequestCounter name = false) (outcome : String) :
    requestsWith outcome ≠ name := by
  rintro rfl
  rw [isRequestCounter_requestsWith] at h
  cases h

theorem isRequestCounter_cyclesWith (succeeded : Bool) :
    isRequestCounter (cyclesWith succeeded) = false := by
  cases succeeded <;> decide

theorem isRequestCounter_publishedCounter : isRequestCounter publishedCounter = false := by decide

theorem cyclesWith_ne_publishedCounter (succeeded : Bool) :
    cyclesWith succeeded ≠ publishedCounter := by
  cases succeeded <;> decide

theorem cyclesWith_inj {succeeded other : Bool} :
    cyclesWith succeeded = cyclesWith other ↔ succeeded = other := by
  cases succeeded <;> cases other <;> decide

theorem Kind.label_inj {kind other : Kind} : kind.label = other.label ↔ kind = other := by
  cases kind <;> cases other <;> decide

theorem Kind.label_ne_success (kind : Kind) : kind.label ≠ "success" := by
  cases kind <;> decide

/-- Only a request that was served has the label of success. -/
theorem outcomeLabel_eq_success {α : Type} (result : Except Failure α) :
    outcomeLabel result = "success" ↔ result.isOk = true := by
  cases result with
  | ok a => exact iff_of_true rfl rfl
  | error failure => exact iff_of_false failure.kind.label_ne_success Bool.false_ne_true

/-- A label of a kind belongs to the failures of this kind alone. -/
theorem outcomeLabel_eq_label {α : Type} (result : Except Failure α) (kind : Kind) :
    outcomeLabel result = kind.label ↔ (failureOf result).map Failure.kind = some kind := by
  cases result with
  | ok a => exact iff_of_false kind.label_ne_success.symm nofun
  | error failure => exact Kind.label_inj.trans Option.some_inj.symm

def CacheKey.isRate (key : String) : Bool := "rate_".toList.isPrefixOf key.toList

theorem CacheKey.isRate_ofRate (base target : String) : isRate (ofRate base target) = true := by
  rw [isRate, List.isPrefixOf_iff_prefix, toList_ofRate]
  exact List.prefix_append "rate_".toList _

theorem CacheKey.isRate_ofApiKey (id : String) : isRate (ofApiKey id) = false := by
  rw [isRate, toList_ofApiKey]
  rfl

def Exchange.publishes : Exchange gatewaySignature → Bool
  | ⟨.cache (.write key _ _), answer⟩ => CacheKey.isRate key && Except.isOk answer
  | _ => false

namespace Dialogue

variable {α β : Type}

/-- The dialogue publishes no rate and tells of nothing that is counted. -/
def Uncounted : Dialogue gatewaySignature α → Prop
  | done _ => True
  | ask call next => ∀ answer, Exchange.publishes ⟨call, answer⟩ = false ∧ (next answer).Uncounted
  | tell event next => Event.advance? event = none ∧ next.Uncounted

theorem Uncounted.bind {d : Dialogue gatewaySignature α} {f : α → Dialogue gatewaySignature β}
    (first : d.Uncounted) (goesOn : ∀ a, (f a).Uncounted) : (d.bind f).Uncounted := by
  induction d with
  | done a => exact goesOn a
  | ask call next ih => exact fun answer => ⟨(first answer).1, ih answer (first answer).2⟩
  | tell event next ih => exact ⟨first.1, ih first.2⟩

end Dialogue

namespace Job

variable {α β : Type}

def Uncounted (job : Job α) : Prop := Dialogue.Uncounted job.run

theorem uncounted_pure (a : α) : Uncounted (pure a) := trivial

theorem uncounted_throw (failure : Failure) : Uncounted (throw failure : Job α) := trivial

theorem uncounted_call {c : Call} (h : ∀ answer, Exchange.publishes ⟨c, answer⟩ = false) :
    Uncounted (Job.call c) :=
  fun answer => ⟨h answer, trivial⟩

theorem Uncounted.bind {job : Job α} {f : α → Job β} (first : Uncounted job)
    (goesOn : ∀ a, Uncounted (f a)) : Uncounted (job >>= f) := by
  apply Dialogue.Uncounted.bind first
  rintro (failure | a)
  · trivial
  · exact goesOn a

theorem Uncounted.lift_run_bind {job : Job α} {f : Except Failure α → Job β}
    (first : Uncounted job) (goesOn : ∀ outcome, Uncounted (f outcome)) :
    Uncounted (ExceptT.lift job.run >>= f) := by
  have looked : Uncounted (ExceptT.lift job.run) :=
    Dialogue.Uncounted.bind first fun _ => trivial
  exact looked.bind goesOn

theorem Uncounted.report {job : Job α} (h : Uncounted job) {event : Event}
    (silent : event.advance? = none) : Uncounted (Job.report event >>= fun _ => job) :=
  ⟨silent, h⟩

theorem Uncounted.adapt {job : Job α} (h : Uncounted job) (change : Failure → Failure) :
    Uncounted (ExceptT.adapt change job) :=
  Dialogue.Uncounted.bind h fun _ => trivial

theorem uncounted_readEntry (reader : Json.Reader α) (key : String) :
    Uncounted (Job.readEntry reader key) := by
  rw [Uncounted, run_readEntry]
  exact fun answer => ⟨rfl, trivial⟩

end Job

theorem Gate.uncounted_loadState (id : String) : Job.Uncounted (loadState id) := by
  apply Job.Uncounted.bind (Job.uncounted_readEntry _ _)
  rintro (_ | state)
  · apply Job.Uncounted.bind (Job.uncounted_call fun _ => rfl)
    rintro (_ | key)
    · exact Job.uncounted_throw _
    · exact Job.uncounted_pure _
  · exact Job.uncounted_pure _

theorem Gate.uncounted_authorize (limit : RateLimit) (id : String) (t : Calendar.Instant) :
    Job.Uncounted (authorize limit id t) := by
  unfold authorize
  by_cases empty : id.isEmpty
  · simp only [empty, if_true]
    exact Job.uncounted_throw _
  · simp only [empty, if_false, Bool.false_eq_true]
    apply Job.Uncounted.bind (uncounted_loadState id)
    intro state
    split
    · exact (Job.uncounted_throw _).report rfl
    · exact Job.uncounted_pure _

theorem Gate.uncounted_recordUsage (limit : RateLimit) (state : QuotaState)
    (t : Calendar.Instant) : Job.Uncounted (recordUsage limit state t) := by
  apply Job.Uncounted.bind
  · apply Job.uncounted_call
    intro answer
    exact (congrArg (· && Except.isOk answer) (CacheKey.isRate_ofApiKey _)).trans
      (Bool.false_and _)
  · exact fun _ => Job.uncounted_pure _

theorem Lookup.uncounted_resolve (pair : CurrencyPair) : Job.Uncounted (resolve pair) := by
  apply Job.Uncounted.bind ((Job.uncounted_readEntry _ _).adapt _)
  rintro (_ | cached)
  · exact Job.uncounted_throw _
  · exact Job.uncounted_pure _

theorem Lookup.uncounted_resolveAll (pairs : List CurrencyPair) :
    Job.Uncounted (resolveAll pairs) := by
  induction pairs with
  | nil => exact Job.uncounted_pure _
  | cons pair pairs ih =>
    apply Job.Uncounted.bind (uncounted_resolve pair)
    exact fun result => ih.bind fun results => Job.uncounted_pure _

theorem QuotePolicy.uncounted_answer (policy : QuotePolicy) (id : String)
    (pairs : List CurrencyPair) (t : Calendar.Instant) :
    Job.Uncounted (policy.answer id pairs t) := by
  unfold answer
  by_cases empty : pairs.isEmpty
  · simp only [empty, if_true]
    exact Job.uncounted_throw _
  · simp only [empty, if_false, Bool.false_eq_true]
    apply Job.Uncounted.bind (Gate.uncounted_authorize policy.limit id t)
    intro state
    apply Job.Uncounted.bind (Lookup.uncounted_resolveAll pairs)
    intro rates
    apply Job.Uncounted.lift_run_bind (Gate.uncounted_recordUsage policy.limit state t)
    rintro (failure | recorded)
    · cases policy.recording with
      | strict => exact Job.uncounted_throw _
      | bestEffort => exact (Job.uncounted_pure _).report rfl
    · exact Job.uncounted_pure _

theorem QuotePolicy.serve_eq (policy : QuotePolicy) (id : String) (pairs : List CurrencyPair)
    (t : Calendar.Instant) :
    policy.serve id pairs t = (policy.answer id pairs t).run.bind fun result =>
      .tell (.requestFinished (outcomeLabel result)) (.done result) := rfl

/-- Surroundings that answer every call of the gateway, and change as they do. -/
abbrev Responder (σ : Type) :=
  (call : gatewaySignature.Call) → StateM σ (gatewaySignature.Answer call)

/-- The surroundings of a gateway, its counters, and all that it has exchanged with them. -/
structure Monitor (σ : Type) where
  surroundings : σ
  counters : Table Nat
  exchanges : List (Exchange gatewaySignature)

namespace Monitor

variable {σ α : Type}

def answer (respond : Responder σ) (call : gatewaySignature.Call) :
    StateM (Monitor σ) (gatewaySignature.Answer call) := fun monitor =>
  let reply := respond call monitor.surroundings
  (reply.1, ⟨reply.2, monitor.counters, monitor.exchanges ++ [⟨call, reply.1⟩]⟩)

def hear (event : Event) : StateM (Monitor σ) Unit := fun monitor =>
  ((), { monitor with counters := countEvent monitor.counters event })

def carryOut (respond : Responder σ) (d : Dialogue gatewaySignature α) : StateM (Monitor σ) α :=
  d.run (answer respond) hear

def carryUntil (respond : Responder σ) (cut : Dialogue.Cut) (d : Dialogue gatewaySignature α) :
    StateM (Monitor σ) (Option α) :=
  d.runUntil (answer respond) hear cut

/-- How many rates have been written. -/
def published (monitor : Monitor σ) : Nat := monitor.exchanges.countP Exchange.publishes

/-- The counters stand as before, and no rate has been written since. -/
structure Level (monitor later : Monitor σ) : Prop where
  counters : later.counters = monitor.counters
  published : later.published = monitor.published

variable {respond : Responder σ} {monitor : Monitor σ}

theorem Level.refl (monitor : Monitor σ) : monitor.Level monitor := ⟨rfl, rfl⟩

theorem Level.trans {later last : Monitor σ} (first : monitor.Level later)
    (second : later.Level last) : monitor.Level last :=
  ⟨second.counters.trans first.counters, second.published.trans first.published⟩

theorem published_answer (respond : Responder σ) (call : gatewaySignature.Call)
    (monitor : Monitor σ) :
    (answer respond call monitor).2.published =
      monitor.published +
        if Exchange.publishes ⟨call, (respond call monitor.surroundings).1⟩ then 1 else 0 := by
  simp only [published, answer, List.countP_append, List.countP_singleton]

theorem level_answer {call : gatewaySignature.Call}
    (h : ∀ answer, Exchange.publishes ⟨call, answer⟩ = false) :
    monitor.Level (answer respond call monitor).2 := by
  refine ⟨rfl, ?_⟩
  rw [published_answer, h]
  rfl

theorem level_hear {event : Event} (silent : event.advance? = none) :
    monitor.Level (hear event monitor).2 := by
  refine ⟨?_, rfl⟩
  simp only [hear, countEvent, silent]

theorem carryOut_bind {β : Type} (d : Dialogue gatewaySignature α)
    (f : α → Dialogue gatewaySignature β) (monitor : Monitor σ) :
    carryOut respond (d.bind f) monitor =
      carryOut respond (f (carryOut respond d monitor).1) (carryOut respond d monitor).2 :=
  congrFun (Dialogue.run_bind (answer respond) hear d f) monitor

theorem level_carryOut {d : Dialogue gatewaySignature α} (uncounted : d.Uncounted) :
    monitor.Level (carryOut respond d monitor).2 := by
  induction d generalizing monitor with
  | done a => exact .refl monitor
  | ask call next ih =>
    have asked : monitor.Level (answer respond call monitor).2 :=
      level_answer fun answer => (uncounted answer).1
    exact asked.trans (ih _ (uncounted _).2)
  | tell event next ih => exact (level_hear uncounted.1).trans (ih uncounted.2)

/-- Of a dialogue that ends with an event, this event alone is counted, and only if the dialogue
comes to its end. -/
theorem carryUntil_tell (respond : Responder σ) {d : Dialogue gatewaySignature α}
    (uncounted : d.Uncounted) (event : α → Event) (cut : Dialogue.Cut) (monitor : Monitor σ) :
    let out := carryUntil respond cut (d.bind fun a => .tell (event a) (.done a)) monitor
    ∃ later, monitor.Level later ∧
      out.2 = out.1.elim later fun a => (hear (event a) later).2 := by
  induction d generalizing cut monitor with
  | done a => exact ⟨monitor, .refl monitor, rfl⟩
  | ask call next ih =>
    have asked : monitor.Level (answer respond call monitor).2 :=
      level_answer fun answer => (uncounted answer).1
    rcases cut with ⟨_ | answers, takesEffect⟩
    · cases takesEffect with
      | false => exact ⟨monitor, .refl monitor, rfl⟩
      | true => exact ⟨_, asked, rfl⟩
    · obtain ⟨later, level, out⟩ := ih _ (uncounted _).2 ⟨answers, takesEffect⟩ _
      exact ⟨later, asked.trans level, out⟩
  | tell told next ih =>
    obtain ⟨later, level, out⟩ := ih uncounted.2 cut _
    exact ⟨later, (level_hear uncounted.1).trans level, out⟩

/-- Carries a job out to its result or failure. -/
def conduct (respond : Responder σ) (job : Job α) (monitor : Monitor σ) :
    Except Failure α × Monitor σ :=
  carryOut respond job.run monitor

theorem conduct_bind {β : Type} (job : Job α) (f : α → Job β) (monitor : Monitor σ) :
    conduct respond (job >>= f) monitor =
      match conduct respond job monitor with
      | (.ok a, later) => conduct respond (f a) later
      | (.error failure, later) => (.error failure, later) := by
  change carryOut respond (job.run.bind _) monitor = _
  rw [carryOut_bind, conduct]
  rcases carryOut respond job.run monitor with ⟨failure | a, later⟩ <;> rfl

theorem conduct_lift_run (job : Job α) (monitor : Monitor σ) :
    conduct respond (ExceptT.lift job.run) monitor =
      (.ok (conduct respond job monitor).1, (conduct respond job monitor).2) := by
  change carryOut respond (job.run.bind _) monitor = _
  rw [carryOut_bind]
  rfl

theorem conduct_publish_cons (plan : UpdaterPlan) (count : Nat) (rate : FeedRate)
    (rates : List FeedRate) (monitor : Monitor σ) :
    conduct respond (plan.publish count (rate :: rates)) monitor =
      match conduct respond (Job.writeEntry (CacheKey.ofRate rate.base rate.target)
          rate.cached.document plan.rateLifetime) monitor with
      | (.ok _, later) => conduct respond (plan.publish (count + 1) rates) later
      | (.error failure, later) => (.error failure, (hear (.ratesPublished count) later).2) := by
  rw [UpdaterPlan.publish, conduct_bind, conduct_lift_run]
  rcases conduct respond (Job.writeEntry (CacheKey.ofRate rate.base rate.target)
    rate.cached.document plan.rateLifetime) monitor with ⟨failure | done, later⟩ <;> rfl

theorem conduct_refresh (plan : UpdaterPlan) (monitor : Monitor σ) :
    conduct respond plan.refresh monitor =
      match conduct respond (Job.call (.fetchRates plan.bases)) monitor with
      | (.ok rates, later) => conduct respond (plan.publish 0 rates) later
      | (.error failure, later) => (.error failure, later) := by
  rw [UpdaterPlan.refresh, conduct_bind]
  rcases conduct respond (Job.call (.fetchRates plan.bases)) monitor with
    ⟨failure | rates, later⟩ <;> rfl

theorem published_writeEntry (base target : String) (document : Json.Document)
    (lifetime : Duration) {monitor later : Monitor σ} {result : Except Failure Unit}
    (h : conduct respond (Job.writeEntry (CacheKey.ofRate base target) document lifetime) monitor =
      (result, later)) :
    later.counters = monitor.counters ∧
      later.published = monitor.published + if result.isOk then 1 else 0 := by
  have written := published_answer respond
    (.cache (.write (CacheKey.ofRate base target) document.compact lifetime)) monitor
  simp only [Exchange.publishes, CacheKey.isRate_ofRate, Bool.true_and] at written
  obtain ⟨rfl, rfl⟩ := Prod.mk.inj h
  exact ⟨rfl, written⟩

/-- However the writing of rates ends, those that were written are counted with the earlier ones. -/
theorem counts_publish (respond : Responder σ) (plan : UpdaterPlan) (count : Nat)
    (rates : List FeedRate) (monitor : Monitor σ) :
    ∃ n, (conduct respond (plan.publish count rates) monitor).2.published =
        monitor.published + n ∧
      (conduct respond (plan.publish count rates) monitor).2.counters =
        countEvent monitor.counters (.ratesPublished (count + n)) := by
  induction rates generalizing count monitor with
  | nil => exact ⟨0, rfl, rfl⟩
  | cons rate rates ih =>
    rw [conduct_publish_cons]
    rcases written : conduct respond (Job.writeEntry (CacheKey.ofRate rate.base rate.target)
      rate.cached.document plan.rateLifetime) monitor with ⟨failure | done, later⟩
    · obtain ⟨counters, published⟩ := published_writeEntry _ _ _ _ written
      exact ⟨0, published, congrArg (countEvent · (.ratesPublished count)) counters⟩
    · obtain ⟨counters, published⟩ := published_writeEntry _ _ _ _ written
      obtain ⟨n, others, total⟩ := ih (count + 1) later
      refine ⟨n + 1, ?_, ?_⟩
      · rw [published] at others
        exact others.trans (Nat.add_right_comm _ 1 n)
      · rw [counters, Nat.add_right_comm] at total
        exact total

/-- A refresh counts the rates that it has written, if it gets so far as to have any to write. -/
theorem counts_refresh (respond : Responder σ) (plan : UpdaterPlan) (monitor : Monitor σ) :
    monitor.Level (conduct respond plan.refresh monitor).2 ∨
      ∃ n, (conduct respond plan.refresh monitor).2.published = monitor.published + n ∧
        (conduct respond plan.refresh monitor).2.counters =
          countEvent monitor.counters (.ratesPublished n) := by
  have fetched : monitor.Level (conduct respond (Job.call (.fetchRates plan.bases)) monitor).2 :=
    level_answer fun _ => rfl
  rw [conduct_refresh]
  rcases fetch : conduct respond (Job.call (.fetchRates plan.bases)) monitor with
    ⟨failure | rates, later⟩
  · rw [fetch] at fetched
    exact .inl fetched
  · rw [fetch] at fetched
    obtain ⟨n, written, counters⟩ := counts_publish respond plan 0 rates later
    rw [fetched.published] at written
    rw [Nat.zero_add, fetched.counters] at counters
    exact .inr ⟨n, written, counters⟩

/-- A cycle is a refresh whose outcome is counted. -/
theorem carryOut_cycle (plan : UpdaterPlan) (monitor : Monitor σ) :
    (carryOut respond plan.cycle monitor).2 =
      (hear (.cycleFinished (conduct respond plan.refresh monitor).1.isOk)
        (conduct respond plan.refresh monitor).2).2 := by
  have cycle : carryOut respond plan.cycle monitor = _ := carryOut_bind plan.refresh.run _ monitor
  rw [cycle, conduct]
  rcases carryOut respond plan.refresh.run monitor with ⟨failure | count, later⟩ <;> rfl

end Monitor

/-- What happens at the gateway, and the surroundings in which it does: a request, which may be
abandoned on its way, or a cycle of the updater. -/
inductive Deed (σ : Type) where
  | request (inquiry : Inquiry) (respond : Responder σ)
  | abandon (inquiry : Inquiry) (cut : Dialogue.Cut) (respond : Responder σ)
  | cycle (respond : Responder σ)

/-- A gateway that has been running for a while, with the results of the requests that came to
their end and of the refreshes of all cycles. -/
structure Day (σ : Type) where
  monitor : Monitor σ
  answers : List (Except Failure QuoteResponse)
  refreshes : List (Except Failure Nat)

namespace Day

variable {σ : Type} (setup : Setup)

def dawn (surroundings : σ) : Day σ := ⟨⟨surroundings, .empty, []⟩, [], []⟩

/-- The gateway after a deed. The result of a cycle is that of the refresh it begins with, which it
does not return itself. -/
def step (day : Day σ) : Deed σ → Day σ
  | .request inquiry respond =>
    let work := setup.policy.serve inquiry.id inquiry.pairs inquiry.now
    let out := Monitor.carryOut respond work day.monitor
    ⟨out.2, day.answers ++ [out.1], day.refreshes⟩
  | .abandon inquiry cut respond =>
    let work := setup.policy.serve inquiry.id inquiry.pairs inquiry.now
    let out := Monitor.carryUntil respond cut work day.monitor
    ⟨out.2, day.answers ++ out.1.toList, day.refreshes⟩
  | .cycle respond =>
    ⟨(Monitor.carryOut respond setup.plan.cycle day.monitor).2, day.answers,
      day.refreshes ++ [(Monitor.conduct respond setup.plan.refresh day.monitor).1]⟩

def after (day : Day σ) (deeds : List (Deed σ)) : Day σ := deeds.foldl (step setup) day

/-- The counters tell what has happened. -/
structure Balanced (day : Day σ) : Prop where
  requests : ∀ outcome, counted day.monitor.counters (requestsWith outcome) =
    day.answers.countP (outcomeLabel · = outcome)
  total : day.monitor.counters.total isRequestCounter = day.answers.length
  cycles : ∀ succeeded, counted day.monitor.counters (cyclesWith succeeded) =
    day.refreshes.countP (·.isOk = succeeded)
  published : counted day.monitor.counters publishedCounter = day.monitor.published

/-- An event stands for the end of some requests and cycles and for so many published rates. -/
structure Counts (event : Event) (answers : List (Except Failure QuoteResponse))
    (refreshes : List (Except Failure Nat)) (written : Nat) : Prop where
  requests : ∀ outcome, event.advanceOn (· == requestsWith outcome) =
    answers.countP (outcomeLabel · = outcome)
  total : event.advanceOn isRequestCounter = answers.length
  cycles : ∀ succeeded, event.advanceOn (· == cyclesWith succeeded) =
    refreshes.countP (·.isOk = succeeded)
  published : event.advanceOn (· == publishedCounter) = written

theorem counts_requestFinished (result : Except Failure QuoteResponse) :
    Counts (.requestFinished (outcomeLabel result)) [result] [] 0 := by
  have advance : ∀ p, Event.advanceOn p (.requestFinished (outcomeLabel result)) =
      if p (requestsWith (outcomeLabel result)) then 1 else 0 := fun p => rfl
  refine ⟨fun outcome => ?_, ?_, fun succeeded => ?_, ?_⟩ <;> rw [advance]
  · simp [requestsWith_inj, List.countP_singleton]
  · simp [isRequestCounter_requestsWith]
  · simp [requestsWith_ne (isRequestCounter_cyclesWith succeeded)]
  · simp [requestsWith_ne isRequestCounter_publishedCounter]

theorem counts_ratesPublished (n : Nat) : Counts (.ratesPublished n) [] [] n := by
  have advance : ∀ p, Event.advanceOn p (.ratesPublished n) =
      if p publishedCounter then n else 0 := fun p => rfl
  refine ⟨fun outcome => ?_, ?_, fun succeeded => ?_, ?_⟩ <;> rw [advance]
  · simp [(requestsWith_ne isRequestCounter_publishedCounter outcome).symm]
  · simp [isRequestCounter_publishedCounter]
  · simp [(cyclesWith_ne_publishedCounter succeeded).symm]
  · simp

theorem counts_cycleFinished (result : Except Failure Nat) :
    Counts (.cycleFinished result.isOk) [] [result] 0 := by
  have advance : ∀ p, Event.advanceOn p (.cycleFinished result.isOk) =
      if p (cyclesWith result.isOk) then 1 else 0 := fun p => rfl
  refine ⟨fun outcome => ?_, ?_, fun succeeded => ?_, ?_⟩ <;> rw [advance]
  · simp [(requestsWith_ne (isRequestCounter_cyclesWith result.isOk) outcome).symm]
  · simp [isRequestCounter_cyclesWith]
  · simp [cyclesWith_inj, List.countP_singleton]
  · simp [cyclesWith_ne_publishedCounter]

namespace Balanced

variable {monitor later : Monitor σ} {answers : List (Except Failure QuoteResponse)}
  {refreshes : List (Except Failure Nat)}

theorem dawn (surroundings : σ) : Balanced (dawn surroundings) where
  requests _ := rfl
  total := rfl
  cycles _ := rfl
  published := rfl

theorem level (balanced : Balanced ⟨monitor, answers, refreshes⟩) (level : monitor.Level later) :
    Balanced ⟨later, answers, refreshes⟩ where
  requests outcome := by
    rw [level.counters]
    exact balanced.requests outcome
  total := by
    rw [level.counters]
    exact balanced.total
  cycles succeeded := by
    rw [level.counters]
    exact balanced.cycles succeeded
  published := by
    rw [level.counters, level.published]
    exact balanced.published

theorem hear (balanced : Balanced ⟨monitor, answers, refreshes⟩) (later : Monitor σ) {event : Event}
    {more : List (Except Failure QuoteResponse)} {cycles : List (Except Failure Nat)}
    {written : Nat} (counts : Counts event more cycles written)
    (counters : later.counters = countEvent monitor.counters event)
    (published : later.published = monitor.published + written) :
    Balanced ⟨later, answers ++ more, refreshes ++ cycles⟩ where
  requests outcome := by
    rw [counters, counted_countEvent, List.countP_append, balanced.requests, counts.requests]
  total := by
    rw [counters, total_countEvent, List.length_append, balanced.total, counts.total]
  cycles succeeded := by
    rw [counters, counted_countEvent, List.countP_append, balanced.cycles, counts.cycles]
  published := by
    rw [counters, counted_countEvent, published, balanced.published, counts.published]

theorem request (balanced : Balanced ⟨monitor, answers, refreshes⟩)
    (result : Option (Except Failure QuoteResponse)) {answered : Monitor σ}
    (level : monitor.Level answered) (h : later = result.elim answered fun result =>
      (Monitor.hear (.requestFinished (outcomeLabel result)) answered).2) :
    Balanced ⟨later, answers ++ result.toList, refreshes⟩ := by
  cases result with
  | none =>
    subst h
    rw [Option.toList_none, List.append_nil]
    exact balanced.level level
  | some result =>
    have counted := (balanced.level level).hear later (counts_requestFinished result) (h ▸ rfl)
      (h ▸ rfl)
    rwa [List.append_nil] at counted

theorem refresh (balanced : Balanced ⟨monitor, answers, refreshes⟩) (respond : Responder σ)
    (plan : UpdaterPlan) :
    Balanced ⟨(Monitor.conduct respond plan.refresh monitor).2, answers, refreshes⟩ := by
  rcases Monitor.counts_refresh respond plan monitor with
    level | ⟨n, published, counters⟩
  · exact balanced.level level
  · have counted := balanced.hear _ (counts_ratesPublished n) counters published
    rwa [List.append_nil, List.append_nil] at counted

theorem step (setup : Setup) {day : Day σ} (balanced : Balanced day) (deed : Deed σ) :
    Balanced (day.step setup deed) := by
  cases deed with
  | request inquiry respond =>
    have uncounted := setup.policy.uncounted_answer inquiry.id inquiry.pairs inquiry.now
    simp only [Day.step, QuotePolicy.serve_eq, Monitor.carryOut_bind]
    exact balanced.request (some _) (Monitor.level_carryOut uncounted) rfl
  | abandon inquiry cut respond =>
    have uncounted := setup.policy.uncounted_answer inquiry.id inquiry.pairs inquiry.now
    simp only [Day.step, QuotePolicy.serve_eq]
    obtain ⟨answered, level, out⟩ := Monitor.carryUntil_tell respond uncounted
      (fun result => .requestFinished (outcomeLabel result)) cut day.monitor
    exact balanced.request _ level out
  | cycle respond =>
    simp only [Day.step, Monitor.carryOut_cycle]
    let refreshed := Monitor.conduct respond setup.plan.refresh day.monitor
    have counted := (balanced.refresh respond setup.plan).hear
      (Monitor.hear (.cycleFinished refreshed.1.isOk) refreshed.2).2
      (counts_cycleFinished refreshed.1) rfl rfl
    rwa [List.append_nil] at counted

end Balanced

namespace Balanced

variable {day : Day σ} (balanced : day.Balanced)
include balanced

/-- One counter for the requests that were served, and one for each kind of failure. -/
theorem outcomes :
    counted day.monitor.counters (requestsWith "success") = day.answers.countP (·.isOk) ∧
      ∀ kind : Kind, counted day.monitor.counters (requestsWith kind.label) =
        day.answers.countP fun result => (failureOf result).map Failure.kind = some kind := by
  refine ⟨?_, fun kind => ?_⟩
  · simp only [balanced.requests, outcomeLabel_eq_success, Bool.decide_eq_true]
  · simp only [balanced.requests, outcomeLabel_eq_label]

theorem cycleOutcomes :
    counted day.monitor.counters (labelled cycleCounter "outcome" "success") =
        day.refreshes.countP (·.isOk) ∧
      counted day.monitor.counters (labelled cycleCounter "outcome" "error") =
        day.refreshes.countP fun refresh => !refresh.isOk := by
  have succeeded := balanced.cycles true
  have failed := balanced.cycles false
  simp only [Bool.decide_eq_true, Bool.decide_eq_false] at succeeded failed
  exact ⟨succeeded, failed⟩

end Balanced

/-- A cycle, a request that is served and one too many. -/
example : ((dawn (⟨0, .empty⟩ : Progress)).after Small.setup
    [.cycle (Small.world.respond 0),
      .request (Small.inquiry Small.firstSecond) (Small.world.respond 0),
      .request (Small.inquiry Small.firstSecond) (Small.world.respond 0)]).monitor.counters.rows =
    [(publishedCounter, 1), (cyclesWith true, 1), (requestsWith "success", 1),
      (requestsWith "too_many_requests", 1)] := by
  decide +kernel

end Day

end QuoteGateway
