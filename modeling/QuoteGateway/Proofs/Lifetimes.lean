import QuoteGateway.Proofs.Cache.Contention
import QuoteGateway.Proofs.Schedule

/-!
# Lifetimes and the end of the clock

A caller that sets a deadline beyond the end of the clock does not survive. The lifetimes and the
interval of the settings may be any number of seconds of 64 bits, and the clock counts no more
than half as many, so long ones bring down the cache in memory and the updater.
-/

namespace QuoteGateway

namespace Cache.InMemory

variable {α : Type} (choices : Choices) {now : Nat}

/-- A caller comes through with an answer or a failure. -/
def Survives (act : StateT Keeper (Except ClockOverflow) α) (keeper : Keeper) : Prop :=
  ∃ out, act keeper = .ok out

def afterWrite (now : Nat) (key value : String) (lifetime : Duration) (keeper : Keeper) : Keeper :=
  (choices.use now (.insert key ⟨⟨value, now + lifetime.nanos⟩, lifetime⟩)
    (choices.use now .now keeper).2).2

/-- A write comes through exactly if the clock reaches its deadline. -/
theorem backend_write (now : Nat) (key value : String) (lifetime : Duration) (keeper : Keeper) :
    choices.backend now (.write key value lifetime) keeper =
      if now + lifetime.nanos < Clock.finish then
        .ok (.ok (), afterWrite choices now key value lifetime keeper)
      else .error ⟨⟩ := by
  rw [Choices.backend, Choices.carryOut, run_write]
  change survived (Dialogue.run (m := StateM Keeper) (choices.use now) Empty.elim
    (if now + lifetime.nanos < Clock.finish then _ else _) (choices.use now .now keeper).2) = _
  by_cases reached : now + lifetime.nanos < Clock.finish
  · rw [if_pos reached, if_pos reached]
    rfl
  · rw [if_neg reached, if_neg reached]
    rfl

def TimelyWrite (now : Nat) (call : QuoteGateway.Call) : Prop :=
  ∃ key value lifetime, call = .cache (.write key value lifetime) ∧
    now + lifetime.nanos < Clock.finish

/-- A job of timely writes comes through, whatever there is in the table. -/
theorem survives_of_asks {job : Job α} (timely : job.Asks (TimelyWrite now)) (keeper : Keeper) :
    Survives (choices.backend.carryOut now job) keeper := by
  unfold Job.Asks at timely
  unfold Survives Backend.carryOut
  generalize job.run = d at timely
  induction d generalizing keeper with
  | done a => exact ⟨_, rfl⟩
  | ask call next ih =>
    obtain ⟨⟨key, value, lifetime, rfl, reached⟩, goesOn⟩ := timely
    obtain ⟨out, came⟩ := ih (.ok ()) (afterWrite choices now key value lifetime keeper) (goesOn _)
    refine ⟨out, ?_⟩
    change Except.bind (choices.backend now (.write key value lifetime) keeper) _ = _
    rw [backend_write, if_pos reached]
    exact came
  | tell event next ih => exact ih keeper timely

/-- A job whose first call is a write comes through only if the clock reaches its deadline. -/
theorem reached_of_survives {job : Job α} {key value : String} {lifetime : Duration}
    {next : Except Failure Unit → Dialogue gatewaySignature (Except Failure α)}
    (run : job.run = .ask (.cache (.write key value lifetime)) next) {keeper : Keeper}
    (survives : Survives (choices.backend.carryOut now job) keeper) :
    now + lifetime.nanos < Clock.finish := by
  by_contra beyond
  obtain ⟨out, came⟩ := survives
  rw [Backend.carryOut, run] at came
  change Except.bind (choices.backend now (.write key value lifetime) keeper) _ = _ at came
  rw [backend_write, if_neg beyond] at came
  cases came

theorem lookup_afterWrite {lifetime : Duration} (lasts : 0 < lifetime.nanos) (key value : String)
    {keeper : Keeper} (room : keeper.shared.capacity ≠ 0)
    (fits : (afterWrite choices now key value lifetime keeper).Fits) :
    (choices.use now (.lookup key) (afterWrite choices now key value lifetime keeper)).1 =
      some ⟨⟨value, now + lifetime.nanos⟩, lifetime⟩ := by
  have held : (afterWrite choices now key value lifetime keeper).shared.slots.get? key =
      some ⟨⟨value, now + lifetime.nanos⟩, lifetime⟩ := by
    simp only [afterWrite, Choices.use, Keeper.answer, Keeper.sweep, Shared.answer, room, if_false,
      Table.get?_put_self]
  have armed : (afterWrite choices now key value lifetime keeper).due.get? key =
      some (now + lifetime.nanos) := Table.get?_put_self _ _ _
  generalize afterWrite choices now key value lifetime keeper = after at held armed fits
  have stays : after.mayDrop now key = false := by
    have ahead : ¬ now + lifetime.nanos ≤ now := Nat.not_le_of_lt (Nat.lt_add_of_pos_right lasts)
    rw [Keeper.mayDrop, armed]
    simp only [Option.all_some, decide_eq_false ahead, decide_eq_true fits, Bool.not_true,
      Bool.or_false]
  change (after.sweep now _).shared.slots.get? key = _
  simp only [Keeper.sweep, Table.get?_without, stays, Bool.and_false, Bool.false_eq_true, if_false,
    held]

theorem carryOut_liveEntry {key : String} {slot : Slot} {keeper : Keeper}
    (found : (choices.use now (.lookup key) keeper).1 = some slot)
    (live : slot.entry.isLive now = true) :
    ∃ last, choices.carryOut now (liveEntry key) keeper = (.ok (some slot.entry), last) := by
  rw [liveEntry, choices.carryOut_bind, choices.carryOut_step, found]
  dsimp only
  rw [choices.carryOut_bind, choices.carryOut_step]
  change ∃ last, choices.carryOut now (if Entry.isLive _ now then _ else _) _ = _
  rw [if_pos live]
  exact ⟨_, rfl⟩

theorem backend_read_afterWrite {lifetime : Duration} (lasts : 0 < lifetime.nanos)
    (key value : String) {keeper : Keeper} (room : keeper.shared.capacity ≠ 0)
    (fits : (afterWrite choices now key value lifetime keeper).Fits) :
    ∃ last, choices.backend now (.read key) (afterWrite choices now key value lifetime keeper) =
      .ok (.ok (some value), last) := by
  have live : Entry.isLive ⟨value, now + lifetime.nanos⟩ now = true :=
    decide_eq_true (Nat.lt_add_of_pos_right lasts)
  obtain ⟨last, entry⟩ :=
    carryOut_liveEntry choices (lookup_afterWrite choices lasts key value room fits) live
  generalize afterWrite choices now key value lifetime keeper = after at entry
  have carried : choices.carryOut now (perform (.read key)) after = (.ok (some value), last) := by
    refine (choices.carryOut_bind now _ _ after).trans ?_
    rw [entry]
    rfl
  exact ⟨last, congrArg survived carried⟩

end Cache.InMemory

open Cache.InMemory

variable {now : Nat}

theorem Gate.asks_recordUsage {limit : RateLimit}
    (reached : now + limit.stateLifetime.nanos < Clock.finish) (state : QuotaState)
    (t : Calendar.Instant) : Job.Asks (TimelyWrite now) (Gate.recordUsage limit state t) :=
  (Job.asks_call ⟨_, _, _, rfl, reached⟩).bind fun _ => Job.asks_pure _

theorem UpdaterPlan.asks_publish {plan : UpdaterPlan}
    (reached : now + plan.rateLifetime.nanos < Clock.finish) (published : Nat)
    (rates : List FeedRate) : Job.Asks (TimelyWrite now) (plan.publish published rates) := by
  induction rates generalizing published with
  | nil => exact trivial
  | cons rate rates ih =>
    refine ⟨⟨_, _, _, rfl, reached⟩, ?_⟩
    rintro (failure | done)
    · exact trivial
    · exact ih (published + 1)

namespace UpdaterLoop

/-- The loop has come to wait for its ticks. -/
inductive Waits : End → Prop where
  | running : Waits .running
  | stopped (moment : Nat) : Waits (.stopped moment)

variable {σ : Type} {interval : Nat} {cancelled : Option Nat} {cycle : Nat → StateM σ Nat}

theorem waits_ticks (steps due now : Nat) (s : σ) :
    Waits (ticks interval cancelled cycle steps due now s).1 := by
  induction steps generalizing due now s with
  | zero => exact .running
  | succ steps ih =>
    cases isCancelled : isCancelledBy cancelled (max due now) with
    | true =>
      rw [ticks_of_cancelled _ _ isCancelled]
      exact .stopped _
    | false =>
      rw [ticks_of_uncancelled _ _ isCancelled]
      exact ih _ _ _

/-- After its first cycle, the loop comes to wait exactly if the clock reaches the first tick. -/
theorem waits_run_iff (positive : interval ≠ 0) {steps start : Nat} {s : σ}
    (uncancelled : isCancelledBy cancelled start = false) :
    Waits (run interval cancelled cycle steps start s).1 ↔
      (cycle start s).1 + interval < Clock.finish := by
  rw [run_of_uncancelled _ _ positive uncancelled, Clock.after?]
  by_cases reached : (cycle start s).1 + interval < Clock.finish
  · rw [if_pos reached]
    exact iff_of_true (waits_ticks _ _ _ _) reached
  · rw [if_neg reached]
    refine iff_of_false (fun waits => ?_) reached
    cases waits

theorem interval_ne_zero (settings : UpdaterSettings) : settings.plan.interval.nanos ≠ 0 :=
  Nat.ne_of_gt (Nat.lt_of_lt_of_le (by decide) (second_le_interval settings))

end UpdaterLoop

def Collaborators.unavailable : Collaborators Unit where
  answer _ _ world := (.error (.reported .internal "unavailable"), world)
  delay _ _ _ := 0

def unusedKey : QuotaState := ⟨"key", .limited, []⟩

def parity : FeedRate := ⟨"USD", "EUR", .ofNat 1, 0⟩

namespace Settings

open UpdaterLoop (isCancelledBy Waits)

variable (settings : Settings)

/-- The lifetimes with which entries are written. -/
def lifetimes : List Duration :=
  [settings.rateLimit.limit.stateLifetime, settings.updater.plan.rateLifetime]

def spans : List Duration := settings.lifetimes ++ [settings.updater.plan.interval]

/-- The gateway with its cache in memory comes through whatever it does at a moment. -/
structure Withstands (now : Nat) : Prop where
  recording (choices : Choices) (keeper : Keeper) (state : QuotaState) (t : Calendar.Instant) :
    Survives (choices.backend.carryOut now (Gate.recordUsage settings.policy.limit state t)) keeper
  publishing (choices : Choices) (keeper : Keeper) (published : Nat) (rates : List FeedRate) :
    Survives (choices.backend.carryOut now (settings.updater.plan.publish published rates)) keeper
  /-- What is written for a second or more is read back at once, if the table has room for it. -/
  readable (lifetime : Duration) :
    lifetime ∈ settings.lifetimes → (Duration.ofSeconds 1).nanos ≤ lifetime.nanos →
    ∀ (choices : Choices) (keeper : Keeper) (key value : String), keeper.shared.capacity ≠ 0 →
      ∃ later, choices.backend now (.write key value lifetime) keeper = .ok (.ok (), later) ∧
        (later.Fits → ∃ last, choices.backend now (.read key) later = .ok (.ok (some value), last))
  /-- A first cycle that ends at this moment is not the end of the loop. -/
  waits {σ : Type} (collaborators : Collaborators σ) (cancelled : Option Nat) (steps start : Nat)
    (world : σ) :
    isCancelledBy cancelled start = false →
    (collaborators.cycle settings.updater.plan start world).1 = now →
      Waits (collaborators.watch settings.updater.plan cancelled steps start world).1

variable {settings}

theorem withstands_of_reached (reached : ∀ span ∈ settings.spans, now + span.nanos < Clock.finish) :
    settings.Withstands now := by
  obtain ⟨lifetimes, interval⟩ := List.forall_mem_append.mp reached
  obtain ⟨stateLifetime, rateLifetime⟩ := List.forall_mem_cons.mp lifetimes
  constructor
  · exact fun choices keeper state t =>
      survives_of_asks choices (Gate.asks_recordUsage stateLifetime state t) keeper
  · exact fun choices keeper published rates =>
      survives_of_asks choices
        (UpdaterPlan.asks_publish (rateLifetime _ (List.mem_singleton_self _)) published rates)
        keeper
  · intro lifetime among long choices keeper key value room
    refine ⟨afterWrite choices now key value lifetime keeper, ?_, fun fits => ?_⟩
    · rw [backend_write, if_pos (lifetimes lifetime among)]
    · have lasts : 0 < lifetime.nanos := Nat.lt_of_lt_of_le (by decide) long
      exact backend_read_afterWrite choices lasts key value room fits
  · rintro σ collaborators cancelled steps start world uncancelled rfl
    have positive := UpdaterLoop.interval_ne_zero settings.updater
    exact (UpdaterLoop.waits_run_iff positive uncancelled).mpr
      (interval _ (List.mem_singleton_self _))

/-- The gateway comes through whatever it does at a moment exactly if the clock reaches each of its
lifetimes and its interval from there. -/
theorem withstands_iff (settings : Settings) (now : Nat) :
    settings.Withstands now ↔ ∀ span ∈ settings.spans, now + span.nanos < Clock.finish := by
  refine ⟨fun withstands => ?_, withstands_of_reached⟩
  have recording := withstands.recording (fun _ _ => false) (.empty 1) unusedKey Small.firstSecond
  have publishing := withstands.publishing (fun _ _ => false) (.empty 1) 0 [parity]
  have waits := withstands.waits .unavailable none 0 now () rfl rfl
  simp only [spans, lifetimes, List.cons_append, List.nil_append, List.forall_mem_cons]
  exact ⟨reached_of_survives _ rfl recording, reached_of_survives _ rfl publishing,
    (UpdaterLoop.waits_run_iff (UpdaterLoop.interval_ne_zero settings.updater) rfl).mp waits,
    List.forall_mem_nil _⟩

/-- The longest lifetimes and the longest interval that settings can have. -/
def longest : Settings :=
  { standard with
    rateLimit := { standard.rateLimit with stateLifetimeSeconds := 18446744073709551615 }
    updater := ⟨18446744073709551615, 18446744073709551615, ["USD"]⟩ }

/-- With the longest ones, not even the first moment of the clock is early enough for recording a
request, publishing a rate or waiting for the first tick. -/
theorem not_withstands_longest :
    (Choices.backend fun _ _ => false).carryOut 0
        (Gate.recordUsage longest.policy.limit unusedKey Small.firstSecond) (.empty 1) =
          .error ⟨⟩ ∧
      (Choices.backend fun _ _ => false).carryOut 0 (longest.updater.plan.publish 0 [parity])
        (.empty 1) = .error ⟨⟩ ∧
      (Collaborators.unavailable.watch longest.updater.plan none 0 0 ()).1 = .noTick 0 ∧
      ¬ longest.Withstands 0 := by
  have recording : (Choices.backend fun _ _ => false).carryOut 0
      (Gate.recordUsage longest.policy.limit unusedKey Small.firstSecond) (.empty 1) =
        .error ⟨⟩ := rfl
  refine ⟨recording, rfl, rfl, fun withstands => ?_⟩
  obtain ⟨out, came⟩ :=
    withstands.recording (fun _ _ => false) (.empty 1) unusedKey Small.firstSecond
  rw [recording] at came
  cases came

end Settings

end QuoteGateway
