import Mathlib.Data.List.Chain
import Mathlib.Order.Bounds.Defs
import Mathlib.Order.Lattice
import QuoteGateway.Proofs.Course
import QuoteGateway.Quote.Loop
import QuoteGateway.Settings.Sections

/-!
# The schedule of the updater

When the cycles of the loop start, for collaborators that answer what they like and take as long as
they like. After the first cycle there is a grid of ticks, one interval apart. Each further cycle
starts at the first tick after the start of the one before it, or right after that one if it
runs past this tick.
-/

namespace QuoteGateway

namespace UpdaterPlan

variable (plan : UpdaterPlan)

def publication (rate : FeedRate) : Call :=
  .cache (.write (CacheKey.ofRate rate.base rate.target) rate.cached.document.compact
    plan.rateLifetime)

/-- The rates of a list are written in its order: all of them, or up to the first that fails. -/
inductive Writes : List FeedRate → List (Exchange gatewaySignature) → Prop where
  | all : Writes [] []
  | fails (rate : FeedRate) (rates : List FeedRate) (failure : Failure) :
    Writes (rate :: rates) [⟨plan.publication rate, .error failure⟩]
  | next (rate : FeedRate) {rates : List FeedRate} {exchanges : List (Exchange gatewaySignature)} :
    Writes rates exchanges → Writes (rate :: rates) (⟨plan.publication rate, .ok ()⟩ :: exchanges)

/-- The exchanges of a cycle from beginning to end: the rates are fetched and then written, unless
there are none to be had. -/
inductive Complete : List (Exchange gatewaySignature) → Prop where
  | unfetched (failure : Failure) : Complete [⟨.fetchRates plan.bases, .error failure⟩]
  | written (rates : List FeedRate) {writes : List (Exchange gatewaySignature)} :
    plan.Writes rates writes → Complete (⟨.fetchRates plan.bases, .ok rates⟩ :: writes)

variable {plan} {exchanges : List (Exchange gatewaySignature)}

theorem writes_of_course_publish {count : Nat} {rates : List FeedRate}
    {result : Except Failure Nat} (h : Job.Course (plan.publish count rates) exchanges result) :
    plan.Writes rates exchanges := by
  induction rates generalizing count exchanges with
  | nil =>
    obtain ⟨rfl, -⟩ := Job.course_pure.mp (Job.course_report.mp h)
    exact .all
  | cons rate rates ih =>
    obtain ⟨first, outcome, rest, rfl, write, goesOn⟩ := Job.course_lift_run_bind.mp h
    obtain rfl := Job.course_writeEntry.mp write
    cases outcome with
    | ok done => exact .next rate (ih goesOn)
    | error failure =>
      obtain ⟨rfl, -⟩ := Job.course_throw.mp (Job.course_report.mp goesOn)
      exact .fails rate rates failure

theorem complete_of_course_refresh {result : Except Failure Nat}
    (h : Job.Course plan.refresh exchanges result) : plan.Complete exchanges := by
  rcases Job.course_bind.mp h with ⟨failure, fetch, -⟩ | ⟨first, rates, rest, rfl, fetch, goesOn⟩
  · obtain rfl := Job.course_call.mp fetch
    exact .unfetched failure
  · obtain rfl := Job.course_call.mp fetch
    exact .written rates (writes_of_course_publish goesOn)

/-- A cycle is carried out to its end, whatever its collaborators answer. -/
theorem complete_of_course_cycle (h : plan.cycle.Course exchanges ()) :
    plan.Complete exchanges := by
  change (plan.refresh.run.bind _).Course exchanges () at h
  obtain ⟨first, outcome, rest, rfl, refresh, tells⟩ := Dialogue.course_bind.mp h
  have silent : rest = [] := by
    cases outcome with
    | ok count => exact tells.1
    | error failure => exact tells.1
  rw [silent, List.append_nil]
  exact complete_of_course_refresh refresh

end UpdaterPlan

namespace UpdaterLoop

/-- The moments of a clock that ticks at some moment and every interval from then on. -/
def grid (first interval : Nat) : Set Nat := {t | ∃ k, t = first + k * interval}

def IsTick (first interval start tick : Nat) : Prop :=
  IsLeast {t | t ∈ grid first interval ∧ start < t} tick

variable {first interval : Nat}

theorem add_le_of_mem_grid {due t q : Nat} (here : due ∈ grid first interval)
    (there : t ∈ grid first interval) (beyond : due + q * interval < t) :
    due + (q + 1) * interval ≤ t := by
  obtain ⟨j, rfl⟩ := here
  obtain ⟨k, rfl⟩ := there
  have further : (j + q) * interval < k * interval := by
    rw [Nat.add_mul]
    omega
  have steps : j + q + 1 ≤ k := Nat.lt_of_mul_lt_mul_right further
  have reached := Nat.mul_le_mul_right interval steps
  rw [Nat.add_mul, Nat.add_mul] at reached
  rw [Nat.add_mul]
  omega

/-- With the first tick one interval after the end of a cycle, it is the first one after its
start. -/
theorem isTick_first {start finish : Nat} (positive : 0 < interval) (le : start ≤ finish) :
    IsTick (finish + interval) interval start (finish + interval) := by
  refine ⟨⟨⟨0, by simp⟩, by omega⟩, ?_⟩
  rintro t ⟨⟨k, rfl⟩, -⟩
  exact Nat.le_add_right _ _

/-- The next tick after one that is taken late is the first that lies ahead. -/
theorem isTick_nextDue (long : tolerance < interval) {due taken : Nat}
    (onGrid : due ∈ grid first interval) (le : due ≤ taken) :
    IsTick first interval taken (nextDue interval due taken) := by
  -- So many intervals have gone by since the tick, and so much of the one that is running.
  obtain ⟨q, ahead, behind⟩ : ∃ q, nextDue interval due taken = due + (q + 1) * interval ∧
      due + q * interval ≤ taken ∧ taken < due + (q + 1) * interval := by
    unfold nextDue
    split
    · exact ⟨0, by omega, by omega, by omega⟩
    · refine ⟨(taken - due) / interval, ?_⟩
      have parts := Nat.div_add_mod (taken - due) interval
      have rest := Nat.mod_lt (taken - due) (Nat.zero_lt_of_lt long)
      rw [Nat.mul_comm] at parts
      rw [Nat.add_mul, Nat.one_mul]
      omega
  rw [ahead]
  constructor
  · obtain ⟨j, rfl⟩ := onGrid
    exact ⟨⟨j + (q + 1), by rw [Nat.add_mul j, Nat.add_assoc]⟩, behind.2⟩
  · rintro t ⟨there, after⟩
    exact add_le_of_mem_grid onGrid there (Nat.lt_of_le_of_lt behind.1 after)

end UpdaterLoop

/-- The collaborators of the updater, with any state of their own. Each call takes a while, in
nanoseconds, and its answer is theirs to choose. -/
structure Collaborators (σ : Type) where
  answer : (call : gatewaySignature.Call) → (moment : Nat) → σ → gatewaySignature.Answer call × σ
  delay : (call : gatewaySignature.Call) → (moment : Nat) → σ → Nat

structure Cycle where
  start : Nat
  finish : Nat
  exchanges : List (Exchange gatewaySignature)

namespace Collaborators

variable {σ α : Type} (collaborators : Collaborators σ) (plan : UpdaterPlan)

/-- A call made at a moment is answered at a later one. -/
def respond (call : gatewaySignature.Call) : StateM (Nat × σ) (gatewaySignature.Answer call) :=
  fun (moment, world) =>
    let (answer, later) := collaborators.answer call moment world
    (answer, (moment + collaborators.delay call moment world, later))

def carryOut (d : Dialogue gatewaySignature α) : StateM (Nat × σ) α :=
  d.run collaborators.respond fun _ => pure ()

theorem moment_le_carryOut (d : Dialogue gatewaySignature α) (s : Nat × σ) :
    s.1 ≤ (collaborators.carryOut d s).2.1 := by
  induction d generalizing s with
  | done a => exact le_rfl
  | ask call next ih =>
    exact (Nat.le_add_right _ _).trans (ih _ (collaborators.respond call s).2)
  | tell event next ih => exact ih s

/-- A cycle that starts at a moment, and when it ends. -/
def cycle (start : Nat) : StateM σ Nat :=
  fun world => (collaborators.carryOut plan.cycle (start, world)).2

def cycleAt (start : Nat) (world : σ) : Cycle :=
  ⟨start, (collaborators.cycle plan start world).1,
    plan.cycle.journal collaborators.respond (fun _ => pure ()) (start, world)⟩

def noted (start : Nat) : StateM (σ × List Cycle) Nat :=
  fun (world, cycles) =>
    let (finish, later) := collaborators.cycle plan start world
    (finish, (later, cycles ++ [collaborators.cycleAt plan start world]))

theorem start_le_finish (start : Nat) (world : σ) :
    start ≤ (collaborators.cycleAt plan start world).finish :=
  collaborators.moment_le_carryOut plan.cycle (start, world)

theorem complete_cycleAt (start : Nat) (world : σ) :
    plan.Complete (collaborators.cycleAt plan start world).exchanges :=
  UpdaterPlan.complete_of_course_cycle (Dialogue.course_journal _ _ _ _)

/-- The loop from a moment on, for at most `steps` ticks, with its cycles noted: how it ends, the
collaborators after it, and the cycles in order. -/
def watch (cancelled : Option Nat) (steps start : Nat) (world : σ) :
    UpdaterLoop.End × σ × List Cycle :=
  UpdaterLoop.run plan.interval.nanos cancelled (collaborators.noted plan) steps start (world, [])

end Collaborators

namespace UpdaterLoop

variable (first interval : Nat) (cancelled : Option Nat)

/-- A cycle starts at the first tick after the start of the one before, or once that one is over
if this is later. -/
def Succeeds (a b : Cycle) : Prop :=
  ∃ tick, IsTick first interval a.start tick ∧ b.start = max tick a.finish

/-- A cycle that starts before the cancellation and is carried out to its end. -/
structure CarriedOut (plan : UpdaterPlan) (cycle : Cycle) : Prop where
  uncancelled : ∀ t, cancelled = some t → cycle.start < t
  le : cycle.start ≤ cycle.finish
  complete : plan.Complete cycle.exchanges

/-- What the loop does after a cycle, with so many ticks left to be watched. -/
inductive Follows (plan : UpdaterPlan) : (steps : Nat) → Cycle → List Cycle → End → Prop where
  | unwatched (last : Cycle) : Follows plan 0 last [] .running
  | stopped (steps : Nat) {last : Cycle} {tick t : Nat} :
    IsTick first interval last.start tick → cancelled = some t → t ≤ max tick last.finish →
    Follows plan (steps + 1) last [] (.stopped (max last.finish t))
  | next {steps : Nat} {last cycle : Cycle} {later : List Cycle} {e : End} :
    Succeeds first interval last cycle → CarriedOut cancelled plan cycle →
    Follows plan steps cycle later e → Follows plan (steps + 1) last (cycle :: later) e

variable {first interval cancelled} {plan : UpdaterPlan} {steps : Nat} {last : Cycle}
  {later : List Cycle} {e : End}

theorem isCancelledBy_eq_false_iff {moment : Nat} :
    isCancelledBy cancelled moment = false ↔ ∀ t, cancelled = some t → moment < t := by
  cases cancelled <;> simp [isCancelledBy]

theorem carriedOut_cycleAt {σ : Type} (collaborators : Collaborators σ) {start : Nat}
    (uncancelled : isCancelledBy cancelled start = false) (world : σ) :
    CarriedOut cancelled plan (collaborators.cycleAt plan start world) where
  uncancelled := isCancelledBy_eq_false_iff.mp uncancelled
  le := collaborators.start_le_finish plan start world
  complete := collaborators.complete_cycleAt plan start world

section Steps

variable {σ : Type} (cycle : Nat → StateM σ Nat) {due now start : Nat} (s : σ)

theorem ticks_of_cancelled (isCancelled : isCancelledBy cancelled (max due now) = true) :
    ticks interval cancelled cycle (steps + 1) due now s =
      (.stopped (max now (cancelled.getD now)), s) := by
  rw [ticks]
  simp only [isCancelled, if_true]
  rfl

theorem ticks_of_uncancelled (uncancelled : isCancelledBy cancelled (max due now) = false) :
    ticks interval cancelled cycle (steps + 1) due now s =
      ticks interval cancelled cycle steps (nextDue interval due (max due now))
        (cycle (max due now) s).1 (cycle (max due now) s).2 := by
  rw [ticks]
  simp only [uncancelled, Bool.false_eq_true, if_false]
  rfl

theorem run_of_cancelled (isCancelled : isCancelledBy cancelled start = true) :
    run interval cancelled cycle steps start s = (.notStarted, s) := by
  rw [run]
  simp only [isCancelled, if_true]
  rfl

theorem run_of_uncancelled (positive : interval ≠ 0)
    (uncancelled : isCancelledBy cancelled start = false) :
    run interval cancelled cycle steps start s =
      match Clock.after? (cycle start s).1 ⟨interval⟩ with
      | none => (.noTick (cycle start s).1, (cycle start s).2)
      | some due =>
        ticks interval cancelled cycle steps due (cycle start s).1 (cycle start s).2 := by
  rw [run]
  simp only [uncancelled, Bool.false_eq_true, if_false, positive]
  change (match Clock.after? (cycle start s).1 ⟨interval⟩ with
    | none => pure _
    | some due => _ : StateM σ End) (cycle start s).2 = _
  cases Clock.after? (cycle start s).1 ⟨interval⟩ <;> rfl

end Steps

theorem ticks_noted {σ : Type} (collaborators : Collaborators σ) (steps due now : Nat) (world : σ)
    (seen : List Cycle) :
    let out := ticks interval cancelled (collaborators.noted plan) steps due now (world, seen)
    (out.1, out.2.1) = ticks interval cancelled (collaborators.cycle plan) steps due now world := by
  induction steps generalizing due now world seen with
  | zero => rfl
  | succ steps ih =>
    cases isCancelled : isCancelledBy cancelled (max due now) with
    | true => rw [ticks_of_cancelled _ _ isCancelled, ticks_of_cancelled _ _ isCancelled]
    | false =>
      rw [ticks_of_uncancelled _ _ isCancelled, ticks_of_uncancelled _ _ isCancelled]
      exact ih _ _ _ _

theorem watch_unnoted {σ : Type} (collaborators : Collaborators σ)
    (positive : plan.interval.nanos ≠ 0) (steps start : Nat) (world : σ) :
    let out := collaborators.watch plan cancelled steps start world
    (out.1, out.2.1) =
      run plan.interval.nanos cancelled (collaborators.cycle plan) steps start world := by
  unfold Collaborators.watch
  cases isCancelled : isCancelledBy cancelled start with
  | true => rw [run_of_cancelled _ _ isCancelled, run_of_cancelled _ _ isCancelled]
  | false =>
    rw [run_of_uncancelled _ _ positive isCancelled, run_of_uncancelled _ _ positive isCancelled]
    have finish : (collaborators.noted plan start (world, [])).1 =
        (collaborators.cycle plan start world).1 := rfl
    rw [finish]
    cases Clock.after? (collaborators.cycle plan start world).1 ⟨plan.interval.nanos⟩ with
    | none => rfl
    | some due => exact ticks_noted collaborators steps due _ _ _

theorem follows_ticks {σ : Type} (collaborators : Collaborators σ) (long : tolerance < interval)
    {due : Nat} (tick : IsTick first interval last.start due) (steps : Nat) (world : σ)
    (seen : List Cycle) :
    let out := ticks interval cancelled (collaborators.noted plan) steps due last.finish
      (world, seen)
    ∃ later, out.2.2 = seen ++ later ∧ Follows first interval cancelled plan steps last later
      out.1 := by
  induction steps generalizing due last world seen with
  | zero => exact ⟨[], (List.append_nil seen).symm, .unwatched last⟩
  | succ steps ih =>
    cases isCancelled : isCancelledBy cancelled (max due last.finish) with
    | true =>
      obtain ⟨t, rfl⟩ : ∃ t, cancelled = some t := by
        cases cancelled with
        | none => cases isCancelled
        | some t => exact ⟨t, rfl⟩
      rw [ticks_of_cancelled _ _ isCancelled]
      exact ⟨[], (List.append_nil seen).symm,
        .stopped steps tick rfl (of_decide_eq_true isCancelled)⟩
    | false =>
      let cycle := collaborators.cycleAt plan (max due last.finish) world
      -- However late the tick is taken, the next one is the first after the start of this cycle.
      have next : IsTick first interval cycle.start (nextDue interval due cycle.start) :=
        isTick_nextDue long tick.1.1 (Nat.le_max_left due last.finish)
      obtain ⟨later, cycles, follows⟩ := ih next
        (collaborators.cycle plan (max due last.finish) world).2 (seen ++ [cycle])
      rw [ticks_of_uncancelled _ _ isCancelled]
      exact ⟨cycle :: later, cycles.trans (List.append_cons seen _ later).symm,
        .next ⟨due, tick, rfl⟩ (carriedOut_cycleAt collaborators isCancelled world) follows⟩

theorem Follows.chain (h : Follows first interval cancelled plan steps last later e) :
    (last :: later).IsChain (Succeeds first interval) := by
  induction h with
  | unwatched last => exact .singleton last
  | stopped steps tick set reached => exact .singleton _
  | next succeeds _ _ ih => exact .cons_cons succeeds ih

theorem Follows.carriedOut (h : Follows first interval cancelled plan steps last later e) :
    ∀ cycle ∈ later, CarriedOut cancelled plan cycle := by
  induction h with
  | unwatched last => exact List.forall_mem_nil _
  | stopped steps tick set reached => exact List.forall_mem_nil _
  | next _ carriedOut _ ih => exact List.forall_mem_cons.mpr ⟨carriedOut, ih⟩

theorem finish_le_start {cycles : List Cycle}
    (chain : cycles.IsChain (Succeeds first interval))
    (carriedOut : ∀ cycle ∈ cycles, CarriedOut cancelled plan cycle) :
    cycles.Pairwise fun a b => a.finish ≤ b.start := by
  induction cycles with
  | nil => exact .nil
  | cons a cycles ih =>
    obtain ⟨-, others⟩ := List.forall_mem_cons.mp carriedOut
    have apart := ih chain.tail others
    refine .cons ?_ apart
    intro c member
    cases cycles with
    | nil => cases member
    | cons b cycles =>
      obtain ⟨tick, -, start⟩ := List.isChain_cons_cons.mp chain |>.1
      have first : a.finish ≤ b.start := start ▸ Nat.le_max_right _ _
      rcases List.mem_cons.mp member with rfl | later
      · exact first
      · -- The next cycle lies between this one and all that come after it.
        have le := (others b List.mem_cons_self).le
        exact (first.trans le).trans (List.rel_of_pairwise_cons apart later)

/-- Whenever a cycle starts, there has been a tick since the start of the one before. -/
theorem Succeeds.tick_between {a b : Cycle} (h : Succeeds first interval a b) :
    ∃ tick ∈ grid first interval, a.start < tick ∧ tick ≤ b.start := by
  obtain ⟨tick, least, start⟩ := h
  exact ⟨tick, least.1.1, least.1.2, start ▸ Nat.le_max_left _ _⟩

/-- A cycle starts on the grid, unless the one before has run past a tick: then at its end. -/
theorem Succeeds.on_grid_or_overrun {a b : Cycle} (h : Succeeds first interval a b) :
    b.start ∈ grid first interval ∨
      b.start = a.finish ∧ ∃ tick ∈ grid first interval, a.start < tick ∧ tick < a.finish := by
  obtain ⟨tick, least, start⟩ := h
  rcases Nat.lt_or_ge tick a.finish with overrun | inTime
  · exact .inr ⟨start.trans (Nat.max_eq_right overrun.le), tick, least.1.1, least.1.2, overrun⟩
  · rw [Nat.max_eq_left inTime] at start
    exact .inl (start ▸ least.1.1)

/-- Why there are no cycles after these: the loop is no longer watched, or it is cancelled by the
moment at which the next one could start. -/
inductive Ended (first interval : Nat) (cancelled : Option Nat) (steps : Nat) (last : Cycle)
    (later : List Cycle) : End → Prop where
  | unwatched : later.length = steps → Ended first interval cancelled steps last later .running
  | stopped {tick t : Nat} : cancelled = some t →
    IsTick first interval (later.getLastD last).start tick →
    t ≤ max tick (later.getLastD last).finish →
    Ended first interval cancelled steps last later (.stopped (max (later.getLastD last).finish t))

theorem Follows.ended (h : Follows first interval cancelled plan steps last later e) :
    Ended first interval cancelled steps last later e := by
  induction h with
  | unwatched last => exact .unwatched rfl
  | stopped steps tick set reached => exact .stopped set tick reached
  | next succeeds carriedOut follows ih =>
    cases ih with
    | unwatched all => exact .unwatched (congrArg (· + 1) all)
    | stopped set tick reached =>
      rw [← List.getLastD_cons] at tick reached ⊢
      exact .stopped set tick reached

def firstDue (plan : UpdaterPlan) (first : Cycle) : Nat := first.finish + plan.interval.nanos

/-- The cycles of a loop that is not cancelled from the start. -/
structure OnSchedule (plan : UpdaterPlan) (cancelled : Option Nat) (steps start : Nat)
    (first : Cycle) (later : List Cycle) (e : End) : Prop where
  atOnce : first.start = start
  /-- One interval after the end of the first cycle, the first tick is due. -/
  firstTick : IsTick (firstDue plan first) plan.interval.nanos first.start (firstDue plan first)
  /-- Every other cycle starts at the first tick after the start of the one before, or at the end
  of that one if this is later. -/
  chain : (first :: later).IsChain (Succeeds (firstDue plan first) plan.interval.nanos)
  apart : (first :: later).Pairwise fun a b => a.finish ≤ b.start
  /-- However many ticks a cycle runs past, only one cycle makes up for them. -/
  paced : (first :: later).IsChain fun a b =>
    ∃ tick ∈ grid (firstDue plan first) plan.interval.nanos, a.start < tick ∧ tick ≤ b.start
  caughtUp : (first :: later).IsChain fun a b =>
    b.start ∈ grid (firstDue plan first) plan.interval.nanos ∨ b.start = a.finish ∧
      ∃ tick ∈ grid (firstDue plan first) plan.interval.nanos, a.start < tick ∧ tick < a.finish
  /-- Every cycle starts before the cancellation and is carried out to its end. -/
  carriedOut : ∀ cycle ∈ first :: later, CarriedOut cancelled plan cycle
  /-- Nothing else ends the loop, unless its first tick would lie beyond the end of the clock. -/
  ended : Ended (firstDue plan first) plan.interval.nanos cancelled steps first later e ∨
    (later = [] ∧ e = .noTick first.finish ∧ Clock.finish ≤ firstDue plan first)

theorem onSchedule_of_chain {start : Nat} {first : Cycle} (atOnce : first.start = start)
    (positive : 0 < plan.interval.nanos)
    (chain : (first :: later).IsChain (Succeeds (firstDue plan first) plan.interval.nanos))
    (carriedOut : ∀ cycle ∈ first :: later, CarriedOut cancelled plan cycle)
    (ended : Ended (firstDue plan first) plan.interval.nanos cancelled steps first later e ∨
      (later = [] ∧ e = .noTick first.finish ∧ Clock.finish ≤ firstDue plan first)) :
    OnSchedule plan cancelled steps start first later e where
  atOnce := atOnce
  firstTick := isTick_first positive (carriedOut first List.mem_cons_self).le
  chain := chain
  apart := finish_le_start chain carriedOut
  paced := chain.imp fun _ _ => Succeeds.tick_between
  caughtUp := chain.imp fun _ _ => Succeeds.on_grid_or_overrun
  carriedOut := carriedOut
  ended := ended

theorem onSchedule_watch {σ : Type} (collaborators : Collaborators σ)
    (long : tolerance < plan.interval.nanos) {start : Nat}
    (uncancelled : isCancelledBy cancelled start = false) (steps : Nat) (world : σ) :
    ∃ first later, (collaborators.watch plan cancelled steps start world).2.2 = first :: later ∧
      OnSchedule plan cancelled steps start first later
        (collaborators.watch plan cancelled steps start world).1 := by
  have positive : 0 < plan.interval.nanos := Nat.zero_lt_of_lt long
  let first := collaborators.cycleAt plan start world
  have carriedOut : CarriedOut cancelled plan first :=
    carriedOut_cycleAt collaborators uncancelled world
  have watched : collaborators.watch plan cancelled steps start world =
      match Clock.after? first.finish plan.interval with
      | none => (.noTick first.finish, ((collaborators.cycle plan start world).2, [first]))
      | some due => ticks plan.interval.nanos cancelled (collaborators.noted plan) steps due
        first.finish ((collaborators.cycle plan start world).2, [first]) :=
    run_of_uncancelled _ _ positive.ne' uncancelled
  rw [watched, Clock.after?]
  by_cases reached : first.finish + plan.interval.nanos < Clock.finish
  · rw [if_pos reached]
    obtain ⟨later, cycles, follows⟩ := follows_ticks collaborators long
      (isTick_first positive carriedOut.le) steps (collaborators.cycle plan start world).2 [first]
    exact ⟨first, later, cycles, onSchedule_of_chain rfl positive follows.chain
      (List.forall_mem_cons.mpr ⟨carriedOut, follows.carriedOut⟩) (.inl follows.ended)⟩
  · rw [if_neg reached]
    exact ⟨first, [], rfl, onSchedule_of_chain rfl positive (.singleton first)
      (List.forall_mem_singleton.mpr carriedOut)
      (.inr ⟨rfl, rfl, Nat.le_of_not_lt reached⟩)⟩

/-- No cycle runs if the loop is cancelled from the start. Otherwise its cycles keep the schedule,
whatever their collaborators answer and however long they take. -/
theorem keeps_schedule {σ : Type} (collaborators : Collaborators σ) (plan : UpdaterPlan)
    (long : (Duration.ofSeconds 1).nanos ≤ plan.interval.nanos) (cancelled : Option Nat)
    (steps start : Nat) (world : σ) :
    (isCancelledBy cancelled start = true →
      collaborators.watch plan cancelled steps start world = (.notStarted, world, [])) ∧
    (isCancelledBy cancelled start = false →
      ∃ first later, (collaborators.watch plan cancelled steps start world).2.2 = first :: later ∧
        OnSchedule plan cancelled steps start first later
          (collaborators.watch plan cancelled steps start world).1) := by
  have tolerated : tolerance < plan.interval.nanos := Nat.lt_of_lt_of_le (by decide) long
  exact ⟨run_of_cancelled _ _,
    fun uncancelled => onSchedule_watch collaborators tolerated uncancelled steps world⟩

theorem second_le_interval (settings : UpdaterSettings) :
    (Duration.ofSeconds 1).nanos ≤ settings.plan.interval.nanos :=
  Nat.mul_le_mul_right _ (Nat.le_max_left _ _)

/-- A source that answers after 10 seconds, but fails after 45 seconds the second time. -/
def slowSource : Collaborators Nat where
  answer
    | .fetchRates _, _, fetches =>
      (if fetches = 1 then .error (.reported .internal "timeout") else .ok [], fetches + 1)
    | _, _, fetches => (.error (.reported .internal ""), fetches)
  delay _ _ fetches := (Duration.ofSeconds (if fetches = 1 then 45 else 10)).nanos

/-- Every 20 seconds, until the loop is cancelled at the very moment of a tick. -/
theorem slowSource_keeps_schedule :
    let plan : UpdaterPlan := ⟨.ofSeconds 20, .ofSeconds 600, []⟩
    let out := slowSource.watch plan (some (Duration.ofSeconds 110).nanos) 9 0 0
    (Duration.ofSeconds 1).nanos ≤ plan.interval.nanos ∧
      out.2.2.map (fun cycle => (cycle.start / 1000000000, cycle.finish / 1000000000)) =
        [(0, 10), (30, 75), (75, 85), (90, 100)] ∧
      ∃ first later, out.2.2 = first :: later ∧
        OnSchedule plan (some (Duration.ofSeconds 110).nanos) 9 0 first later out.1 := by
  have long : (Duration.ofSeconds 1).nanos ≤ (Duration.ofSeconds 20).nanos := by decide
  exact ⟨long, by decide +kernel, (keeps_schedule slowSource _ long _ 9 0 0).2 (by decide)⟩

end UpdaterLoop

end QuoteGateway
