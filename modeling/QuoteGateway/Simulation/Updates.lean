import QuoteGateway.Quote.Loop
import QuoteGateway.Quote.Updater
import QuoteGateway.Simulation.World

/-!
# The updater in a world

Runs the loop of the updater on a clock of its own, which scripted delays of fetches and writes
move on. What happens at or after the end of a watch is neither done nor noted.
-/

namespace QuoteGateway.Simulation

structure Fetch where
  rates : Except Failure (List FeedRate)
  delay : Duration

structure Watch where
  world : World
  /-- Nanoseconds since the start of the loop. -/
  clock : Nat
  ends : Option Nat
  /-- The fetches to come. The last one is repeated. -/
  fetches : List Fetch
  writes : Nat
  slowWrites : List (Nat × Duration)
  /-- The latest note comes first. -/
  notes : List (Nat × Note)

abbrev Watched (α : Type) := StateT Watch (Except Cache.InMemory.ClockOverflow) α

def Watch.isOver (watch : Watch) : Bool := watch.ends.any (· ≤ watch.clock)

def Watch.gather (watch : Watch) (moment : Nat) : Watch :=
  { watch with
    world := { watch.world with notes := [] }
    notes := watch.world.notes.map (moment, ·) ++ watch.notes }

/-- The time that a call takes, and the watch with the call counted. -/
def Watch.delayOf (watch : Watch) : Call → Duration × Watch
  | .fetchRates _ =>
    match watch.fetches with
    | [] => (⟨0⟩, { watch with world := { watch.world with source := .scripted (.ok []) } })
    | fetch :: rest =>
      (fetch.delay, { watch with
        world := { watch.world with source := .scripted fetch.rates }
        fetches := if rest.isEmpty then [fetch] else rest })
  | .cache (.write ..) =>
    ((watch.slowWrites.lookup (watch.writes + 1)).getD ⟨0⟩,
      { watch with writes := watch.writes + 1 })
  | _ => (⟨0⟩, watch)

/-- A call that is noted when it is made and takes effect after its delay. -/
def performWatched (call : Call) : Watched (Except Failure call.Result) := do
  let (delay, watch) := (← get).delayOf call
  let (result, world) ← perform call watch.world
  let later := { watch with clock := watch.clock + delay.nanos }
  if watch.isOver then set later
  else
    let done := { later with world }.gather watch.clock
    set (if later.isOver then { done with world := watch.world } else done)
  return result

def noteWatched (event : Event) : Watched Unit := modify fun watch =>
  if watch.isOver then watch
  else { watch with notes := (watch.clock, .event event) :: watch.notes }

def cycleWatched (plan : UpdaterPlan) (start : Nat) : Watched Nat := do
  modify fun watch => { watch with clock := start }
  plan.cycle.run (m := Watched) performWatched noteWatched
  return (← get).clock

/-- The loop of the updater, for at most `steps` ticks. -/
def loopWatched (plan : UpdaterPlan) (cancelled : Option Nat) (steps : Nat) :
    Watched UpdaterLoop.End :=
  UpdaterLoop.run plan.interval.nanos cancelled (cycleWatched plan) steps 0

inductive Act where
  | sleep (duration : Duration)
  | cancel
  | join

/-- The moment of the first cancellation, from a moment on. -/
def cancelMoment? : (now : Nat) → List Act → Option Nat
  | _, [] => none
  | now, .sleep duration :: acts => cancelMoment? (now + duration.nanos) acts
  | now, .cancel :: _ => some now
  | now, .join :: acts => cancelMoment? now acts

/-- The moment after all acts, unless they wait for the loop. -/
def endMoment? : (now : Nat) → List Act → Option Nat
  | now, [] => some now
  | now, .sleep duration :: acts => endMoment? (now + duration.nanos) acts
  | now, .cancel :: acts => endMoment? now acts
  | _, .join :: _ => none

def overMoment? : UpdaterLoop.End → Option Nat
  | .notStarted => some 0
  | .stopped moment => some moment
  | .noInterval moment => some moment
  | .noTick moment => some moment
  | .running => none

inductive Sight where
  /-- Whether the loop was over. -/
  | over (moment : Nat) (isOver : Bool)
  /-- How the loop ended, once it was waited for. -/
  | joined (moment : Nat)

/-- What is seen after each act. An act at the moment at which the loop ends comes before the end
of the loop. -/
def sights (ended : Option Nat) : (now : Nat) → (joined : Bool) → List Act → List Sight
  | _, _, [] => []
  | now, joined, act :: acts =>
    match act with
    | .sleep duration =>
      let now := now + duration.nanos
      .over now (joined || ended.any (· < now)) :: sights ended now joined acts
    | .cancel => .over now (joined || ended.any (· < now)) :: sights ended now joined acts
    | .join =>
      let now := max now (ended.getD now)
      .joined now :: sights ended now true acts

end QuoteGateway.Simulation
