import QuoteGateway.Clock

/-!
# The loop of the updater

The first cycle runs at once. Ticks then fall on a grid that starts one interval after its end, and
each starts a cycle. A tick that comes due during a long cycle starts the next one right after it,
and the ticks missed in between are lost. The loop ends once it is cancelled: a running cycle is
completed, and no cycle starts at or after that moment.
-/

namespace QuoteGateway.UpdaterLoop

/-- A tick taken later than this after it was due counts as missed. -/
def tolerance : Nat := (Duration.ofMillis 5).nanos

/-- When the next tick is due, after the tick due at `due` was taken at `taken`. -/
def nextDue (interval due taken : Nat) : Nat :=
  if taken ≤ due + tolerance then due + interval
  else taken + interval - (taken - due) % interval

inductive End where
  | notStarted
  | stopped (moment : Nat)
  | noInterval (moment : Nat)
  /-- The first tick would lie beyond the end of the clock. -/
  | noTick (moment : Nat)
  /-- The loop was still running when it was no longer watched. -/
  | running
deriving DecidableEq

def isCancelledBy (cancelled : Option Nat) (moment : Nat) : Bool :=
  cancelled.any (· ≤ moment)

variable {m : Type → Type} [Monad m]

/-- The loop from the end of a cycle at `now`, with a tick due at `due`. A cycle that starts at a
moment tells when it ends. -/
def ticks (interval : Nat) (cancelled : Option Nat) (cycle : Nat → m Nat) :
    (steps : Nat) → (due now : Nat) → m End
  | 0, _, _ => pure .running
  | steps + 1, due, now =>
    let start := max due now
    if isCancelledBy cancelled start then pure (.stopped (max now (cancelled.getD now)))
    else do
      let finished ← cycle start
      ticks interval cancelled cycle steps (nextDue interval due start) finished

def run (interval : Nat) (cancelled : Option Nat) (cycle : Nat → m Nat)
    (steps start : Nat) : m End :=
  if isCancelledBy cancelled start then pure .notStarted
  else do
    let finished ← cycle start
    if interval = 0 then pure (.noInterval finished)
    else match Clock.after? finished ⟨interval⟩ with
      | none => pure (.noTick finished)
      | some due => ticks interval cancelled cycle steps due finished

end QuoteGateway.UpdaterLoop
