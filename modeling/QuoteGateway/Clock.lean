import QuoteGateway.Duration

/-!
# The running clock

A clock that never goes back, on which lifetimes and intervals are measured. Its moments are
nanoseconds, and it has an end.
-/

namespace QuoteGateway.Clock

/-- The clock counts seconds in 64 bits with a sign, and no moment lies beyond. -/
def finish : Nat := UInt64.size / 2 * 1000000000

def after? (now : Nat) (duration : Duration) : Option Nat :=
  if now + duration.nanos < finish then some (now + duration.nanos) else none

end QuoteGateway.Clock
