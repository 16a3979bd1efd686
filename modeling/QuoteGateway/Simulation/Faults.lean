import QuoteGateway.Cache.Call
import QuoteGateway.Failure

/-!
# Scripted faults

Which calls of a cache fail, by their kind, by their key or by their place among the writes. A call
that fails touches nothing.
-/

namespace QuoteGateway.Simulation

structure Faults where
  always : Option String
  read : Option String
  write : Option String
  delete : Option String
  contains : Option String
  remaining : Option String
  ping : Option String
  readKeys : List (String × String)
  writeKeys : List (String × String)
  /-- Messages by the place of a write, counted from 1. -/
  nthWrites : List (Nat × String)

namespace Faults

def none : Faults :=
  ⟨.none, .none, .none, .none, .none, .none, .none, [], [], []⟩

/-- The message with which a call fails, after a number of writes. -/
def message? (faults : Faults) (writes : Nat) (call : Cache.Call) : Option String :=
  faults.always <|> match call with
    | .read key => faults.read <|> faults.readKeys.lookup key
    | .write key _ _ =>
      faults.write <|> faults.writeKeys.lookup key <|> faults.nthWrites.lookup (writes + 1)
    | .delete _ => faults.delete
    | .contains _ => faults.contains
    | .remaining _ => faults.remaining
    | .ping => faults.ping

def failure? (faults : Faults) (writes : Nat) (call : Cache.Call) : Option Failure :=
  (faults.message? writes call).map (.reported .cache)

end Faults

end QuoteGateway.Simulation
