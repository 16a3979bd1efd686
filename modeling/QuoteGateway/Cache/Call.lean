import QuoteGateway.Duration

/-!
# Calls of a cache

A cache keeps texts under keys, each for its own lifetime. An entry that has expired is as good as
missing.
-/

namespace QuoteGateway.Cache

inductive Call where
  | read (key : String)
  | write (key value : String) (lifetime : Duration)
  | delete (key : String)
  | contains (key : String)
  | remaining (key : String)
  | ping
deriving DecidableEq

def Call.Result : Call → Type
  | .read _ => Option String
  | .write .. => Unit
  | .delete _ => Bool
  | .contains _ => Bool
  | .remaining _ => Option Duration
  | .ping => Unit

/-- The key read by a cache that has no check of its own whether it can be reached. -/
def pingKey : String := "__ping__"

end QuoteGateway.Cache
