import QuoteGateway.Cache.Call
import QuoteGateway.Failure
import QuoteGateway.Table

/-!
# A cache to try things with

A table without a clock, in which no entry expires. It counts its calls, notes down the keys that
are written, and can be made to fail: in every call, in every write, or in the writes of one key.
-/

namespace QuoteGateway.Cache

structure Standin where
  entries : Table (String × Option Duration)
  outage : Option String
  writeOutage : Option String
  failingKey : Option String
  calls : Nat
  /-- The keys written so far, in order. -/
  writes : List String

namespace Standin

def empty : Standin := ⟨.empty, none, none, none, 0, []⟩

def fault? (standin : Standin) : Call → Option String
  | .write key _ _ =>
    standin.outage <|> standin.writeOutage <|>
      if standin.failingKey = some key then some ("Failed to set key '" ++ key ++ "'") else none
  | .read _ | .delete _ | .contains _ | .remaining _ | .ping => standin.outage

/-- The result of a call that does not fail. An entry is looked for by reading it. -/
def result (standin : Standin) : (call : Call) → call.Result × Standin
  | .read key => ((standin.entries.get? key).map (·.1), standin)
  | .write key value lifetime =>
    ((), { standin with
      entries := standin.entries.put key (value, some lifetime)
      writes := standin.writes ++ [key] })
  | .delete key =>
    ((standin.entries.get? key).isSome, { standin with entries := standin.entries.erase key })
  | .contains key => (((standin.entries.get? key).map (·.1)).isSome, standin)
  | .remaining key => ((standin.entries.get? key).bind (·.2), standin)
  | .ping => ((), standin)

def answer (standin : Standin) (call : Call) : Except Failure call.Result × Standin :=
  let counted := { standin with calls := standin.calls + 1 }
  match standin.fault? call with
  | some detail => (.error (.reported .cache detail), counted)
  | none => (.ok (counted.result call).1, (counted.result call).2)

end Standin

end QuoteGateway.Cache
