import QuoteGateway.Cache.TimedMap
import QuoteGateway.Clock
import QuoteGateway.Dialogue

/-!
# The cache in memory

Entries lie in a shared table, each with the moment from which it is no longer valid. The table
drops entries whose lifetime is over at moments of its own choosing, so every reading checks the
deadline as well and removes an entry found to be over it. Each use of the table and of the clock
is one step, between which other callers may take theirs.
-/

namespace QuoteGateway.Cache.InMemory

structure Slot where
  entry : Entry
  lifetime : Duration
deriving DecidableEq

inductive Step where
  | now
  | lookup (key : String)
  | insert (key : String) (slot : Slot)
  | remove (key : String)
deriving DecidableEq

def Step.Answer : Step → Type
  | .now => Nat
  | .lookup _ => Option Slot
  | .insert .. => Unit
  | .remove _ => Unit

def signature : Signature where
  Call := Step
  Answer := Step.Answer
  Event := Empty

/-- A deadline lies beyond the end of the clock. A caller that sets it does not survive. -/
structure ClockOverflow where
deriving DecidableEq

abbrev Steps (α : Type) := ExceptT ClockOverflow (Dialogue signature) α

def step (s : Step) : Steps s.Answer := ExceptT.lift (Dialogue.call (S := signature) s)

/-- The valid entry of a key. An entry over its deadline is removed. -/
def liveEntry (key : String) : Steps (Option Entry) := do
  match ← step (.lookup key) with
  | none => return none
  | some slot =>
    if slot.entry.isLive (← step .now) then return some slot.entry
    else
      step (.remove key)
      return none

def perform : (call : Call) → Steps call.Result
  | .read key => do
    let entry ← liveEntry key
    return entry.map (·.value)
  | .write key value lifetime => do
    match Clock.after? (← step .now) lifetime with
    | none => throw ⟨⟩
    | some deadline => step (.insert key ⟨⟨value, deadline⟩, lifetime⟩)
  | .delete key => do
    let entry ← liveEntry key
    step (.remove key)
    return entry.isSome
  | .contains key => do
    let entry ← liveEntry key
    return entry.isSome
  | .remaining key => do
    match ← liveEntry key with
    | none => return none
    | some entry => return some (entry.remaining (← step .now))
  | .ping => return ()

/-- The shared table. One without room for a single entry keeps nothing. -/
structure Shared where
  capacity : Nat
  slots : Table Slot

namespace Shared

def standardCapacity : Nat := 10000

def empty (capacity : Nat) : Shared := ⟨capacity, .empty⟩

def answer (shared : Shared) (now : Nat) : (s : Step) → s.Answer × Shared
  | .now => (now, shared)
  | .lookup key => (shared.slots.get? key, shared)
  | .insert key slot =>
    ((), if shared.capacity = 0 then shared else { shared with slots := shared.slots.put key slot })
  | .remove key => ((), { shared with slots := shared.slots.erase key })

/-- A call carried out at one moment without others between its steps. -/
def call (shared : Shared) (now : Nat) (c : Call) : Except ClockOverflow c.Result × Shared :=
  ((perform c).run.run (m := StateM Shared) (fun s => modifyGet (·.answer now s)) Empty.elim).run
    shared

end Shared

end QuoteGateway.Cache.InMemory
