import QuoteGateway.Cache.Call
import QuoteGateway.Table

/-!
# Timed maps

What every cache is measured by: a map whose entries are live until their deadline and gone from
then on. Moments are nanoseconds on one clock that never goes back.
-/

namespace QuoteGateway.Cache

structure Entry where
  value : String
  deadline : Nat
deriving DecidableEq

def Entry.isLive (entry : Entry) (now : Nat) : Bool := now < entry.deadline

def Entry.remaining (entry : Entry) (now : Nat) : Duration := ⟨entry.deadline - now⟩

structure TimedMap where
  entries : Table Entry

namespace TimedMap

def empty : TimedMap := ⟨.empty⟩

def live? (map : TimedMap) (now : Nat) (key : String) : Option Entry :=
  (map.entries.get? key).filter (·.isLive now)

/-- The map with a value that is live for a while, in place of an earlier one. -/
def put (map : TimedMap) (now : Nat) (key value : String) (lifetime : Duration) : TimedMap :=
  ⟨map.entries.put key ⟨value, now + lifetime.nanos⟩⟩

def erase (map : TimedMap) (key : String) : TimedMap := ⟨map.entries.erase key⟩

def answer (map : TimedMap) (now : Nat) : (call : Call) → call.Result × TimedMap
  | .read key => ((map.live? now key).map (·.value), map)
  | .write key value lifetime => ((), map.put now key value lifetime)
  | .delete key => ((map.live? now key).isSome, map.erase key)
  | .contains key => ((map.live? now key).isSome, map)
  | .remaining key => ((map.live? now key).map (·.remaining now), map)
  | .ping => ((), map)

def content (map : TimedMap) (now : Nat) : List (String × Entry) :=
  map.entries.rows.filter fun row => row.2.isLive now

theorem live?_eq_some_iff {map : TimedMap} {now : Nat} {key : String} {entry : Entry} :
    map.live? now key = some entry ↔ map.entries.get? key = some entry ∧ now < entry.deadline := by
  simp [live?, Option.filter_eq_some_iff, Entry.isLive]

/-- An entry that is live was live before, unless it was written since. -/
theorem live?_of_later {map : TimedMap} {now later : Nat} (h : now ≤ later) {key : String}
    {entry : Entry} (live : map.live? later key = some entry) :
    map.live? now key = some entry := by
  rw [live?_eq_some_iff] at live ⊢
  exact ⟨live.1, Nat.lt_of_le_of_lt h live.2⟩

/-- A live entry that is gone later has passed its deadline. -/
theorem deadline_le_of_gone {map : TimedMap} {now later : Nat} {key : String} {entry : Entry}
    (live : map.live? now key = some entry) (gone : map.live? later key = none) :
    entry.deadline ≤ later := by
  apply Nat.le_of_not_lt
  intro before
  have still := live?_eq_some_iff.mpr ⟨(live?_eq_some_iff.mp live).1, before⟩
  rw [still] at gone
  cases gone

theorem live?_put_self (map : TimedMap) (now later : Nat) (key value : String)
    (lifetime : Duration) :
    (map.put now key value lifetime).live? later key =
      if later < now + lifetime.nanos then some ⟨value, now + lifetime.nanos⟩ else none := by
  simp [live?, put, Table.get?_put_self, Option.filter, Entry.isLive]

theorem live?_put_of_ne (map : TimedMap) (now later : Nat) {key other : String} (value : String)
    (lifetime : Duration) (h : other ≠ key) :
    (map.put now key value lifetime).live? later other = map.live? later other := by
  simp [live?, put, Table.get?_put_of_ne map.entries _ h]

theorem live?_erase_self (map : TimedMap) (now : Nat) (key : String) :
    (map.erase key).live? now key = none := by
  simp [live?, erase, Table.get?_erase_self]

theorem live?_erase_of_ne (map : TimedMap) (now : Nat) {key other : String} (h : other ≠ key) :
    (map.erase key).live? now other = map.live? now other := by
  simp [live?, erase, Table.get?_erase_of_ne map.entries h]

end TimedMap

end QuoteGateway.Cache
