import Mathlib.Data.Nat.Basic
import Mathlib.Order.Basic
import QuoteGateway.Proofs.Cache.Session
import QuoteGateway.Proofs.Table

/-!
# The cache in memory as a timed map

The shared table has a clock and a will of its own: it arms every slot with its lifetime when the
slot comes in, and may drop the slot at any moment after that time, or once it holds more slots than
it has room for. As long as it has room, the cache answers like a timed map, whatever the table
drops and whenever it does.
-/

namespace QuoteGateway

namespace Cache

theorem live_later {now later : Nat} (h : now ≤ later) (entry : Option Entry) :
    entry.filter (·.isLive later) = (entry.filter (·.isLive now)).filter (·.isLive later) := by
  rw [Option.filter_filter]
  congr 1
  funext entry
  have both : later < entry.deadline → now < entry.deadline := fun live => h.trans_lt live
  simpa [Entry.isLive] using both

theorem TimedMap.live?_later {map : TimedMap} {now later : Nat} (h : now ≤ later) (key : String) :
    map.live? later key = (map.live? now key).filter (·.isLive later) :=
  live_later h _

end Cache

namespace Cache.InMemory

/-- The shared table as it keeps itself: the moments after which it may drop its slots, and how
often it has been used. -/
structure Keeper where
  shared : Shared
  due : Table Nat
  uses : Nat

namespace Keeper

def empty (capacity : Nat) : Keeper := ⟨.empty capacity, .empty, 0⟩

def Fits (keeper : Keeper) : Prop :=
  keeper.shared.slots.keys.length ≤ keeper.shared.capacity

instance : DecidablePred Fits := fun keeper =>
  inferInstanceAs (Decidable (keeper.shared.slots.keys.length ≤ keeper.shared.capacity))

/-- Whether the table may drop a slot by itself: its time is over, or there is no room for all. -/
def mayDrop (keeper : Keeper) (now : Nat) (key : String) : Bool :=
  (keeper.due.get? key).all (· ≤ now) || !decide keeper.Fits

def sweep (keeper : Keeper) (now : Nat) (chosen : String → Bool) : Keeper :=
  { keeper with shared := { keeper.shared with
      slots := keeper.shared.slots.without fun key => chosen key && keeper.mayDrop now key } }

/-- The answer to a step at a moment, and the table afterwards. A slot that comes in is armed with
its lifetime. -/
def answer (keeper : Keeper) (now : Nat) (s : Step) : s.Answer × Keeper :=
  ((keeper.shared.answer now s).1, {
    shared := (keeper.shared.answer now s).2
    due := match s with
      | .insert key slot => keeper.due.put key (now + slot.lifetime.nanos)
      | _ => keeper.due
    uses := keeper.uses + 1 })

/-- The live entry of a key, dropped or not. -/
def live? (keeper : Keeper) (now : Nat) (key : String) : Option Entry :=
  ((keeper.shared.slots.get? key).map (·.entry)).filter (·.isLive now)

end Keeper

/-- A caller whose deadline lies beyond the clock does not survive, and nobody else goes on. -/
def survived {σ α : Type} : Except ClockOverflow α × σ → Except ClockOverflow (Except Failure α × σ)
  | (.ok a, later) => .ok (.ok a, later)
  | (.error overflow, _) => .error overflow

/-- Which slots the table chooses to drop before each of its uses. -/
abbrev Choices := Nat → String → Bool

namespace Choices

variable (choices : Choices) (now : Nat)

/-- The table drops what it chooses and is then used for a step. -/
def use (s : signature.Call) : StateM Keeper (signature.Answer s) :=
  fun keeper => (keeper.sweep now (choices keeper.uses)).answer now s

def carryOut {α : Type} (steps : Steps α) (keeper : Keeper) : Except ClockOverflow α × Keeper :=
  steps.run.run (m := StateM Keeper) (choices.use now) Empty.elim keeper

/-- The answers of the cache in memory when its table drops what it chooses. -/
def backend : Backend (StateT Keeper (Except ClockOverflow)) :=
  fun now call keeper => survived (choices.carryOut now (perform call) keeper)

variable {α β : Type}

theorem carryOut_bind (steps : Steps α) (f : α → Steps β) (keeper : Keeper) :
    choices.carryOut now (steps >>= f) keeper =
      match choices.carryOut now steps keeper with
      | (.ok a, later) => choices.carryOut now (f a) later
      | (.error overflow, later) => (.error overflow, later) := by
  have parts := Dialogue.run_bind (choices.use now) Empty.elim steps.run (ExceptT.bindCont f)
  refine (congrFun parts keeper).trans ?_
  change Dialogue.run (choices.use now) Empty.elim
    (ExceptT.bindCont f (choices.carryOut now steps keeper).1)
    (choices.carryOut now steps keeper).2 = _
  rcases choices.carryOut now steps keeper with ⟨overflow | a, later⟩ <;> rfl

theorem carryOut_step (s : Step) (keeper : Keeper) : choices.carryOut now (step s) keeper =
    (.ok (choices.use now s keeper).1, (choices.use now s keeper).2) := rfl

end Choices

/-- The table has what is live in the map, keeps it until its deadline and has room for it. -/
structure Mirrors (now : Nat) (keeper : Keeper) (map : TimedMap) : Prop where
  live : ∀ key, keeper.live? now key = map.live? now key
  armed : ∀ key slot, keeper.shared.slots.get? key = some slot →
    ∃ moment, keeper.due.get? key = some moment ∧ slot.entry.deadline ≤ moment
  fits : keeper.Fits
  room : keeper.shared.capacity ≠ 0

section Mirrors

variable {now : Nat} {keeper : Keeper} {map : TimedMap}

theorem mirrors_empty {capacity : Nat} (room : capacity ≠ 0) (now : Nat) :
    Mirrors now (.empty capacity) .empty where
  live _ := rfl
  armed _ _ := nofun
  fits := Nat.zero_le _
  room := room

theorem Mirrors.mayDrop_of_live (mirrors : Mirrors now keeper map) {key : String} {entry : Entry}
    (live : keeper.live? now key = some entry) : keeper.mayDrop now key = false := by
  obtain ⟨held, isLive⟩ := Option.filter_eq_some_iff.mp live
  obtain ⟨slot, found, rfl⟩ := Option.map_eq_some_iff.mp held
  obtain ⟨moment, due, le⟩ := mirrors.armed key slot found
  have ahead : now < moment := (of_decide_eq_true isLive).trans_le le
  simp [Keeper.mayDrop, due, ahead, mirrors.fits]

theorem Mirrors.live_sweep (mirrors : Mirrors now keeper map) (chosen : String → Bool)
    (key : String) : (keeper.sweep now chosen).live? now key = keeper.live? now key := by
  simp only [Keeper.live?, Keeper.sweep, Table.get?_without]
  split
  · rename_i dropped
    cases live : keeper.live? now key with
    | none => exact live.symm
    | some entry => simp [mirrors.mayDrop_of_live live] at dropped
  · rfl

theorem Mirrors.sweep (mirrors : Mirrors now keeper map) (chosen : String → Bool) :
    Mirrors now (keeper.sweep now chosen) map :=
  { mirrors with
    live := fun key => (mirrors.live_sweep chosen key).trans (mirrors.live key)
    armed := fun key slot found => by
      simp only [Keeper.sweep, Table.get?_without] at found
      split at found
      · cases found
      · exact mirrors.armed key slot found
    fits := by
      rw [Keeper.Fits, Keeper.sweep, Table.keys_without]
      exact (List.length_filter_le _ _).trans mirrors.fits }

theorem Mirrors.later {later : Nat} (h : now ≤ later) (mirrors : Mirrors now keeper map) :
    Mirrors later keeper map :=
  { mirrors with
    live := fun key => by
      rw [TimedMap.live?_later h, ← mirrors.live key]
      exact live_later h _ }

theorem Mirrors.remove (mirrors : Mirrors now keeper map) (key : String) :
    Mirrors now (keeper.answer now (.remove key)).2 (map.erase key) where
  live other := by
    change (((keeper.shared.slots.erase key).get? other).map _).filter _ = _
    by_cases same : other = key
    · rw [same, Table.get?_erase_self, TimedMap.live?_erase_self]
      rfl
    · rw [Table.get?_erase_of_ne _ same, TimedMap.live?_erase_of_ne _ _ same]
      exact mirrors.live other
  armed other slot found := by
    change (keeper.shared.slots.erase key).get? other = some slot at found
    by_cases same : other = key
    · rw [same, Table.get?_erase_self] at found
      cases found
    · rw [Table.get?_erase_of_ne _ same] at found
      exact mirrors.armed other slot found
  fits := by
    change (keeper.shared.slots.erase key).keys.length ≤ keeper.shared.capacity
    rw [Table.erase_eq_without, Table.keys_without]
    exact (List.length_filter_le _ _).trans mirrors.fits
  room := mirrors.room

theorem Mirrors.remove_dead (mirrors : Mirrors now keeper map) {key : String}
    (dead : map.live? now key = none) : Mirrors now (keeper.answer now (.remove key)).2 map :=
  { mirrors.remove key with
    live := fun other => by
      rw [(mirrors.remove key).live other]
      by_cases same : other = key
      · rw [same, dead, TimedMap.live?_erase_self]
      · rw [TimedMap.live?_erase_of_ne _ _ same] }

theorem Mirrors.insert (mirrors : Mirrors now keeper map) {key value : String}
    {lifetime : Duration} {after : Keeper}
    (inserted : (keeper.answer now
      (.insert key ⟨⟨value, now + lifetime.nanos⟩, lifetime⟩)).2 = after) (fits : after.Fits) :
    Mirrors now after (map.put now key value lifetime) := by
  let slot : Slot := ⟨⟨value, now + lifetime.nanos⟩, lifetime⟩
  simp only [Keeper.answer, Shared.answer, mirrors.room, if_false] at inserted
  subst inserted
  constructor
  case live =>
    intro other
    simp only [Keeper.live?]
    by_cases same : other = key
    · rw [same, Table.get?_put_self, TimedMap.live?_put_self]
      simp [Option.filter, Entry.isLive]
    · rw [Table.get?_put_of_ne _ _ same, TimedMap.live?_put_of_ne _ _ _ _ _ same]
      exact mirrors.live other
  case armed =>
    intro other found held
    by_cases same : other = key
    · simp only [same, Table.get?_put_self, Option.some.injEq] at held ⊢
      exact ⟨_, rfl, held ▸ le_rfl⟩
    · simp only [Table.get?_put_of_ne _ _ same] at held ⊢
      exact mirrors.armed other found held
  case fits => exact fits
  case room => exact mirrors.room

end Mirrors

/-- From tables that mirror one map, the steps lead to a result and to tables that mirror another,
whatever is dropped on the way. -/
def Yields {α : Type} (now : Nat) (map : TimedMap) (steps : Steps α) (a : α) (later : TimedMap) :
    Prop :=
  ∀ (choices : Choices) keeper, Mirrors now keeper map →
    ∃ keeper', choices.carryOut now steps keeper = (.ok a, keeper') ∧ Mirrors now keeper' later

section Yields

variable {now : Nat} {map later last : TimedMap} {α β : Type}

theorem yields_pure (a : α) : Yields now map (pure a) a map :=
  fun _ keeper mirrors => ⟨keeper, rfl, mirrors⟩

theorem Yields.bind {steps : Steps α} {f : α → Steps β} {a : α} {b : β}
    (first : Yields now map steps a later) (second : Yields now later (f a) b last) :
    Yields now map (steps >>= f) b last := by
  intro choices keeper mirrors
  obtain ⟨keeper₁, here, mirrors⟩ := first choices keeper mirrors
  obtain ⟨keeper₂, there, mirrors⟩ := second choices keeper₁ mirrors
  refine ⟨keeper₂, ?_, mirrors⟩
  rw [choices.carryOut_bind, here]
  exact there

theorem yields_now : Yields now map (step .now) now map :=
  fun _ _ mirrors => ⟨_, rfl, { mirrors.sweep _ with }⟩

theorem yields_remove (key : String) : Yields now map (step (.remove key)) () (map.erase key) :=
  fun _ _ mirrors => ⟨_, rfl, (mirrors.sweep _).remove key⟩

theorem yields_remove_dead {key : String} (dead : map.live? now key = none) :
    Yields now map (step (.remove key)) () map :=
  fun _ _ mirrors => ⟨_, rfl, (mirrors.sweep _).remove_dead dead⟩

/-- A lookup finds what is live, and of what is not live only what the table has not dropped. -/
theorem yields_lookup_bind {key : String} {f : Option Slot → Steps β} {b : β}
    (goesOn : ∀ found : Option Slot,
      (found.map (·.entry)).filter (·.isLive now) = map.live? now key →
        Yields now map (f found) b last) :
    Yields now map (step (.lookup key) >>= f) b last := by
  intro choices keeper mirrors
  have swept := mirrors.sweep (choices keeper.uses)
  have looked : Mirrors now (choices.use now (.lookup key) keeper).2 map := { swept with }
  obtain ⟨keeper', there, mirrors⟩ := goesOn _ (swept.live key) choices _ looked
  exact ⟨keeper', (choices.carryOut_bind now _ f keeper).trans there, mirrors⟩

/-- The cache finds an entry exactly if it is live. One that is found past its deadline is
removed. -/
theorem yields_liveEntry (key : String) :
    Yields now map (liveEntry key) (map.live? now key) map := by
  apply yields_lookup_bind
  rintro (_ | slot) live
  · rw [← live]
    exact yields_pure none
  · apply yields_now.bind
    rw [← live]
    cases isLive : slot.entry.isLive now with
    | true =>
      simp only [Option.map_some, Option.filter, isLive, if_true]
      exact yields_pure _
    | false =>
      simp only [Option.map_some, Option.filter, isLive, Bool.false_eq_true, if_false] at live ⊢
      exact (yields_remove_dead live.symm).bind (yields_pure none)

end Yields

def OnClock (now : Nat) : Call → Prop
  | .write _ _ lifetime => now + lifetime.nanos < Clock.finish
  | _ => True

instance (now : Nat) : DecidablePred (OnClock now)
  | .write _ _ lifetime => inferInstanceAs (Decidable (now + lifetime.nanos < Clock.finish))
  | .read _ | .delete _ | .contains _ | .remaining _ | .ping => .isTrue trivial

section Perform

variable {now : Nat} {map : TimedMap} {keeper : Keeper} (choices : Choices)

theorem carryOut_write (mirrors : Mirrors now keeper map) {lifetime : Duration}
    (reached : now + lifetime.nanos < Clock.finish) (key value : String) :
    ∃ keeper', choices.carryOut now (perform (.write key value lifetime)) keeper =
        (.ok (), keeper') ∧
      (keeper'.Fits → Mirrors now keeper' (map.put now key value lifetime)) := by
  obtain ⟨keeper₁, asked, mirrors⟩ := yields_now choices keeper mirrors
  refine ⟨_, ?_, (mirrors.sweep (choices keeper₁.uses)).insert rfl⟩
  simp only [perform]
  rw [choices.carryOut_bind, asked]
  simp only [Clock.after?, reached, if_true]
  rfl

/-- A call gives the answer of the map and leaves a table that mirrors it, unless the table holds
too much by then. -/
theorem carryOut_perform (mirrors : Mirrors now keeper map) {call : Call}
    (onClock : OnClock now call) :
    ∃ keeper', choices.carryOut now (perform call) keeper =
        (.ok (map.answer now call).1, keeper') ∧
      (keeper'.Fits → Mirrors now keeper' (map.answer now call).2) := by
  have unwritten {α : Type} {steps : Steps α} {a : α} {later : TimedMap}
      (yields : Yields now map steps a later) :
      ∃ keeper', choices.carryOut now steps keeper = (.ok a, keeper') ∧
        (keeper'.Fits → Mirrors now keeper' later) :=
    (yields choices keeper mirrors).imp fun _ => .imp_right fun stays _ => stays
  cases call with
  | write key value lifetime => exact carryOut_write choices mirrors onClock key value
  | read key => exact unwritten ((yields_liveEntry key).bind (yields_pure _))
  | delete key =>
    exact unwritten ((yields_liveEntry key).bind ((yields_remove key).bind (yields_pure _)))
  | contains key => exact unwritten ((yields_liveEntry key).bind (yields_pure _))
  | remaining key =>
    apply unwritten
    apply (yields_liveEntry key).bind
    simp only [TimedMap.answer]
    cases map.live? now key with
    | none => exact yields_pure none
    | some entry => exact yields_now.bind (yields_pure _)
  | ping => exact unwritten (yields_pure ())

end Perform

/-- The cache in memory stands for the timed map, whatever its table drops, as long as the table has
room for what it holds. -/
theorem refines (choices : Choices) :
    Refines choices.backend TimedMap.backend OnClock Keeper.Fits Mirrors where
  later h mirrors := mirrors.later h
  step {now call keeper map} mirrors onClock := by
    obtain ⟨keeper', carried, stays⟩ := carryOut_perform choices mirrors onClock
    refine ⟨keeper', ?_, stays⟩
    rw [Choices.backend, carried]
    rfl

theorem run_of_keeping (now : Nat) {α : Type} (d : Dialogue signature α) (keeper : Keeper) :
    Prod.map id Keeper.shared
        (d.run (m := StateM Keeper) (Choices.use (fun _ _ => false) now) Empty.elim keeper) =
      d.run (m := StateM Shared) (fun s => modifyGet (·.answer now s)) Empty.elim
        keeper.shared := by
  induction d generalizing keeper with
  | done a => rfl
  | ask s next ih =>
    have kept : keeper.sweep now (fun _ => false) = keeper := by
      simp [Keeper.sweep, Table.without]
    have used : Choices.use (fun _ _ => false) now s keeper = keeper.answer now s :=
      congrArg (Keeper.answer · now s) kept
    change Prod.map id Keeper.shared (Dialogue.run (m := StateM Keeper) _ _
      (next (Choices.use (fun _ _ => false) now s keeper).1)
      (Choices.use (fun _ _ => false) now s keeper).2) = _
    rw [used]
    exact ih _ _
  | tell event next ih => exact event.elim

theorem carryOut_of_keeping (now : Nat) (call : Call) (keeper : Keeper) :
    Prod.map id Keeper.shared (Choices.carryOut (fun _ _ => false) now (perform call) keeper) =
      keeper.shared.call now call :=
  run_of_keeping now (perform call).run keeper

/-- The cache in memory is a timed map, whatever its table drops and whenever it does: a session in
which the table never holds more than it has room for shows the answers of the map, and what it
shows about a key comes from the calls about that key alone. -/
theorem answers_of_timedMap (choices : Choices) {capacity : Nat} (room : capacity ≠ 0)
    (start : Nat) (moves : List (Move Call))
    (along : Along choices.backend OnClock Keeper.Fits start (.empty capacity) moves) :
    ∃ answers, (session choices.backend start moves).run' (.empty capacity) = .ok answers ∧
      answers = (session TimedMap.backend start moves).run' .empty ∧
      ∀ key, answers.filter (·.1.concerns key) =
        (session TimedMap.backend start (only (Call.concerns key) moves)).run' .empty :=
  ⟨_, (refines choices).session_eq (mirrors_empty room start) along, rfl,
    fun _ => TimedMap.filter_session rfl moves⟩

/-- Entries written over with a shorter lifetime, one that is over at once, and deletions of what
has expired, in a table with room for two that drops whatever it may. -/
def overwrites : List (Move Call) := [
  .call (.write "a" "first" ⟨5⟩), .pass ⟨3⟩, .call (.write "a" "second" ⟨1⟩),
  .call (.write "b" "gone" ⟨0⟩), .call (.read "b"), .call (.remaining "a"), .pass ⟨1⟩,
  .call (.delete "a"), .call (.write "c" "third" ⟨7⟩), .call (.delete "b"), .pass ⟨6⟩,
  .call (.remaining "c"), .call (.contains "b"), .call (.read "c")]

theorem answers_of_overwrites :
    Along (Choices.backend fun _ _ => true) OnClock Keeper.Fits 0 (.empty 2) overwrites ∧
      ∃ answers, (session (Choices.backend fun _ _ => true) 0 overwrites).run' (.empty 2) =
          .ok answers ∧
        answers = [⟨.write "a" "first" ⟨5⟩, .ok ()⟩, ⟨.write "a" "second" ⟨1⟩, .ok ()⟩,
          ⟨.write "b" "gone" ⟨0⟩, .ok ()⟩, ⟨.read "b", .ok none⟩,
          ⟨.remaining "a", .ok (some ⟨1⟩)⟩, ⟨.delete "a", .ok false⟩,
          ⟨.write "c" "third" ⟨7⟩, .ok ()⟩, ⟨.delete "b", .ok false⟩,
          ⟨.remaining "c", .ok (some ⟨1⟩)⟩, ⟨.contains "b", .ok false⟩,
          ⟨.read "c", .ok (some "third")⟩] := by
  have along : Along (Choices.backend fun _ _ => true) OnClock Keeper.Fits 0 (.empty 2)
      overwrites := by decide +kernel
  obtain ⟨answers, shown, same, -⟩ :=
    answers_of_timedMap (fun _ _ => true) (by decide) 0 overwrites along
  exact ⟨along, answers, shown, same.trans rfl⟩

end Cache.InMemory

end QuoteGateway
