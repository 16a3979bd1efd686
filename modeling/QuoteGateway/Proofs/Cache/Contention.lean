import QuoteGateway.Proofs.Cache.Keeper
import QuoteGateway.Proofs.Contract

/-!
# Callers of the cache in memory at the same time

Any number of callers take the steps of their calls in any order, with time between them, and the
table drops what it may before each step. A reading looks an entry up, checks its deadline and
removes it in steps of their own, and what it removes is whatever lies under the key by then. So an
entry that has been written stays until its deadline exactly if no reading comes to remove an older
one that it had found before the write.
-/

namespace QuoteGateway.Cache.InMemory

/-- A caller: its call, the slot that it has found if it has looked one up, and the steps that are
left of the call. -/
structure Caller where
  call : Call
  found : Option Slot
  work : Dialogue signature (Except ClockOverflow call.Result)

/-- The callers of one table so far, by number, on one clock. -/
structure Crowd where
  now : Nat
  keeper : Keeper
  callers : List Caller

/-- What happens next: a call begins, a caller takes its next step after the table has dropped what
it chooses, or time passes. -/
inductive Turn where
  | arrive (call : Call)
  | step (number : Nat) (dropped : String → Bool)
  | pass (duration : Duration)

def Turn.isOf (number : Nat) : Turn → Bool
  | .step other _ => other = number
  | _ => false

def foundBy : (s : Step) → s.Answer → Option Slot → Option Slot
  | .lookup _, found, _ => found
  | .now, _, earlier | .insert .., _, earlier | .remove _, _, earlier => earlier

structure Use where
  call : Call
  found : Option Slot
  step : Step

def Caller.returned? : Caller → Option (Option String)
  | ⟨.read _, _, .done (.ok value)⟩ => some value
  | _ => none

namespace Crowd

def opening (capacity now : Nat) : Crowd := ⟨now, .empty capacity, []⟩

/-- The step that is taken in a turn. -/
def use? (crowd : Crowd) : Turn → Option Use
  | .step number _ =>
    match crowd.callers[number]? with
    | some ⟨call, found, .ask s _⟩ => some ⟨call, found, s⟩
    | _ => none
  | _ => none

def step (crowd : Crowd) : Turn → Crowd
  | .arrive call => { crowd with callers := crowd.callers ++ [⟨call, none, (perform call).run⟩] }
  | .step number dropped =>
    match crowd.callers[number]? with
    | some ⟨call, found, .ask s next⟩ =>
      let used := (crowd.keeper.sweep crowd.now dropped).answer crowd.now s
      { crowd with
        keeper := used.2
        callers := crowd.callers.set number ⟨call, foundBy s used.1 found, next used.1⟩ }
    | _ => crowd
  | .pass duration => { crowd with now := crowd.now + duration.nanos }

def after (crowd : Crowd) (turns : List Turn) : Crowd := turns.foldl step crowd

def returned? (crowd : Crowd) (number : Nat) : Option (Option String) :=
  crowd.callers[number]?.bind Caller.returned?

def Throughout (P : Crowd → Turn → Prop) : Crowd → List Turn → Prop
  | _, [] => True
  | crowd, turn :: turns => P crowd turn ∧ Throughout P (crowd.step turn) turns

instance decidableThroughout (P : Crowd → Turn → Prop) [∀ crowd turn, Decidable (P crowd turn)] :
    (crowd : Crowd) → (turns : List Turn) → Decidable (Throughout P crowd turns)
  | _, [] => .isTrue trivial
  | crowd, turn :: turns =>
    have := decidableThroughout P (crowd.step turn) turns
    inferInstanceAs (Decidable (P crowd turn ∧ Throughout P (crowd.step turn) turns))

end Crowd

/-- What the answer to a step says about the moment at which it is given. -/
def Step.GivenBy (now : Nat) : (s : Step) → s.Answer → Prop
  | .now, (moment : Nat) => moment ≤ now
  | .lookup _, _ | .insert .., _ | .remove _, _ => True

/-- What a call may do at a moment and with what it has found. It looks up and removes the entry of
its own key. Only a write inserts a slot, and the deadline of it is one lifetime after some earlier
moment. Only a deletion removes a slot that has not been found over its deadline. -/
def honest (call : Call) : Contract signature (Nat × Option Slot) where
  allows
    | (now, _), .insert key slot => ∃ value moment, call = .write key value slot.lifetime ∧
        moment ≤ now ∧ slot.entry = ⟨value, moment + slot.lifetime.nanos⟩
    | (now, found), .remove key => call.concerns key = true ∧
        (call = .delete key ∨ ∃ slot, found = some slot ∧ slot.entry.deadline ≤ now)
    | _, .lookup key => call.concerns key = true
    | _, .now => True
  promises s step answer s' :=
    s.1 ≤ s'.1 ∧ s'.2 = foundBy step answer s.2 ∧ Step.GivenBy s'.1 step answer

theorem eq_of_concerns {call : Call} {key other : String} (about : call.concerns key = true)
    (about' : call.concerns other = true) : key = other := by
  cases call with
  | ping => cases about
  | read k | write k _ _ | delete k | contains k | remaining k =>
    exact (beq_iff_eq.mp about).symm.trans (beq_iff_eq.mp about')

def Honest (call : Call) {α : Type} (work : Dialogue signature α) (s : Nat × Option Slot) : Prop :=
  work.Keeps (honest call) (fun _ _ => True) s

theorem run_liveEntry (key : String) :
    (liveEntry key).run = .ask (.lookup key) fun found : Option Slot =>
      match found with
      | none => .done (.ok none)
      | some slot => .ask .now fun moment : Nat =>
        if slot.entry.isLive moment then .done (.ok (some slot.entry))
        else .ask (.remove key) fun _ => .done (.ok none) := by
  change Dialogue.ask _ _ = _
  congr 1
  funext found
  rcases found with _ | slot <;> rfl

theorem honest_liveEntry (call : Call) {key : String} (about : call.concerns key = true)
    (s : Nat × Option Slot) : Honest call (liveEntry key).run s := by
  rw [Honest, run_liveEntry]
  refine ⟨about, ?_⟩
  rintro (_ | slot) ⟨now, found⟩ ⟨-, same, -⟩
  · trivial
  · obtain rfl : found = some slot := same
    refine ⟨trivial, ?_⟩
    intro (moment : Nat) ⟨later, found⟩ ⟨_, same, given⟩
    obtain rfl : found = some slot := same
    cases isLive : slot.entry.isLive moment with
    | true =>
      simp only [isLive, if_true]
      trivial
    | false =>
      have past : slot.entry.deadline ≤ moment := Nat.le_of_not_lt (of_decide_eq_false isLive)
      simp only [isLive, Bool.false_eq_true, if_false]
      exact ⟨⟨about, .inr ⟨slot, rfl, past.trans given⟩⟩, fun _ _ _ => trivial⟩

theorem run_write (key value : String) (lifetime : Duration) :
    (perform (.write key value lifetime)).run = .ask .now fun moment : Nat =>
      if moment + lifetime.nanos < Clock.finish then
        .ask (.insert key ⟨⟨value, moment + lifetime.nanos⟩, lifetime⟩) fun _ => .done (.ok ())
      else .done (.error ⟨⟩) := by
  change Dialogue.ask _ _ = _
  congr 1
  funext (moment : Nat)
  change Dialogue.bind (Dialogue.done (Except.ok moment)) _ = _
  by_cases inTime : moment + lifetime.nanos < Clock.finish
  · have reached : Clock.after? moment lifetime = some (moment + lifetime.nanos) := if_pos inTime
    simp only [inTime, if_true, Dialogue.bind, ExceptT.bindCont, reached]
    rfl
  · have unreached : Clock.after? moment lifetime = none := if_neg inTime
    simp only [inTime, if_false, Dialogue.bind, ExceptT.bindCont, unreached]
    rfl

/-- Every call is honest to begin with. -/
theorem honest_perform (call : Call) (s : Nat × Option Slot) :
    Honest call (perform call).run s := by
  cases call with
  | read key =>
    apply (honest_liveEntry (.read key) (beq_self_eq_true key) s).bind
    rintro s' (overflow | entry) - <;> trivial
  | write key value lifetime =>
    rw [Honest, run_write]
    refine ⟨trivial, ?_⟩
    intro (moment : Nat) ⟨now, found⟩ ⟨_, _, given⟩
    by_cases inTime : moment + lifetime.nanos < Clock.finish
    · simp only [inTime, if_true]
      exact ⟨⟨value, moment, rfl, given, rfl⟩, fun _ _ _ => trivial⟩
    · simp only [inTime, if_false]
      trivial
  | delete key =>
    apply (honest_liveEntry (.delete key) (beq_self_eq_true key) s).bind
    rintro s' (overflow | entry) -
    · trivial
    · exact ⟨⟨beq_self_eq_true key, .inl rfl⟩, fun _ _ _ => trivial⟩
  | contains key =>
    apply (honest_liveEntry (.contains key) (beq_self_eq_true key) s).bind
    rintro s' (overflow | entry) - <;> trivial
  | remaining key =>
    apply (honest_liveEntry (.remaining key) (beq_self_eq_true key) s).bind
    rintro s' (overflow | entry) -
    · trivial
    · cases entry with
      | none => trivial
      | some entry => exact ⟨trivial, fun _ _ _ => trivial⟩
  | ping => trivial

theorem Honest.later {call : Call} {α : Type} {work : Dialogue signature α} {now later : Nat}
    {found : Option Slot} (h : now ≤ later) (honest : Honest call work (now, found)) :
    Honest call work (later, found) := by
  cases work with
  | done a => trivial
  | ask s next =>
    refine ⟨?_, fun answer s' promised => honest.2 answer s' ⟨h.trans promised.1, promised.2⟩⟩
    have allowed := honest.1
    rcases s with _ | key | ⟨key, slot⟩ | key
    · trivial
    · exact allowed
    · obtain ⟨value, moment, write, le, entry⟩ := allowed
      exact ⟨value, moment, write, le.trans h, entry⟩
    · exact allowed.imp_right (.imp_right fun ⟨slot, found, past⟩ => ⟨slot, found, past.trans h⟩)
  | tell event next => exact event.elim

namespace Crowd

theorem step_of_ask {crowd : Crowd} {number : Nat} {call : Call} {found : Option Slot} {s : Step}
    {next : s.Answer → Dialogue signature (Except ClockOverflow call.Result)}
    (there : crowd.callers[number]? = some ⟨call, found, .ask s next⟩) (dropped : String → Bool) :
    crowd.step (.step number dropped) =
      let used := (crowd.keeper.sweep crowd.now dropped).answer crowd.now s
      ⟨crowd.now, used.2,
        crowd.callers.set number ⟨call, foundBy s used.1 found, next used.1⟩⟩ := by
  simp only [step, there]

theorem step_of_done {crowd : Crowd} {number : Nat} {call : Call} {found : Option Slot}
    {result : Except ClockOverflow call.Result}
    (there : crowd.callers[number]? = some ⟨call, found, .done result⟩) (dropped : String → Bool) :
    crowd.step (.step number dropped) = crowd := by
  simp only [step, there]

/-- A turn in which a caller would step passes without effect, or the caller takes its next step
on what the table has left. -/
theorem step_cases (crowd : Crowd) (number : Nat) (dropped : String → Bool) :
    (crowd.use? (.step number dropped) = none ∧ crowd.step (.step number dropped) = crowd) ∨
      ∃ call found s next, crowd.callers[number]? = some ⟨call, found, .ask s next⟩ ∧
        crowd.use? (.step number dropped) = some ⟨call, found, s⟩ ∧
        crowd.step (.step number dropped) =
          let used := (crowd.keeper.sweep crowd.now dropped).answer crowd.now s
          ⟨crowd.now, used.2,
            crowd.callers.set number ⟨call, foundBy s used.1 found, next used.1⟩⟩ := by
  simp only [use?, step]
  rcases crowd.callers[number]? with _ | ⟨call, found, a | ⟨s, next⟩ | ⟨event, next⟩⟩
  · exact .inl ⟨rfl, rfl⟩
  · exact .inl ⟨rfl, rfl⟩
  · exact .inr ⟨call, found, s, next, rfl, rfl, rfl⟩
  · exact .inl ⟨rfl, rfl⟩

def AllHonest (crowd : Crowd) : Prop :=
  ∀ caller ∈ crowd.callers, Honest caller.call caller.work (crowd.now, caller.found)

theorem AllHonest.step {crowd : Crowd} (honest : crowd.AllHonest) (turn : Turn) :
    (crowd.step turn).AllHonest := by
  cases turn with
  | arrive call =>
    intro caller member
    rcases List.mem_append.mp member with earlier | last
    · exact honest caller earlier
    · obtain rfl := List.mem_singleton.mp last
      exact honest_perform call _
  | step number dropped =>
    rcases crowd.step_cases number dropped with ⟨-, same⟩ | ⟨call, found, s, next, there, -, taken⟩
    · rwa [same]
    · rw [taken]
      intro caller member
      rcases List.mem_or_eq_of_mem_set member with other | rfl
      · exact honest caller other
      · refine (honest _ (List.mem_of_getElem? there)).2 _ _ ⟨le_rfl, rfl, ?_⟩
        rcases s with _ | key | ⟨key, slot⟩ | key
        · exact le_rfl
        all_goals trivial
  | pass duration =>
    intro caller member
    exact (honest caller member).later (Nat.le_add_right _ _)

theorem AllHonest.after {crowd : Crowd} (honest : crowd.AllHonest) (turns : List Turn) :
    (crowd.after turns).AllHonest := by
  induction turns generalizing crowd with
  | nil => exact honest
  | cons turn turns ih => exact ih (honest.step turn)

theorem Throughout.after {P : Crowd → Turn → Prop} {crowd : Crowd} {earlier turns : List Turn}
    (all : Throughout P crowd (earlier ++ turns)) : Throughout P (crowd.after earlier) turns := by
  induction earlier generalizing crowd with
  | nil => exact all
  | cons turn earlier ih => exact ih all.2

theorem capacity_step (crowd : Crowd) (turn : Turn) :
    (crowd.step turn).keeper.shared.capacity = crowd.keeper.shared.capacity := by
  cases turn with
  | arrive call => rfl
  | step number dropped =>
    rcases crowd.step_cases number dropped with ⟨-, same⟩ | ⟨call, found, s, next, -, -, taken⟩
    · rw [same]
    · rw [taken]
      rcases s with _ | key | ⟨key, slot⟩ | key
      · rfl
      · rfl
      · simp only [Keeper.answer, Shared.answer]
        split <;> rfl
      · rfl
  | pass duration => rfl

theorem now_le_step (crowd : Crowd) (turn : Turn) : crowd.now ≤ (crowd.step turn).now := by
  cases turn with
  | arrive call => exact le_rfl
  | step number dropped =>
    rcases crowd.step_cases number dropped with ⟨-, same⟩ | ⟨call, found, s, next, -, -, taken⟩
    · rw [same]
    · rw [taken]
  | pass duration => exact Nat.le_add_right _ _

theorem now_le_after (crowd : Crowd) (turns : List Turn) : crowd.now ≤ (crowd.after turns).now := by
  induction turns generalizing crowd with
  | nil => exact le_rfl
  | cons turn turns ih => exact (crowd.now_le_step turn).trans (ih _)

theorem capacity_after (crowd : Crowd) (turns : List Turn) :
    (crowd.after turns).keeper.shared.capacity = crowd.keeper.shared.capacity := by
  induction turns generalizing crowd with
  | nil => rfl
  | cons turn turns ih => exact (ih _).trans (crowd.capacity_step turn)

theorem allHonest_opening (capacity start : Nat) : (opening capacity start).AllHonest :=
  List.forall_mem_nil _

end Crowd

def changes (key : String) : Call → Bool
  | .write other _ _ | .delete other => other = key
  | .read _ | .contains _ | .remaining _ | .ping => false

/-- No other call that writes or deletes the entry of a key takes a step in a turn. -/
def Untouched (key : String) (crowd : Crowd) (turn : Turn) : Prop :=
  ∀ use ∈ crowd.use? turn, changes key use.call = false

instance (key : String) (crowd : Crowd) (turn : Turn) : Decidable (Untouched key crowd turn) :=
  inferInstanceAs (Decidable (∀ use ∈ crowd.use? turn, changes key use.call = false))

/-- In a turn no other call writes or deletes the entry of a key, and the table has room for what it
holds. -/
structure Undisturbed (key : String) (crowd : Crowd) (turn : Turn) : Prop where
  untouched : Untouched key crowd turn
  fits : crowd.keeper.Fits

instance (key : String) (crowd : Crowd) (turn : Turn) : Decidable (Undisturbed key crowd turn) :=
  decidable_of_iff (Untouched key crowd turn ∧ crowd.keeper.Fits)
    ⟨fun h => ⟨h.1, h.2⟩, fun h => ⟨h.untouched, h.fits⟩⟩

/-- In a turn, nobody removes the entry of a key either. -/
structure Spared (key : String) (crowd : Crowd) (turn : Turn) : Prop
    extends Undisturbed key crowd turn where
  unremoved : ∀ use ∈ crowd.use? turn, use.step ≠ .remove key

/-- The table has a slot and keeps it until its deadline. -/
structure Holds (key : String) (slot : Slot) (keeper : Keeper) : Prop where
  held : keeper.shared.slots.get? key = some slot
  armed : ∃ moment, keeper.due.get? key = some moment ∧ slot.entry.deadline ≤ moment

namespace Holds

variable {key : String} {slot : Slot} {keeper : Keeper} {now : Nat}

/-- The table has no reason to drop a slot before its deadline while there is room. -/
theorem sweep (holds : Holds key slot keeper) (fits : keeper.Fits)
    (unexpired : now < slot.entry.deadline) (dropped : String → Bool) :
    Holds key slot (keeper.sweep now dropped) where
  held := by
    obtain ⟨moment, due, le⟩ := holds.armed
    have needed : keeper.mayDrop now key = false := by
      simp [Keeper.mayDrop, due, unexpired.trans_le le, fits]
    simp [Keeper.sweep, Table.get?_without, needed, holds.held]
  armed := holds.armed

theorem insert_of_ne (holds : Holds key slot keeper) {other : String} (h : other ≠ key)
    (newer : Slot) : Holds key slot (keeper.answer now (.insert other newer)).2 where
  held := by
    simp only [Keeper.answer, Shared.answer]
    split
    · exact holds.held
    · simp only [Table.get?_put_of_ne _ _ h.symm]
      exact holds.held
  armed := by
    simp only [Keeper.answer, Table.get?_put_of_ne _ _ h.symm]
    exact holds.armed

theorem remove_of_ne (holds : Holds key slot keeper) {other : String} (h : other ≠ key) :
    Holds key slot (keeper.answer now (.remove other)).2 where
  held := by
    simp only [Keeper.answer, Shared.answer, Table.get?_erase_of_ne _ h.symm]
    exact holds.held
  armed := holds.armed

theorem insert (room : keeper.shared.capacity ≠ 0)
    (le : slot.entry.deadline ≤ now + slot.lifetime.nanos) :
    Holds key slot (keeper.answer now (.insert key slot)).2 where
  held := by
    simp only [Keeper.answer, Shared.answer, room, if_false, Table.get?_put_self]
  armed := ⟨_, Table.get?_put_self _ _ _, le⟩

theorem answer (holds : Holds key slot keeper) {call : Call} {found : Option Slot} {s : Step}
    (allowed : (honest call).allows (now, found) s) (unchanged : changes key call = false)
    (unremoved : s ≠ .remove key) : Holds key slot (keeper.answer now s).2 := by
  rcases s with _ | other | ⟨other, newer⟩ | other
  · exact ⟨holds.held, holds.armed⟩
  · exact ⟨holds.held, holds.armed⟩
  · obtain ⟨value, moment, rfl, -, -⟩ := allowed
    exact holds.insert_of_ne (of_decide_eq_false unchanged) newer
  · apply holds.remove_of_ne
    rintro rfl
    exact unremoved rfl

theorem step {crowd : Crowd} (holds : Holds key slot crowd.keeper) (honest : crowd.AllHonest)
    {turn : Turn} (spared : Spared key crowd turn)
    (unexpired : crowd.now < slot.entry.deadline) :
    Holds key slot (crowd.step turn).keeper := by
  cases turn with
  | arrive call => exact holds
  | step number dropped =>
    rcases crowd.step_cases number dropped with
      ⟨-, same⟩ | ⟨call, found, s, next, there, use, taken⟩
    · rwa [same]
    · rw [taken]
      exact (holds.sweep spared.fits unexpired dropped).answer
        (honest _ (List.mem_of_getElem? there)).1 (spared.untouched _ use) (spared.unremoved _ use)
  | pass duration => exact holds

end Holds

/-- In a turn, a call removes the entry of a key on account of a slot that it had found by an
earlier moment and that is over its deadline. -/
def Overtakes (key : String) (origin crowd : Crowd) (turn : Turn) : Prop :=
  ∃ number dropped, ∃ caller : Caller, ∃ older : Slot, turn = .step number dropped ∧
    origin.callers[number]? = some caller ∧ caller.found = some older ∧
    older.entry.deadline ≤ crowd.now ∧
    crowd.use? turn = some ⟨caller.call, some older, .remove key⟩

/-- What the calls about a key have found since an earlier moment is one slot. -/
def Fresh (key : String) (slot : Slot) (origin crowd : Crowd) : Prop :=
  ∀ (number : Nat) (caller : Caller), crowd.callers[number]? = some caller →
    caller.call.concerns key = true → caller.found = none ∨ caller.found = some slot ∨
      ∃ earlier : Caller, origin.callers[number]? = some earlier ∧ earlier.call = caller.call ∧
        earlier.found = caller.found

theorem fresh_self (key : String) (slot : Slot) (crowd : Crowd) : Fresh key slot crowd crowd :=
  fun _ caller there _ => .inr (.inr ⟨caller, there, rfl, rfl⟩)

section Overtaking

variable {key : String} {slot : Slot} {origin crowd : Crowd} {turn : Turn}

theorem Fresh.step (fresh : Fresh key slot origin crowd) (honest : crowd.AllHonest)
    (holds : Holds key slot crowd.keeper) (fits : crowd.keeper.Fits)
    (unexpired : crowd.now < slot.entry.deadline) (turn : Turn) :
    Fresh key slot origin (crowd.step turn) := by
  cases turn with
  | pass duration => exact fresh
  | arrive call =>
    intro number caller there about
    rcases Nat.lt_or_ge number crowd.callers.length with earlier | late
    · exact fresh number caller ((List.getElem?_append_left earlier).symm.trans there) about
    · have last : [(⟨call, none, (perform call).run⟩ : Caller)][number - crowd.callers.length]? =
          some caller := (List.getElem?_append_right late).symm.trans there
      obtain rfl := List.mem_singleton.mp (List.mem_of_getElem? last)
      exact .inl rfl
  | step other dropped =>
    rcases crowd.step_cases other dropped with ⟨-, same⟩ | ⟨call, found, s, next, there, -, taken⟩
    · rwa [same]
    rw [taken]
    intro number caller there' about
    by_cases own : number = other
    · obtain rfl := own
      have inside := (List.getElem?_eq_some_iff.mp there).1
      obtain rfl := Option.some.inj ((List.getElem?_set_self inside).symm.trans there')
      have before := fresh number _ there about
      rcases s with _ | looked | ⟨inserted, newer⟩ | removed
      case lookup =>
        obtain rfl := eq_of_concerns about (honest _ (List.mem_of_getElem? there)).1
        exact .inr (.inl (holds.sweep fits unexpired dropped).held)
      all_goals exact before
    · exact fresh number caller ((List.getElem?_set_ne (Ne.symm own)).symm.trans there') about

/-- The slot is only removed because of an older one. -/
theorem Fresh.spared (fresh : Fresh key slot origin crowd) (honest : crowd.AllHonest)
    (undisturbed : Undisturbed key crowd turn) (unexpired : crowd.now < slot.entry.deadline)
    (never : ¬ Overtakes key origin crowd turn) : Spared key crowd turn where
  toUndisturbed := undisturbed
  unremoved := by
    intro use taken removes
    cases turn with
    | arrive call => cases taken
    | pass duration => cases taken
    | step number dropped =>
      rcases crowd.step_cases number dropped with
        ⟨idle, -⟩ | ⟨call, found, s, next, there, used, -⟩
      · exact nomatch idle.symm.trans taken
      obtain rfl := Option.some.inj (used.symm.trans taken)
      obtain rfl : s = .remove key := removes
      obtain ⟨about, rfl | ⟨older, rfl, past⟩⟩ := (honest _ (List.mem_of_getElem? there)).1
      · exact of_decide_eq_false (undisturbed.untouched _ taken) rfl
      rcases fresh number _ there about with nothing | this | ⟨earlier, there', same, same'⟩
      · cases nothing
      · -- It has found this very slot, which is not over yet.
        obtain rfl := Option.some.inj this
        exact Nat.lt_irrefl _ (unexpired.trans_le past)
      · exact never ⟨number, dropped, earlier, older, rfl, there', same', past, same ▸ used⟩

/-- The table has nothing under the key once it has been overtaken. -/
theorem Overtakes.gone (overtakes : Overtakes key origin crowd turn) :
    (crowd.step turn).keeper.shared.slots.get? key = none := by
  obtain ⟨number, dropped, caller, older, rfl, -, -, -, removes⟩ := overtakes
  rcases crowd.step_cases number dropped with ⟨idle, -⟩ | ⟨call, found, s, next, -, used, taken⟩
  · exact nomatch idle.symm.trans removes
  obtain ⟨-, -, rfl⟩ := Use.mk.inj (Option.some.inj (used.symm.trans removes))
  rw [taken]
  exact Table.get?_erase_self _ _

theorem gone_step (honest : crowd.AllHonest) (untouched : Untouched key crowd turn)
    (gone : crowd.keeper.shared.slots.get? key = none) :
    (crowd.step turn).keeper.shared.slots.get? key = none := by
  cases turn with
  | arrive call => exact gone
  | pass duration => exact gone
  | step number dropped =>
    rcases crowd.step_cases number dropped with
      ⟨-, same⟩ | ⟨call, found, s, next, there, used, taken⟩
    · rwa [same]
    have swept : (crowd.keeper.sweep crowd.now dropped).shared.slots.get? key = none := by
      simp only [Keeper.sweep, Table.get?_without, gone, ite_self]
    rw [taken]
    rcases s with _ | looked | ⟨inserted, newer⟩ | removed
    · exact swept
    · exact swept
    · obtain ⟨value, moment, rfl, -, -⟩ := (honest _ (List.mem_of_getElem? there)).1
      have differs : inserted ≠ key := of_decide_eq_false (untouched _ used)
      simp only [Keeper.answer, Shared.answer]
      split
      · exact swept
      · exact (Table.get?_put_of_ne _ _ differs.symm).trans swept
    · by_cases same : key = removed
      · rw [same]
        exact Table.get?_erase_self _ _
      · exact (Table.get?_erase_of_ne _ same).trans swept

theorem gone_after {turns : List Turn} (honest : crowd.AllHonest)
    (undisturbed : crowd.Throughout (Undisturbed key) turns)
    (gone : crowd.keeper.shared.slots.get? key = none) :
    (crowd.after turns).keeper.shared.slots.get? key = none := by
  induction turns generalizing crowd with
  | nil => exact gone
  | cons turn turns ih =>
    exact ih (honest.step turn) undisturbed.2 (gone_step honest undisturbed.1.untouched gone)

theorem Fresh.throughout {turns : List Turn} (fresh : Fresh key slot origin crowd)
    (honest : crowd.AllHonest) (holds : Holds key slot crowd.keeper)
    (undisturbed : crowd.Throughout (Undisturbed key) turns)
    (unexpired : (crowd.after turns).now < slot.entry.deadline)
    (never : ∀ earlier turn rest, turns = earlier ++ turn :: rest →
      ¬ Overtakes key origin (crowd.after earlier) turn) :
    crowd.Throughout (Spared key) turns := by
  induction turns generalizing crowd with
  | nil => trivial
  | cons turn turns ih =>
    have ahead : crowd.now < slot.entry.deadline := (crowd.now_le_after _).trans_lt unexpired
    have spared := fresh.spared honest undisturbed.1 ahead (never [] turn turns rfl)
    have fits := undisturbed.1.fits
    refine ⟨spared, ih (fresh.step honest holds fits ahead turn) (honest.step turn)
      (holds.step honest spared ahead) undisturbed.2 unexpired ?_⟩
    rintro earlier next rest rfl
    exact never (turn :: earlier) next rest rfl

end Overtaking

theorem run_read (key : String) :
    (perform (.read key)).run = .ask (.lookup key) fun found : Option Slot =>
      match found with
      | none => .done (.ok none)
      | some slot => .ask .now fun moment : Nat =>
        if slot.entry.isLive moment then .done (.ok (some slot.entry.value))
        else .ask (.remove key) fun _ => .done (.ok none) := by
  change (liveEntry key).run.bind _ = _
  rw [run_liveEntry]
  change Dialogue.ask _ _ = _
  congr 1
  funext found
  rcases found with _ | slot
  · rfl
  · change Dialogue.ask _ _ = _
    congr 1
    funext moment
    cases isLive : slot.entry.isLive moment <;> simp only [isLive] <;> rfl

def readingOf (key : String) (slot : Slot) :
    (turns : Nat) → Dialogue signature (Except ClockOverflow (Option String))
  | 0 => (perform (.read key)).run
  | 1 => .ask .now fun moment : Nat =>
      if slot.entry.isLive moment then .done (.ok (some slot.entry.value))
      else .ask (.remove key) fun _ => .done (.ok none)
  | _ + 2 => .done (.ok (some slot.entry.value))

def Reads (key : String) (slot : Slot) (number turns : Nat) (crowd : Crowd) : Prop :=
  ∃ found, crowd.callers[number]? = some ⟨.read key, found, readingOf key slot turns⟩

namespace Reads

variable {key : String} {slot : Slot} {number turns : Nat} {crowd : Crowd}

theorem next (reads : Reads key slot number turns crowd) (holds : Holds key slot crowd.keeper)
    (fits : crowd.keeper.Fits) (unexpired : crowd.now < slot.entry.deadline)
    (dropped : String → Bool) :
    Reads key slot number (turns + 1) (crowd.step (.step number dropped)) := by
  obtain ⟨found, there⟩ := reads
  have inside : number < crowd.callers.length := (List.getElem?_eq_some_iff.mp there).1
  match turns with
  | 0 =>
    have swept := (holds.sweep fits unexpired dropped).held
    rw [readingOf, run_read] at there
    rw [Crowd.step_of_ask there]
    refine ⟨some slot, (List.getElem?_set_self inside).trans ?_⟩
    simp only [Keeper.answer, Shared.answer, swept]
    rfl
  | 1 =>
    rw [Crowd.step_of_ask there]
    refine ⟨found, (List.getElem?_set_self inside).trans ?_⟩
    have isLive : slot.entry.isLive crowd.now = true := decide_eq_true unexpired
    simp only [Keeper.answer, Shared.answer, isLive, if_true]
    rfl
  | turns + 2 =>
    rw [Crowd.step_of_done there]
    exact ⟨found, there⟩

theorem step_of_not_isOf (reads : Reads key slot number turns crowd) {turn : Turn}
    (other : turn.isOf number = false) : Reads key slot number turns (crowd.step turn) := by
  obtain ⟨found, there⟩ := reads
  cases turn with
  | arrive call =>
    exact ⟨found, (List.getElem?_append_left (List.getElem?_eq_some_iff.mp there).1).trans there⟩
  | step another dropped =>
    rcases crowd.step_cases another dropped with ⟨-, same⟩ | ⟨call, seen, s, next, -, -, taken⟩
    · rw [same]
      exact ⟨found, there⟩
    · rw [taken]
      have differs : another ≠ number := of_decide_eq_false other
      exact ⟨found, (List.getElem?_set_ne differs).trans there⟩
  | pass duration => exact ⟨found, there⟩

theorem step (reads : Reads key slot number turns crowd) (holds : Holds key slot crowd.keeper)
    (fits : crowd.keeper.Fits) (unexpired : crowd.now < slot.entry.deadline) (turn : Turn) :
    Reads key slot number (turns + if turn.isOf number then 1 else 0) (crowd.step turn) := by
  cases own : turn.isOf number with
  | false => exact reads.step_of_not_isOf own
  | true =>
    cases turn with
    | step other dropped =>
      obtain rfl : other = number := of_decide_eq_true own
      exact reads.next holds fits unexpired dropped
    | arrive call => cases own
    | pass duration => cases own

theorem arrive (crowd : Crowd) :
    Reads key slot crowd.callers.length 0 (crowd.step (.arrive (.read key))) :=
  ⟨none, List.getElem?_concat_length⟩

theorem returned (reads : Reads key slot number turns crowd) :
    (∀ value, crowd.returned? number = some value → value = some slot.entry.value) ∧
      (2 ≤ turns → crowd.returned? number = some (some slot.entry.value)) := by
  obtain ⟨found, there⟩ := reads
  match turns with
  | 0 =>
    rw [readingOf, run_read] at there
    refine ⟨?_, nofun⟩
    rw [Crowd.returned?, there]
    nofun
  | 1 =>
    refine ⟨?_, nofun⟩
    rw [Crowd.returned?, there]
    nofun
  | turns + 2 =>
    rw [Crowd.returned?, there]
    exact ⟨fun value h => (Option.some.inj h).symm, fun _ => rfl⟩

end Reads

/-- A run in which a caller takes a step, the one that counts: what happens on an empty table
before it, and what happens after it. -/
structure Story where
  capacity : Nat
  start : Nat
  before : List Turn
  number : Nat
  dropped : String → Bool
  later : List Turn

namespace Story

variable (story : Story)

def inserting : Crowd := (Crowd.opening story.capacity story.start).after story.before

def inserted : Crowd := story.inserting.step (.step story.number story.dropped)

def ending : Crowd := story.inserted.after story.later

def Inserts (key value : String) (lifetime : Duration) (slot : Slot) : Prop :=
  ∃ found, story.inserting.callers[story.number]? =
    some ⟨.write key value lifetime, found, .ask (.insert key slot) fun _ => .done (.ok ())⟩

/-- What was written is there in the end, and every reading of it that began after the write
returns it, in two turns of its own. -/
structure Keeps (key value : String) (slot : Slot) : Prop where
  held : story.ending.keeper.shared.slots.get? key = some slot
  read : ∀ earlier rest, story.later = earlier ++ .arrive (.read key) :: rest →
    let number := (story.inserted.after earlier).callers.length
    (∀ got, story.ending.returned? number = some got → got = some value) ∧
      (2 ≤ rest.countP (Turn.isOf number) →
        story.ending.returned? number = some (some value))

/-- A call removes the entry of a key after the write, because of an older one that it had found
before. -/
def Overtaken (key : String) : Prop :=
  ∃ earlier turn rest, story.later = earlier ++ turn :: rest ∧
    Overtakes key story.inserted (story.inserted.after earlier) turn

/-- A write lasts until its deadline where there is room for it, unless another write or a deletion
of its key goes on. -/
def Lasts : Prop :=
  ∀ key value lifetime slot, story.capacity ≠ 0 → story.Inserts key value lifetime slot →
    story.inserted.Throughout (Undisturbed key) story.later →
      story.ending.now < slot.entry.deadline → story.Keeps key value slot

end Story

/-- A slot that the table holds in a run in which it is spared. -/
structure Kept (key : String) (slot : Slot) (crowd : Crowd) (turns : List Turn) : Prop where
  honest : crowd.AllHonest
  holds : Holds key slot crowd.keeper
  spared : crowd.Throughout (Spared key) turns
  unexpired : (crowd.after turns).now < slot.entry.deadline

namespace Kept

variable {key : String} {slot : Slot} {crowd : Crowd} {turn : Turn} {turns earlier : List Turn}

theorem now_lt (kept : Kept key slot crowd turns) : crowd.now < slot.entry.deadline :=
  (crowd.now_le_after turns).trans_lt kept.unexpired

theorem step (kept : Kept key slot crowd (turn :: turns)) :
    Kept key slot (crowd.step turn) turns where
  honest := kept.honest.step turn
  holds := kept.holds.step kept.honest kept.spared.1 kept.now_lt
  spared := kept.spared.2
  unexpired := kept.unexpired

theorem after (kept : Kept key slot crowd (earlier ++ turns)) :
    Kept key slot (crowd.after earlier) turns := by
  induction earlier generalizing crowd with
  | nil => exact kept
  | cons turn earlier ih => exact ih kept.step

theorem reads {number n : Nat} (kept : Kept key slot crowd turns)
    (reads : Reads key slot number n crowd) :
    Reads key slot number (n + turns.countP (Turn.isOf number)) (crowd.after turns) := by
  induction turns generalizing crowd n with
  | nil => exact reads
  | cons turn turns ih =>
    have next := reads.step kept.holds kept.spared.1.fits kept.now_lt turn
    have rest := ih kept.step next
    rwa [Nat.add_assoc, Nat.add_comm _ (turns.countP _), ← List.countP_cons] at rest

end Kept

namespace Story

variable {story : Story} {key value : String} {lifetime : Duration} {slot : Slot}

theorem ending_of_split {earlier rest : List Turn} {turn : Turn}
    (split : story.later = earlier ++ turn :: rest) :
    story.ending = ((story.inserted.after earlier).step turn).after rest := by
  rw [ending, split, Crowd.after, List.foldl_append]
  rfl

theorem allHonest_inserting (story : Story) : story.inserting.AllHonest :=
  (Crowd.allHonest_opening story.capacity story.start).after story.before

theorem slot_of_inserts (inserts : story.Inserts key value lifetime slot) :
    ∃ moment ≤ story.inserting.now, slot = ⟨⟨value, moment + lifetime.nanos⟩, lifetime⟩ := by
  obtain ⟨found, there⟩ := inserts
  obtain ⟨_, moment, ⟨⟩, le, entry⟩ := (story.allHonest_inserting _ (List.mem_of_getElem? there)).1
  exact ⟨moment, le, congrArg (Slot.mk · slot.lifetime) entry⟩

theorem holds_inserted (room : story.capacity ≠ 0)
    (inserts : story.Inserts key value lifetime slot) :
    Holds key slot story.inserted.keeper := by
  obtain ⟨moment, le, same⟩ := slot_of_inserts inserts
  obtain ⟨found, there⟩ := inserts
  have armed : slot.entry.deadline ≤ story.inserting.now + slot.lifetime.nanos := by
    rw [same]
    exact Nat.add_le_add_right le _
  rw [inserted, Crowd.step_of_ask there]
  exact Holds.insert ((Crowd.capacity_after _ _).trans_ne room) armed

/-- A slot that is spared is there in the end, and for every reading on the way. -/
theorem keeps_of_kept (kept : Kept key slot story.inserted story.later) :
    story.Keeps key slot.entry.value slot where
  held := by
    rw [← List.append_nil story.later] at kept
    exact kept.after.holds.held
  read := by
    intro earlier rest split
    rw [split] at kept
    have reads := kept.after.step.reads (Reads.arrive _)
    rw [Nat.zero_add] at reads
    rw [ending_of_split split]
    exact reads.returned

/-- Once it has been overtaken, nothing is left of a write. -/
theorem gone_of_overtaken (undisturbed : story.inserted.Throughout (Undisturbed key) story.later)
    (overtaken : story.Overtaken key) : story.ending.keeper.shared.slots.get? key = none := by
  obtain ⟨earlier, turn, rest, split, overtakes⟩ := overtaken
  rw [split] at undisturbed
  have honest : (story.inserted.after earlier).AllHonest :=
    (story.allHonest_inserting.step (.step story.number story.dropped)).after earlier
  rw [ending_of_split split]
  exact gone_after (honest.step turn) undisturbed.after.2 overtakes.gone

/-- What a write has inserted stays until its deadline, and every reading that begins after it
returns it, whatever the callers and the table do in between, exactly if no reading removes it that
had found an older entry before, one that is over its deadline. Where one does, nothing is left. -/
theorem keeps_iff_not_overtaken (room : story.capacity ≠ 0)
    (inserts : story.Inserts key value lifetime slot)
    (undisturbed : story.inserted.Throughout (Undisturbed key) story.later)
    (unexpired : story.ending.now < slot.entry.deadline) :
    (∃ moment ≤ story.inserting.now, slot = ⟨⟨value, moment + lifetime.nanos⟩, lifetime⟩) ∧
      (story.Keeps key value slot ↔ ¬ story.Overtaken key) ∧
      (story.Overtaken key → story.ending.keeper.shared.slots.get? key = none) := by
  have shape := slot_of_inserts inserts
  have gone := gone_of_overtaken undisturbed
  refine ⟨shape, ⟨?_, ?_⟩, gone⟩
  · intro keeps overtaken
    exact nomatch keeps.held.symm.trans (gone overtaken)
  · intro never
    have honest := story.allHonest_inserting.step (.step story.number story.dropped)
    have holds := holds_inserted room inserts
    have spared := (fresh_self key slot story.inserted).throughout honest holds undisturbed
      unexpired fun earlier turn rest split overtakes =>
        never ⟨earlier, turn, rest, split, overtakes⟩
    obtain ⟨moment, -, rfl⟩ := shape
    exact keeps_of_kept ⟨honest, holds, spared, unexpired⟩

/-- A write in the middle of other calls: an old entry of its key runs out and is removed by a
reading, another caller asks whether the entry exists, and the table drops whatever it may. -/
def crowded : Story where
  capacity := 2
  start := 0
  before := [.arrive (.write "a" "old" ⟨5⟩), .step 0 fun _ => false, .step 0 fun _ => false,
    .arrive (.read "a"), .pass ⟨5⟩, .step 1 fun _ => false, .step 1 fun _ => true,
    .arrive (.write "a" "new" ⟨60⟩), .step 2 fun _ => true, .step 1 fun _ => true,
    .arrive (.contains "a"), .pass ⟨7⟩]
  number := 2
  dropped _ := true
  later := [.step 3 fun _ => true, .arrive (.read "a"), .pass ⟨50⟩, .step 4 fun _ => true,
    .step 3 fun _ => true, .step 4 fun _ => true]

theorem keeps_of_crowded :
    (crowded.capacity ≠ 0 ∧ crowded.Inserts "a" "new" ⟨60⟩ ⟨⟨"new", 65⟩, ⟨60⟩⟩ ∧
      crowded.inserted.Throughout (Undisturbed "a") crowded.later ∧ crowded.ending.now < 65) ∧
    ¬ crowded.Overtaken "a" ∧ crowded.Keeps "a" "new" ⟨⟨"new", 65⟩, ⟨60⟩⟩ ∧
      crowded.ending.returned? 4 = some (some "new") := by
  have room : crowded.capacity ≠ 0 := by decide
  have inserts : crowded.Inserts "a" "new" ⟨60⟩ ⟨⟨"new", 65⟩, ⟨60⟩⟩ := ⟨none, rfl⟩
  have undisturbed : crowded.inserted.Throughout (Undisturbed "a") crowded.later := by
    decide +kernel
  have unexpired : crowded.ending.now < 65 := by decide +kernel
  have never : ¬ crowded.Overtaken "a" := by
    intro overtaken
    have gone := gone_of_overtaken undisturbed overtaken
    have held : crowded.ending.keeper.shared.slots.get? "a" ≠ none := by decide +kernel
    exact held gone
  have keeps := (keeps_iff_not_overtaken room inserts undisturbed unexpired).2.1.mpr never
  exact ⟨⟨room, inserts, undisturbed, unexpired⟩, never, keeps,
    (keeps.read [.step 3 fun _ => true] _ rfl).2 (by decide +kernel)⟩

/-- A reading that has found an old entry over its deadline, and removes it after a new one has been
written. The next reading finds nothing. -/
def overtaken : Story where
  capacity := 2
  start := 0
  before := [.arrive (.write "a" "old" ⟨5⟩), .step 0 fun _ => false, .step 0 fun _ => false,
    .pass ⟨5⟩, .arrive (.read "a"), .step 1 fun _ => false, .step 1 fun _ => false,
    .arrive (.write "a" "new" ⟨60⟩), .step 2 fun _ => false]
  number := 2
  dropped _ := false
  later := [.step 1 fun _ => false, .arrive (.read "a"), .step 3 fun _ => false,
    .step 3 fun _ => false]

/-- A write need not last where there is room for it and nobody else writes or deletes: a reading
that had found the entry before undoes it, and the next reading finds nothing. -/
theorem not_lasts_overtaken : ¬ overtaken.Lasts ∧ overtaken.ending.returned? 3 = some none := by
  have missed : overtaken.ending.returned? 3 = some none := by decide +kernel
  refine ⟨?_, missed⟩
  intro lasts
  have keeps := lasts "a" "new" ⟨60⟩ ⟨⟨"new", 65⟩, ⟨60⟩⟩ (by decide) ⟨none, rfl⟩ (by decide +kernel)
    (by decide +kernel)
  have returned := (keeps.read [.step 1 fun _ => false] _ rfl).1 none missed
  cases returned

end Story

end QuoteGateway.Cache.InMemory
