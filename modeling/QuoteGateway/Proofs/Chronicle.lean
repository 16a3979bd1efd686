import Mathlib.Logic.Function.Basic
import QuoteGateway.Proofs.Admission
import QuoteGateway.Proofs.Charge
import QuoteGateway.Proofs.Interleaving

/-!
# What requests in flight have heard

Every request is kept with the exchanges that it has had so far, on a cache that may hold anything
at the start. However requests overlap, each of them goes on as its course would from what it has
heard, so what it writes is made from the log that its own gate admitted.
-/

namespace QuoteGateway

open Cache (TimedMap)

theorem Dialogue.exists_course {α : Type} (d : Dialogue gatewaySignature α) :
    ∃ exchanges a, d.Course exchanges a := by
  induction d with
  | done a => exact ⟨[], a, rfl, rfl⟩
  | ask call next ih =>
    obtain ⟨rest, a, later⟩ := ih (.error .missingApiKey)
    exact ⟨_, a, _, rest, rfl, later⟩
  | tell event next ih => exact ih

/-- The work that is left of a request goes on from what the request has heard. -/
def GoesOn (policy : QuotePolicy) (inquiry : Inquiry) (heard : List (Exchange gatewaySignature))
    (work : Dialogue gatewaySignature (Except Failure QuoteResponse)) : Prop :=
  ∀ rest result, work.Course rest result →
    Job.Course (policy.answer inquiry.id inquiry.pairs inquiry.now) (heard ++ rest) result

section GoesOn

variable {policy : QuotePolicy} {inquiry : Inquiry} {heard : List (Exchange gatewaySignature)}

theorem GoesOn.start : GoesOn policy inquiry []
    (policy.answer inquiry.id inquiry.pairs inquiry.now).run := fun _ _ course => course

theorem GoesOn.ask {call : gatewaySignature.Call}
    {next : gatewaySignature.Answer call → Dialogue gatewaySignature (Except Failure QuoteResponse)}
    (goesOn : GoesOn policy inquiry heard (.ask call next))
    (answer : gatewaySignature.Answer call) :
    GoesOn policy inquiry (heard ++ [⟨call, answer⟩]) (next answer) := by
  intro rest result course
  rw [List.append_assoc]
  exact goesOn _ result ⟨answer, rest, rfl, course⟩

/-- A request looks up what it needs, and all that it writes is the log that it was admitted
with, with itself in it. -/
theorem GoesOn.idle_or_charge {call : gatewaySignature.Call}
    {next : gatewaySignature.Answer call → Dialogue gatewaySignature (Except Failure QuoteResponse)}
    (goesOn : GoesOn policy inquiry heard (.ask call next))
    (answer : gatewaySignature.Answer call) :
    Exchange.Idle ⟨call, answer⟩ ∨
      ∃ admitted gate, call = policy.charge inquiry admitted ∧ gate <+: heard ∧
        Job.Course (Gate.authorize policy.limit inquiry.id inquiry.now) gate (.ok admitted) := by
  obtain ⟨rest, result, course⟩ := (next answer).exists_course
  have whole := goesOn.ask answer rest result course
  rw [List.append_assoc, List.singleton_append] at whole
  rcases QuotePolicy.course_answer whole with
    ⟨failure, -, idle⟩ | ⟨admitted, response, last, gate, hits, -, served⟩
  · exact .inl (idle _ (by simp))
  have order := served.order
  rcases rest.eq_nil_or_concat' with rfl | ⟨init, final, rfl⟩
  · -- The question is the last one of the request.
    obtain ⟨before, final⟩ := List.append_inj' order rfl
    obtain ⟨rfl, -⟩ := Exchange.mk.inj (List.singleton_inj.mp final)
    exact .inr ⟨admitted, gate, rfl, before ▸ List.prefix_append _ _, served.admitted⟩
  · left
    rw [← List.cons_append, ← List.append_assoc] at order
    have before := (List.append_inj' order rfl).1
    exact .inl (served.looks _ (before ▸ List.mem_append_right _ List.mem_cons_self))

theorem GoesOn.charge_of_write {key value : String} {lifetime : Duration}
    {next : gatewaySignature.Answer (.cache (.write key value lifetime)) →
      Dialogue gatewaySignature (Except Failure QuoteResponse)}
    (goesOn : GoesOn policy inquiry heard (.ask (.cache (.write key value lifetime)) next)) :
    ∃ admitted gate, .cache (.write key value lifetime) = policy.charge inquiry admitted ∧
      gate <+: heard ∧
      Job.Course (Gate.authorize policy.limit inquiry.id inquiry.now) gate (.ok admitted) := by
  rcases goesOn.idle_or_charge (.ok ()) with (looks | ⟨failure, fails⟩) | charged
  · cases looks
  · cases fails
  · exact charged

end GoesOn

theorem Exchange.entry_of_effect {now : Nat} {map : TimedMap}
    {exchange : Exchange gatewaySignature} {key : String} {entry : Cache.Entry}
    (h : (Exchange.effect now map exchange).entries.get? key = some entry) :
    map.entries.get? key = some entry ∨
      ∃ lifetime, exchange.call = .cache (.write key entry.value lifetime) := by
  obtain ⟨call, answer⟩ := exchange
  rcases call with (other | ⟨other, value, lifetime⟩ | other | other | other | _) | id | _ | bases
  all_goals rcases answer with failure | answer
  case cache.write.ok =>
    by_cases same : key = other
    · subst same
      right
      rw [effect, TimedMap.answer, TimedMap.put, Table.get?_put_self] at h
      cases h
      exact ⟨lifetime, rfl⟩
    · left
      rwa [effect, TimedMap.answer, TimedMap.put, Table.get?_put_of_ne _ _ same] at h
  case cache.delete.ok =>
    left
    by_cases same : key = other
    · subst same
      rw [effect, TimedMap.answer, TimedMap.erase, Table.get?_erase_self] at h
      cases h
    · rwa [effect, TimedMap.answer, TimedMap.erase, Table.get?_erase_of_ne _ same] at h
  all_goals exact .inl h

namespace Move

def begun : Move → List Inquiry
  | .begin inquiry => [inquiry]
  | _ => []

/-- A move lets only the latest request go on, and a request begin no earlier than those before. -/
def TakesTurn (earlier : List Inquiry) : Move → Prop
  | .begin inquiry => ∀ other ∈ earlier, other.now.seconds ≤ inquiry.now.seconds
  | .proceed number _ => number + 1 = earlier.length
  | _ => True

/-- Requests are made one after the other, on a clock that does not go back. -/
def InTurn : List Inquiry → List Move → Prop
  | _, [] => True
  | earlier, move :: moves => move.TakesTurn earlier ∧ InTurn (earlier ++ move.begun) moves

end Move

namespace Yard

variable {policy : QuotePolicy} {yard : Yard}

def inquiries (yard : Yard) : List Inquiry := yard.tasks.map Task.inquiry

def writing (yard : Yard) (number : Nat) : Option (String × String) :=
  match yard.tasks[number]? with
  | some ⟨_, some (.ask (.cache (.write key value _)) _)⟩ => some (key, value)
  | _ => none

def exchange (yard : Yard) (number : Nat) (c : Circumstances) : List (Exchange gatewaySignature) :=
  match yard.tasks[number]? with
  | some ⟨_, some (.ask call _)⟩ => [⟨call, (c.respond yard.now call ⟨0, yard.map⟩).1⟩]
  | _ => []

theorem getElem?_inquiries {number : Nat} {task : Task} (found : yard.tasks[number]? = some task) :
    yard.inquiries[number]? = some task.inquiry := by
  rw [inquiries, List.getElem?_map, found, Option.map_some]

theorem map_inquiry_set {tasks : List Task} {number : Nat} {task : Task}
    (found : tasks[number]? = some task)
    (work : Option (Dialogue gatewaySignature (Except Failure QuoteResponse))) :
    (tasks.set number ⟨task.inquiry, work⟩).map Task.inquiry = tasks.map Task.inquiry := by
  apply List.ext_getElem?
  intro other
  rw [List.getElem?_map, List.getElem?_map, List.getElem?_set]
  by_cases same : number = other
  · subst same
    rw [if_pos rfl, if_pos (List.getElem?_eq_some_iff.mp found).1, found, Option.map_some,
      Option.map_some]
  · rw [if_neg same]

theorem task_of_writing {number : Nat} {key value : String}
    (h : yard.writing number = some (key, value)) :
    ∃ inquiry lifetime next, yard.tasks[number]? =
      some ⟨inquiry, some (.ask (.cache (.write key value lifetime)) next)⟩ := by
  unfold writing at h
  split at h
  · rename_i inquiry key value lifetime next found
    cases h
    exact ⟨inquiry, lifetime, next, found⟩
  · cases h

theorem inquiries_step (move : Move) :
    (yard.step policy move).inquiries = yard.inquiries ++ move.begun := by
  cases move with
  | begin inquiry => simp [step, inquiries, Move.begun]
  | proceed number c =>
    refine Eq.trans ?_ (List.append_nil _).symm
    rw [step, proceed]
    split
    · rename_i inquiry call next found
      exact map_inquiry_set found _
    · rename_i inquiry event next found
      exact map_inquiry_set found _
    · rfl
  | drop number =>
    refine Eq.trans ?_ (List.append_nil _).symm
    rw [step, drop]
    split
    · rename_i task found
      exact map_inquiry_set found _
    · rfl
  | pass duration => exact (List.append_nil _).symm
  | expire key => exact (List.append_nil _).symm
  | publish base target value lifetime => exact (List.append_nil _).symm

theorem inquiries_after (moves : List Move) :
    (yard.after policy moves).inquiries = yard.inquiries ++ moves.flatMap Move.begun := by
  induction moves generalizing yard with
  | nil => exact (List.append_nil _).symm
  | cons move moves ih =>
    rw [List.flatMap_cons, ← List.append_assoc, ← inquiries_step]
    exact ih

/-- A log that is in the cache after a move was there before, or a request has just written it. -/
theorem entry_of_step {move : Move} {id : String} {entry : Cache.Entry}
    (h : (yard.step policy move).map.entries.get? (CacheKey.ofApiKey id) = some entry) :
    yard.map.entries.get? (CacheKey.ofApiKey id) = some entry ∨
      ∃ number c inquiry lifetime next, move = .proceed number c ∧
        yard.tasks[number]? = some ⟨inquiry,
          some (.ask (.cache (.write (CacheKey.ofApiKey id) entry.value lifetime)) next)⟩ := by
  cases move with
  | begin inquiry => exact .inl h
  | proceed number c =>
    rw [step, proceed] at h
    split at h
    · rename_i inquiry call next found
      simp only [Circumstances.respond_map] at h
      rcases Exchange.entry_of_effect h with there | ⟨lifetime, written⟩
      · exact .inl there
      · simp only at written
        subst written
        exact .inr ⟨number, c, inquiry, lifetime, next, rfl, found⟩
    · exact .inl h
    · exact .inl h
  | drop number =>
    rw [step, drop] at h
    split at h <;> exact .inl h
  | pass duration => exact .inl h
  | expire key =>
    left
    by_cases same : CacheKey.ofApiKey id = key
    · subst same
      rw [step, TimedMap.erase, Table.get?_erase_self] at h
      cases h
    · rwa [step, TimedMap.erase, Table.get?_erase_of_ne _ same] at h
  | publish base target value lifetime =>
    left
    rwa [step, TimedMap.put,
      Table.get?_put_of_ne _ _ (CacheKey.ofApiKey_ne_ofRate id base target)] at h

end Yard

/-- A yard, and what each of its requests has exchanged with its surroundings so far. -/
structure Chronicle where
  yard : Yard
  heard : Nat → List (Exchange gatewaySignature)

namespace Chronicle

variable {policy : QuotePolicy}

def opening (now : Nat) (map : TimedMap) : Chronicle := ⟨.opening now map, fun _ => []⟩

def heardAfter (chronicle : Chronicle) : Move → Nat → List (Exchange gatewaySignature)
  | .proceed number c => Function.update chronicle.heard number
      (chronicle.heard number ++ chronicle.yard.exchange number c)
  | _ => chronicle.heard

def step (policy : QuotePolicy) (chronicle : Chronicle) (move : Move) : Chronicle :=
  ⟨chronicle.yard.step policy move, chronicle.heardAfter move⟩

def after (policy : QuotePolicy) (chronicle : Chronicle) (moves : List Move) : Chronicle :=
  moves.foldl (step policy) chronicle

theorem yard_step (chronicle : Chronicle) (move : Move) :
    (chronicle.step policy move).yard = chronicle.yard.step policy move := rfl

theorem heard_step (chronicle : Chronicle) (move : Move) :
    (chronicle.step policy move).heard = chronicle.heardAfter move := rfl

theorem yard_after (chronicle : Chronicle) (moves : List Move) :
    (chronicle.after policy moves).yard = chronicle.yard.after policy moves := by
  induction moves generalizing chronicle with
  | nil => rfl
  | cons move moves ih => exact ih (chronicle.step policy move)

theorem exists_heardAfter (chronicle : Chronicle) (move : Move) (number : Nat) :
    ∃ more, chronicle.heardAfter move number = chronicle.heard number ++ more := by
  cases move with
  | proceed other c =>
    by_cases same : number = other
    · subst same
      exact ⟨_, Function.update_self _ _ _⟩
    · exact ⟨[], (Function.update_of_ne same _ _).trans (List.append_nil _).symm⟩
  | _ => exact ⟨[], (List.append_nil _).symm⟩

end Chronicle

/-- Every request in flight goes on from what it has heard. -/
structure Traced (policy : QuotePolicy) (chronicle : Chronicle) : Prop where
  unheard : ∀ number, chronicle.yard.inquiries.length ≤ number → chronicle.heard number = []
  goesOn : ∀ number inquiry work, chronicle.yard.tasks[number]? = some ⟨inquiry, some work⟩ →
    GoesOn policy inquiry (chronicle.heard number) work

namespace Traced

variable {policy : QuotePolicy} {chronicle : Chronicle}

theorem opening (now : Nat) (map : TimedMap) : Traced policy (.opening now map) where
  unheard := fun _ _ => rfl
  goesOn := by
    intro number inquiry work found
    cases found

theorem unheard_step (traced : Traced policy chronicle) (move : Move) {number : Nat}
    (beyond : (chronicle.step policy move).yard.inquiries.length ≤ number) :
    (chronicle.step policy move).heard number = [] := by
  rw [Chronicle.yard_step, Yard.inquiries_step, List.length_append] at beyond
  have earlier : chronicle.yard.inquiries.length ≤ number := by omega
  have unheard := traced.unheard number earlier
  rw [Chronicle.heard_step]
  cases move with
  | proceed other c =>
    rw [Chronicle.heardAfter]
    by_cases same : number = other
    · subst same
      rw [Yard.inquiries, List.length_map] at earlier
      rw [Function.update_self, unheard, Yard.exchange, List.getElem?_eq_none earlier]
      rfl
    · rw [Function.update_of_ne same, unheard]
  | _ => exact unheard

theorem goesOn_proceed (traced : Traced policy chronicle) (number : Nat) (c : Circumstances)
    {other : Nat} {inquiry : Inquiry}
    {work : Dialogue gatewaySignature (Except Failure QuoteResponse)}
    (found : (chronicle.yard.proceed number c).tasks[other]? = some ⟨inquiry, some work⟩) :
    GoesOn policy inquiry (chronicle.heardAfter (.proceed number c) other) work := by
  rw [Yard.proceed] at found
  rw [Chronicle.heardAfter]
  by_cases same : other = number
  · subst same
    rw [Function.update_self, Yard.exchange]
    split at found
    · rename_i asker call next pending
      rw [pending]
      rw [List.getElem?_set_self (List.getElem?_eq_some_iff.mp pending).1] at found
      cases found
      exact (traced.goesOn _ _ _ pending).ask _
    · rename_i asker event next pending
      rw [pending]
      rw [List.getElem?_set_self (List.getElem?_eq_some_iff.mp pending).1] at found
      cases found
      rw [List.append_nil]
      exact (traced.goesOn _ _ _ pending : GoesOn _ _ _ (.tell event work))
    · rename_i unasked _
      have goesOn := traced.goesOn _ _ _ found
      rw [found]
      cases work with
      | ask call next => exact absurd found (unasked _ call next)
      | _ => rwa [List.append_nil]
  · rw [Function.update_of_ne same]
    apply traced.goesOn
    split at found
    · rwa [List.getElem?_set_ne (Ne.symm same)] at found
    · rwa [List.getElem?_set_ne (Ne.symm same)] at found
    · exact found

theorem goesOn_step (traced : Traced policy chronicle) (move : Move) {number : Nat}
    {inquiry : Inquiry} {work : Dialogue gatewaySignature (Except Failure QuoteResponse)}
    (found : (chronicle.step policy move).yard.tasks[number]? = some ⟨inquiry, some work⟩) :
    GoesOn policy inquiry ((chronicle.step policy move).heard number) work := by
  rw [Chronicle.yard_step] at found
  cases move with
  | begin begun =>
    rw [Yard.step, List.getElem?_append] at found
    split at found
    · exact traced.goesOn _ _ _ found
    · rename_i beyond
      have unheard := traced.unheard number (by simpa [Yard.inquiries] using beyond)
      change GoesOn policy inquiry (chronicle.heard number) work
      rw [unheard]
      rw [List.getElem?_singleton] at found
      split at found
      · cases found
        exact .start
      · cases found
  | proceed other c => exact traced.goesOn_proceed other c found
  | drop other =>
    rw [Yard.step, Yard.drop] at found
    split at found
    · rw [List.getElem?_set] at found
      split at found
      · split at found <;> cases found
      · exact traced.goesOn _ _ _ found
    · exact traced.goesOn _ _ _ found
  | pass duration => exact traced.goesOn _ _ _ found
  | expire key => exact traced.goesOn _ _ _ found
  | publish base target value lifetime => exact traced.goesOn _ _ _ found

theorem step (traced : Traced policy chronicle) (move : Move) :
    Traced policy (chronicle.step policy move) where
  unheard := fun _ => traced.unheard_step move
  goesOn := fun _ _ _ => traced.goesOn_step move

theorem after (traced : Traced policy chronicle) (moves : List Move) :
    Traced policy (chronicle.after policy moves) := by
  induction moves generalizing chronicle with
  | nil => exact traced
  | cons move moves ih => exact ih (traced.step move)

end Traced

end QuoteGateway
