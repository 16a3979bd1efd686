import Mathlib.Algebra.Order.Group.Multiset
import Mathlib.Data.Finset.Card
import QuoteGateway.Proofs.CacheKeys
import QuoteGateway.Proofs.Contract
import QuoteGateway.Proofs.QuotaText

/-!
# Requests at the same time

Any number of requests are in flight, and their questions are answered one at a time in any order.
A log that is read may be old when it is written back, so requests can be forgotten. None is ever
made up: a request is refused only if enough others have been recorded.
-/

namespace QuoteGateway

open Cache (TimedMap)

/-- A request in flight, with the work that is left of it unless it was dropped. -/
structure Task where
  inquiry : Inquiry
  work : Option (Dialogue gatewaySignature (Except Failure QuoteResponse))

/-- The requests begun so far, by number, on one cache. The requests whose usage has been written
to the cache are kept with their numbers. -/
structure Yard where
  now : Nat
  map : TimedMap
  tasks : List Task
  recorded : List (Nat × Inquiry)

/-- What happens between two answers. A request that is dropped after its last question has taken
effect first proceeds and then is dropped. -/
inductive Move where
  | begin (inquiry : Inquiry)
  | proceed (number : Nat) (c : Circumstances)
  | drop (number : Nat)
  | pass (duration : Duration)
  | expire (key : String)
  | publish (base target value : String) (lifetime : Duration)

def written : (call : gatewaySignature.Call) → gatewaySignature.Answer call → Bool
  | .cache (.write _ _ _), answer => Except.isOk answer
  | _, _ => false

namespace Yard

def opening (now : Nat) (map : TimedMap) : Yard := ⟨now, map, [], []⟩

def proceed (yard : Yard) (number : Nat) (c : Circumstances) : Yard :=
  match yard.tasks[number]? with
  | some ⟨inquiry, some (.ask call next)⟩ =>
    let reply := c.respond yard.now call ⟨0, yard.map⟩
    { yard with
      map := reply.2.map
      tasks := yard.tasks.set number ⟨inquiry, some (next reply.1)⟩
      recorded := yard.recorded ++ if written call reply.1 then [(number, inquiry)] else [] }
  | some ⟨inquiry, some (.tell _ next)⟩ =>
    { yard with tasks := yard.tasks.set number ⟨inquiry, some next⟩ }
  | _ => yard

def drop (yard : Yard) (number : Nat) : Yard :=
  match yard.tasks[number]? with
  | some task => { yard with tasks := yard.tasks.set number ⟨task.inquiry, none⟩ }
  | none => yard

def step (policy : QuotePolicy) (yard : Yard) : Move → Yard
  | .begin inquiry =>
    let work := (policy.answer inquiry.id inquiry.pairs inquiry.now).run
    { yard with tasks := yard.tasks ++ [⟨inquiry, some work⟩] }
  | .proceed number c => yard.proceed number c
  | .drop number => yard.drop number
  | .pass duration => { yard with now := yard.now + duration.nanos }
  | .expire key => { yard with map := yard.map.erase key }
  | .publish base target value lifetime =>
    { yard with map := yard.map.put yard.now (CacheKey.ofRate base target) value lifetime }

def after (policy : QuotePolicy) (yard : Yard) (moves : List Move) : Yard :=
  moves.foldl (step policy) yard

def ledger (yard : Yard) (id : String) : Multiset Int :=
  ((yard.recorded.filter fun row => row.2.id = id).map fun row => row.2.now.seconds : List Int)

def numbers (yard : Yard) : List Nat := yard.recorded.map (·.1)

end Yard

/-- A log that only holds requests from a ledger of its key. -/
def Attributed (id : String) (ledger : Multiset Int) (state : QuotaState) : Prop :=
  state.apiKeyId = id ∧ (state.seconds : Multiset Int) ≤ ledger

theorem Attributed.later {id : String} (ledger more : Multiset Int) (state : QuotaState)
    (h : ledger ≤ more) (attributed : Attributed id ledger state) : Attributed id more state :=
  ⟨attributed.1, attributed.2.trans h⟩

/-- A log with one more request is attributed to the ledger with that request. -/
theorem Attributed.record {id : String} {ledger : Multiset Int} {state : QuotaState}
    (attributed : Attributed id ledger state) (t : Calendar.Instant) (start : Int64) :
    Attributed id (ledger + {t.seconds}) (state.record t.unixSeconds start) := by
  refine ⟨attributed.1, ?_⟩
  rw [QuotaState.seconds, QuotaState.usages_record, List.map_append, ← Multiset.coe_add]
  apply add_le_add
  · refine le_trans ?_ attributed.2
    rw [Multiset.coe_le]
    exact (List.filter_sublist.map _).subperm
  · rw [List.map_singleton, Calendar.Instant.toInt_unixSeconds]
    rfl

/-- The contract of a request in flight: what it knows is the ledger of its key. -/
def inFlight (policy : QuotePolicy) (inquiry : Inquiry) :
    Contract gatewaySignature (Multiset Int × Bool) :=
  requestContract policy.limit inquiry (Attributed inquiry.id)

/-- How a request may end: a refusal has written nothing and is covered by the ledger. -/
def Covered (policy : QuotePolicy) (inquiry : Inquiry) (s : Multiset Int × Bool)
    (result : Except Failure QuoteResponse) : Prop :=
  Refused result → s.2 = false ∧ ∃ state, Attributed inquiry.id s.1 state ∧
    state.exceeds policy.limit inquiry.now = true

theorem keeps_inFlight (policy : QuotePolicy) (inquiry : Inquiry) (ledger : Multiset Int) :
    Dialogue.Keeps (inFlight policy inquiry) (Covered policy inquiry)
      (policy.answer inquiry.id inquiry.pairs inquiry.now).run (ledger, false) :=
  keeps_answer Attributed.later (fun _ _ attributed => attributed.1) rfl

theorem inFlight_later {policy : QuotePolicy} {inquiry : Inquiry}
    {work : Dialogue gatewaySignature (Except Failure QuoteResponse)} {ledger more : Multiset Int}
    {flag : Bool} (h : ledger ≤ more)
    (keeps : work.Keeps (inFlight policy inquiry) (Covered policy inquiry) (ledger, flag)) :
    work.Keeps (inFlight policy inquiry) (Covered policy inquiry) (more, flag) := by
  induction work with
  | done result =>
    intro refused
    obtain ⟨unwritten, state, attributed, exceeds⟩ := keeps refused
    exact ⟨unwritten, state, attributed.later _ _ _ h, exceeds⟩
  | ask call next ih =>
    refine ⟨?_, ?_⟩
    · have allowed := keeps.1
      rcases call with (key | ⟨key, value, lifetime⟩ | key | key | key | _) | id | _ | bases
      · exact allowed
      · obtain ⟨unwritten, owner, state, attributed, text⟩ := allowed
        exact ⟨unwritten, owner, state, attributed.later _ _ _ h, text⟩
      all_goals exact allowed
    · intro answer s' promised
      exact keeps.2 answer s' ⟨h.trans promised.1, promised.2⟩
  | tell event next ih => exact ih keeps

/-- The yard is sound: no request is recorded twice, every log in the cache is attributed to the
ledger of its key, and every request in flight is within its contract. -/
structure Sound (policy : QuotePolicy) (yard : Yard) : Prop where
  once : yard.numbers.Nodup
  begun : ∀ row ∈ yard.recorded, ∃ work, yard.tasks[row.1]? = some (Task.mk row.2 work)
  stored : ∀ id entry, yard.map.live? yard.now (CacheKey.ofApiKey id) = some entry →
    ∀ state, Json.readText QuotaState.reader entry.value = .ok state →
      Attributed id (yard.ledger id) state
  kept : ∀ number inquiry work, yard.tasks[number]? = some (Task.mk inquiry (some work)) →
    work.Keeps (inFlight policy inquiry) (Covered policy inquiry)
      (yard.ledger inquiry.id, decide (number ∈ yard.numbers))

namespace Sound

variable {policy : QuotePolicy} {yard : Yard}

theorem opening {now : Nat} {map : TimedMap}
    (fresh : ∀ id, map.live? now (CacheKey.ofApiKey id) = none) :
    Sound policy (.opening now map) where
  once := List.nodup_nil
  begun := by
    intro row member
    cases member
  stored := by
    intro id entry live
    rw [Yard.opening, fresh id] at live
    cases live
  kept := by
    intro number inquiry work found
    simp [Yard.opening] at found

theorem congr (sound : Sound policy yard) {now : Nat} {map : TimedMap}
    (logs : ∀ id entry, map.live? now (CacheKey.ofApiKey id) = some entry →
      yard.map.live? yard.now (CacheKey.ofApiKey id) = some entry) :
    Sound policy { yard with now := now, map := map } where
  once := sound.once
  begun := sound.begun
  stored := fun id entry live => sound.stored id entry (logs id entry live)
  kept := sound.kept

theorem begun_set {tasks : List Task} {number other : Nat} {inquiry inquiry' : Inquiry}
    {before work : Option (Dialogue gatewaySignature (Except Failure QuoteResponse))}
    (found : tasks[number]? = some ⟨inquiry, before⟩)
    (begun : ∃ rest, tasks[other]? = some ⟨inquiry', rest⟩) :
    ∃ rest, (tasks.set number ⟨inquiry, work⟩)[other]? = some ⟨inquiry', rest⟩ := by
  obtain ⟨rest, begun⟩ := begun
  by_cases same : number = other
  · subst same
    rw [begun] at found
    cases found
    exact ⟨work, by rw [List.getElem?_set_self (List.getElem?_eq_some_iff.mp begun).1]⟩
  · exact ⟨rest, by rw [List.getElem?_set_ne same, begun]⟩

theorem set (sound : Sound policy yard) {number : Nat} {inquiry : Inquiry}
    {before work : Option (Dialogue gatewaySignature (Except Failure QuoteResponse))}
    (found : yard.tasks[number]? = some ⟨inquiry, before⟩)
    (keeps : ∀ rest, work = some rest → rest.Keeps (inFlight policy inquiry)
      (Covered policy inquiry) (yard.ledger inquiry.id, decide (number ∈ yard.numbers))) :
    Sound policy { yard with tasks := yard.tasks.set number ⟨inquiry, work⟩ } where
  once := sound.once
  begun := by
    intro row member
    exact begun_set found (sound.begun row member)
  stored := sound.stored
  kept := by
    intro other inquiry' rest found
    simp only [List.getElem?_set] at found
    split at found
    · rename_i same
      subst same
      split at found
      · cases found
        exact keeps rest rfl
      · cases found
    · exact sound.kept other inquiry' rest found

theorem begin (sound : Sound policy yard) (inquiry : Inquiry) :
    Sound policy (yard.step policy (.begin inquiry)) where
  once := sound.once
  begun := by
    intro row member
    obtain ⟨work, found⟩ := sound.begun row member
    have earlier := (List.getElem?_eq_some_iff.mp found).1
    exact ⟨work, (List.getElem?_append_left earlier).trans found⟩
  stored := sound.stored
  kept := by
    intro number other work found
    simp only [Yard.step] at found
    rw [List.getElem?_append] at found
    split at found
    · exact sound.kept number other work found
    · rename_i beyond
      have last : number = yard.tasks.length := by
        by_contra later
        rw [List.getElem?_eq_none (by simp only [List.length_singleton]; omega)] at found
        cases found
      subst last
      have unrecorded : decide (yard.tasks.length ∈ yard.numbers) = false := by
        rw [decide_eq_false_iff_not]
        intro member
        obtain ⟨row, recorded, last⟩ := List.mem_map.mp member
        obtain ⟨work, found⟩ := sound.begun row recorded
        exact Nat.lt_irrefl _ (last ▸ (List.getElem?_eq_some_iff.mp found).1)
      rw [Nat.sub_self, List.getElem?_cons_zero] at found
      cases found
      change Dialogue.Keeps _ _ _ (_, decide (yard.tasks.length ∈ yard.numbers))
      rw [unrecorded]
      exact keeps_inFlight policy inquiry _

theorem drop (sound : Sound policy yard) (number : Nat) : Sound policy (yard.drop number) := by
  unfold Yard.drop
  split
  · rename_i found
    exact sound.set found nofun
  · exact sound

theorem pass (sound : Sound policy yard) (duration : Duration) :
    Sound policy (yard.step policy (.pass duration)) :=
  sound.congr fun _ _ live => TimedMap.live?_of_later (Nat.le_add_right _ _) live

theorem expire (sound : Sound policy yard) (key : String) :
    Sound policy (yard.step policy (.expire key)) := by
  apply sound.congr
  intro id entry live
  by_cases same : CacheKey.ofApiKey id = key
  · subst same
    rw [TimedMap.live?_erase_self] at live
    cases live
  · rwa [TimedMap.live?_erase_of_ne _ _ same] at live

theorem publish (sound : Sound policy yard) (base target value : String) (lifetime : Duration) :
    Sound policy (yard.step policy (.publish base target value lifetime)) := by
  apply sound.congr
  intro id entry live
  rwa [TimedMap.live?_put_of_ne _ _ _ _ _ (CacheKey.ofApiKey_ne_ofRate id base target)] at live

end Sound

theorem Yard.ledger_recorded (yard : Yard) (number : Nat) (inquiry : Inquiry) (id : String)
    (now : Nat) (map : TimedMap) (tasks : List Task) :
    ledger ⟨now, map, tasks, yard.recorded ++ [(number, inquiry)]⟩ id =
      yard.ledger id + if inquiry.id = id then {inquiry.now.seconds} else 0 := by
  simp only [ledger, List.filter_append, List.map_append, ← Multiset.coe_add]
  by_cases same : inquiry.id = id
  · simp [same]
  · simp [same]

theorem Yard.ledger_le_recorded (yard : Yard) (number : Nat) (inquiry : Inquiry) (id : String)
    (now : Nat) (map : TimedMap) (tasks : List Task) :
    yard.ledger id ≤ ledger ⟨now, map, tasks, yard.recorded ++ [(number, inquiry)]⟩ id := by
  rw [ledger_recorded]
  exact Multiset.le_add_right _ _

theorem Yard.numbers_recorded (yard : Yard) (number : Nat) (inquiry : Inquiry) (now : Nat)
    (map : TimedMap) (tasks : List Task) :
    numbers ⟨now, map, tasks, yard.recorded ++ [(number, inquiry)]⟩ = yard.numbers ++ [number] := by
  simp [numbers]

namespace Sound

variable {policy : QuotePolicy} {yard : Yard}

/-- A log that is written counts its request, and only its request. -/
theorem record (sound : Sound policy yard) {number : Nat} {inquiry : Inquiry}
    {before : Option (Dialogue gatewaySignature (Except Failure QuoteResponse))}
    (found : yard.tasks[number]? = some ⟨inquiry, before⟩) (unrecorded : number ∉ yard.numbers)
    {state : QuotaState} (attributed : Attributed inquiry.id (yard.ledger inquiry.id) state)
    (lifetime : Duration) {work : Dialogue gatewaySignature (Except Failure QuoteResponse)}
    (keeps : work.Keeps (inFlight policy inquiry) (Covered policy inquiry)
      (yard.ledger inquiry.id + {inquiry.now.seconds}, true)) :
    Sound policy
      ⟨yard.now,
        yard.map.put yard.now (CacheKey.ofApiKey inquiry.id)
          (state.record inquiry.now.unixSeconds
            (policy.limit.windowStart inquiry.now)).document.compact lifetime,
        yard.tasks.set number ⟨inquiry, some work⟩, yard.recorded ++ [(number, inquiry)]⟩ where
  once := by
    rw [Yard.numbers_recorded, List.nodup_append]
    refine ⟨sound.once, List.nodup_singleton _, ?_⟩
    intro other member last isLast same
    rw [List.mem_singleton] at isLast
    subst same isLast
    exact unrecorded member
  begun := by
    intro row member
    rcases List.mem_append.mp member with earlier | last
    · exact begun_set found (sound.begun row earlier)
    · rw [List.mem_singleton] at last
      subst last
      exact begun_set found ⟨before, found⟩
  stored := by
    intro id entry live stored read
    obtain ⟨there, before⟩ := TimedMap.live?_eq_some_iff.mp live
    rw [TimedMap.get?_put_ofApiKey] at there
    by_cases same : inquiry.id = id
    · subst same
      rw [if_pos rfl] at there
      cases there
      rw [QuotaState.readText_compact] at read
      cases read
      rw [Yard.ledger_recorded, if_pos rfl]
      exact attributed.record inquiry.now _
    · rw [if_neg same] at there
      have earlier := TimedMap.live?_eq_some_iff.mpr ⟨there, before⟩
      exact (sound.stored id entry earlier stored read).later _ _ _
        (yard.ledger_le_recorded number inquiry id _ _ _)
  kept := by
    intro other inquiry' rest task
    simp only [List.getElem?_set] at task
    rw [Yard.numbers_recorded]
    split at task
    · rename_i same
      subst same
      split at task
      · cases task
        rw [Yard.ledger_recorded, if_pos rfl, decide_eq_true (by simp)]
        exact keeps
      · cases task
    · rename_i differs
      have same : decide (other ∈ yard.numbers ++ [number]) = decide (other ∈ yard.numbers) := by
        simp [Ne.symm differs]
      rw [same]
      exact inFlight_later (yard.ledger_le_recorded number inquiry _ _ _ _)
        (sound.kept other inquiry' rest task)

theorem answer (sound : Sound policy yard) {number : Nat} {inquiry : Inquiry}
    {call : gatewaySignature.Call}
    {next : gatewaySignature.Answer call → Dialogue gatewaySignature (Except Failure QuoteResponse)}
    (found : yard.tasks[number]? = some ⟨inquiry, some (.ask call next)⟩)
    {reply : gatewaySignature.Answer call}
    (promised : (inFlight policy inquiry).promises
      (yard.ledger inquiry.id, decide (number ∈ yard.numbers)) call reply
      (yard.ledger inquiry.id, decide (number ∈ yard.numbers))) :
    Sound policy { yard with tasks := yard.tasks.set number ⟨inquiry, some (next reply)⟩ } := by
  apply sound.set found
  rintro rest ⟨⟩
  exact (sound.kept number inquiry _ found).2 reply _ promised

theorem proceed_read (sound : Sound policy yard) {number : Nat} {inquiry : Inquiry} {key : String}
    {next : gatewaySignature.Answer (.cache (.read key)) →
      Dialogue gatewaySignature (Except Failure QuoteResponse)}
    (found : yard.tasks[number]? = some ⟨inquiry, some (.ask (.cache (.read key)) next)⟩)
    (c : Circumstances) : Sound policy (yard.proceed number c) := by
  have answered := sound.answer found
    (promised_read c yard.now ⟨0, yard.map⟩ (sound.stored inquiry.id))
  simp only [Yard.proceed, found, written, Bool.false_eq_true, if_false, List.append_nil,
    c.respond_read_map yard.now key ⟨0, yard.map⟩]
  exact answered

theorem proceed_findKey (sound : Sound policy yard) {number : Nat} {inquiry : Inquiry}
    {next : gatewaySignature.Answer (.findKey inquiry.id) →
      Dialogue gatewaySignature (Except Failure QuoteResponse)}
    (found : yard.tasks[number]? = some ⟨inquiry, some (.ask (.findKey inquiry.id) next)⟩)
    {c : Circumstances} (honest : c.KeepsIds) : Sound policy (yard.proceed number c) := by
  have records : ∀ key, c.record inquiry.id = .ok (some key) →
      Attributed inquiry.id (yard.ledger inquiry.id) (.ofKey key) :=
    fun key record => ⟨honest _ key record, Multiset.zero_le _⟩
  have answered := sound.answer found (promised_findKey c yard.now ⟨0, yard.map⟩ records)
  simp only [Yard.proceed, found, written, Bool.false_eq_true, if_false, List.append_nil]
  exact answered

theorem proceed_write (sound : Sound policy yard) {number : Nat} {inquiry : Inquiry}
    {key value : String} {lifetime : Duration}
    {next : gatewaySignature.Answer (.cache (.write key value lifetime)) →
      Dialogue gatewaySignature (Except Failure QuoteResponse)}
    (found : yard.tasks[number]? =
      some ⟨inquiry, some (.ask (.cache (.write key value lifetime)) next)⟩)
    (c : Circumstances) : Sound policy (yard.proceed number c) := by
  obtain ⟨⟨unwritten, own, state, attributed, text⟩, goesOn⟩ := sound.kept number inquiry _ found
  simp only [Yard.proceed, found, c.respond_write]
  cases fault : c.fault 0 (.write key value lifetime) with
  | some words =>
    simp only [written, Except.isOk, Except.toBool, Bool.false_eq_true, if_false, List.append_nil]
    exact sound.answer found promised_unwritten
  | none =>
    simp only [written, Except.isOk, Except.toBool, if_true]
    subst own text
    apply sound.record found (of_decide_eq_false unwritten) attributed
    exact goesOn (.ok ()) (_, true) (promised_written (Multiset.le_add_right _ _))

/-- Answering a question keeps the yard sound. -/
theorem proceed (sound : Sound policy yard) (number : Nat) {c : Circumstances}
    (honest : c.KeepsIds) : Sound policy (yard.proceed number c) := by
  cases found : yard.tasks[number]? with
  | none =>
    simp only [Yard.proceed, found]
    exact sound
  | some task =>
    obtain ⟨inquiry, work⟩ := task
    rcases work with _ | result | ⟨call, next⟩ | ⟨event, next⟩
    · simp only [Yard.proceed, found]
      exact sound
    · simp only [Yard.proceed, found]
      exact sound
    · have allowed := (sound.kept number inquiry _ found).1
      rcases call with (key | ⟨key, value, lifetime⟩ | key | key | key | _) | id | _ | bases
      · exact sound.proceed_read found c
      · exact sound.proceed_write found c
      · cases allowed
      · cases allowed
      · cases allowed
      · cases allowed
      · cases allowed
        exact sound.proceed_findKey found honest
      · cases allowed
      · cases allowed
    · simp only [Yard.proceed, found]
      apply sound.set found
      rintro rest ⟨⟩
      exact sound.kept number inquiry (.tell event next) found

theorem step (sound : Sound policy yard) {move : Move}
    (honest : ∀ number c, move = .proceed number c → c.KeepsIds) :
    Sound policy (yard.step policy move) := by
  cases move with
  | begin inquiry => exact sound.begin inquiry
  | proceed number c => exact sound.proceed number (honest number c rfl)
  | drop number => exact sound.drop number
  | pass duration => exact sound.pass duration
  | expire key => exact sound.expire key
  | publish base target value lifetime => exact sound.publish base target value lifetime

theorem after {moves : List Move} (sound : Sound policy yard)
    (honest : ∀ number c, Move.proceed number c ∈ moves → c.KeepsIds) :
    Sound policy (yard.after policy moves) := by
  induction moves generalizing yard with
  | nil => exact sound
  | cons move moves ih =>
    apply ih
    · apply sound.step
      rintro number c rfl
      exact honest number c List.mem_cons_self
    · exact fun number c member => honest number c (List.mem_cons_of_mem move member)

end Sound

def Yard.recordedSince (yard : Yard) (id : String) (oldest : Int) : List (Nat × Inquiry) :=
  yard.recorded.filter fun row => row.2.id = id ∧ oldest ≤ row.2.now.seconds

/-- A log attributed to the ledger of its key counts no more requests than were recorded. -/
theorem Attributed.countSince_le {yard : Yard} {id : String} {state : QuotaState}
    (attributed : Attributed id (yard.ledger id) state) (oldest : Int) :
    countSince oldest state.seconds ≤ (yard.recordedSince id oldest).length := by
  have counted := Multiset.countP_le_of_le (fun s => oldest ≤ s) attributed.2
  rw [Yard.ledger, Multiset.coe_countP, Multiset.coe_countP, List.countP_map,
    List.countP_filter] at counted
  refine counted.trans (le_of_eq ?_)
  rw [Yard.recordedSince, ← List.countP_eq_length_filter]
  apply List.countP_congr
  intro row _
  simp [and_comm]

/-- However requests overlap, get lost or fail to write, a request is refused only if as many other
requests for its key as the quota allows have written their usage, in its window. -/
theorem recorded_of_refused {policy : QuotePolicy} {now : Nat} {map : TimedMap}
    (fresh : ∀ id, map.live? now (CacheKey.ofApiKey id) = none) {moves : List Move}
    (honest : ∀ number c, Move.proceed number c ∈ moves → c.KeepsIds) {yard : Yard}
    (reached : yard = (Yard.opening now map).after policy moves) {number : Nat} {inquiry : Inquiry}
    {result : Except Failure QuoteResponse}
    (finished : yard.tasks[number]? = some ⟨inquiry, some (.done result)⟩)
    (refused : Refused result) :
    ∃ others : Finset Nat, policy.limit.maxUsages.toNat ≤ others.card ∧ number ∉ others ∧
      ∀ other ∈ others, ∃ earlier work, yard.tasks[other]? = some ⟨earlier, work⟩ ∧
        (other, earlier) ∈ yard.recorded ∧ earlier.id = inquiry.id ∧
        policy.limit.windowStart inquiry.now ≤ earlier.now.unixSeconds := by
  have sound : Sound policy yard := reached ▸ (Sound.opening fresh).after honest
  obtain ⟨unwritten, state, attributed, exceeds⟩ := sound.kept number inquiry _ finished refused
  have full := ((state.exceeds_iff _ _).mp exceeds).2
  have recorded := attributed.countSince_le (policy.limit.windowStart inquiry.now).toInt
  have sublist : ((yard.recordedSince inquiry.id
      (policy.limit.windowStart inquiry.now).toInt).map (·.1)).Sublist yard.numbers :=
    List.filter_sublist.map _
  refine ⟨((yard.recordedSince inquiry.id
    (policy.limit.windowStart inquiry.now).toInt).map (·.1)).toFinset, ?_, ?_, ?_⟩
  · rw [List.toFinset_card_of_nodup (sound.once.sublist sublist), List.length_map]
    exact full.trans recorded
  · rw [List.mem_toFinset]
    exact fun member => of_decide_eq_false unwritten (sublist.subset member)
  · intro other member
    obtain ⟨⟨_, earlier⟩, row, rfl⟩ := List.mem_map.mp (List.mem_toFinset.mp member)
    obtain ⟨inRecord, fitting⟩ := List.mem_filter.mp row
    obtain ⟨own, recent⟩ := of_decide_eq_true fitting
    obtain ⟨work, begun⟩ := sound.begun _ inRecord
    refine ⟨earlier, work, begun, inRecord, own, ?_⟩
    rw [Int64.le_iff_toInt_le, Calendar.Instant.toInt_unixSeconds]
    exact recent

def overlapping : List Move :=
  [.publish "USD" "JPY" "\x7b\"rate\":150.0,\"timestamp\":0\x7d" (.ofSeconds 600),
    .begin (Small.inquiry Small.firstSecond), .begin (Small.inquiry Small.nextMinute),
    .proceed 0 Small.world, .proceed 0 Small.world, .proceed 0 Small.world,
    .proceed 0 Small.world, .proceed 1 Small.world, .proceed 1 Small.world]

/-- The second request is refused on account of another one. -/
theorem recorded_of_overlapping :
    let yard := (Yard.opening 0 .empty).after Small.setup.policy overlapping
    Refused (.error (.quotaExceeded "key" 1 60) : Except Failure QuoteResponse) ∧
      ∃ others : Finset Nat, Small.setup.policy.limit.maxUsages.toNat ≤ others.card ∧ 1 ∉ others ∧
        ∀ other ∈ others, ∃ earlier work, yard.tasks[other]? = some ⟨earlier, work⟩ ∧
          (other, earlier) ∈ yard.recorded ∧ earlier.id = "key" ∧
          Small.setup.policy.limit.windowStart Small.nextMinute ≤ earlier.now.unixSeconds := by
  intro yard
  have refused : Refused (.error (.quotaExceeded "key" 1 60) : Except Failure QuoteResponse) :=
    ⟨_, rfl, rfl⟩
  have honest : ∀ number c, Move.proceed number c ∈ overlapping → c.KeepsIds := by
    intro number c member
    have same : c = Small.world := by
      simp [overlapping] at member
      rcases member with h | h
      · exact h.2
      · exact h.2
    rw [same]
    exact Small.world_keepsIds
  have finished : yard.tasks[1]? = some ⟨Small.inquiry Small.nextMinute,
      some (.done (.error (.quotaExceeded "key" 1 60)))⟩ := rfl
  exact ⟨refused, recorded_of_refused (fun _ => rfl) honest rfl finished refused⟩

end QuoteGateway
