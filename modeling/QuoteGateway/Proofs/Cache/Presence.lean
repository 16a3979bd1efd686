import QuoteGateway.Cache.Standin
import QuoteGateway.Proofs.Cache.Interchange

/-!
# Whether there is an entry

A reading, a check and a deletion at one moment tell alike whether there is an entry, in memory and
wherever a check is a reading. On a server they do so unless the text that was written last is
empty and still kept: the check and the deletion find it, and the reading does not.
-/

namespace QuoteGateway.Cache

/-- How a cache answers a call at a moment, and what becomes of it. -/
abbrev Answers (σ ε : Type) := Nat → (call : Call) → σ → Except ε call.Result × σ

section Histories

variable {σ ε : Type} (answers : Answers σ ε)

def finish : (now : Nat) → List (Move Call) → Nat
  | now, [] => now
  | now, .pass duration :: moves => finish (now + duration.nanos) moves
  | now, .call _ :: moves => finish now moves

def after : (now : Nat) → List (Move Call) → σ → σ
  | _, [], s => s
  | now, .pass duration :: moves, s => after (now + duration.nanos) moves s
  | now, .call call :: moves, s => after now moves (answers now call s).2

/-- What a reading, a check and a deletion at one moment tell of an entry. -/
structure Tells (now : Nat) (s : σ) (key : String) (text : Option String) (present : Bool) :
    Prop where
  read : (answers now (.read key) s).1 = .ok text
  contains : (answers now (.contains key) s).1 = .ok present
  delete : (answers now (.delete key) s).1 = .ok present

/-- A reading, a check and a deletion at one moment tell alike whether there is an entry. -/
def Agree (now : Nat) (s : σ) (key : String) : Prop :=
  ∃ text, Tells answers now s key text text.isSome

variable {answers}

theorem Tells.agree_iff {now : Nat} {s : σ} {key : String} {text : Option String} {present : Bool}
    (tells : Tells answers now s key text present) :
    Agree answers now s key ↔ text.isSome = present := by
  constructor
  · rintro ⟨other, again⟩
    have same : other = text := Except.ok.inj (again.read.symm.trans tells.read)
    rw [← same]
    exact Except.ok.inj (again.contains.symm.trans tells.contains)
  · rintro rfl
    exact ⟨text, tells⟩

end Histories

namespace InMemory.Choices

variable (choices : Choices) (now : Nat) (keeper : Keeper) (key : String)

def answers : Answers Keeper ClockOverflow := fun now call => choices.carryOut now (perform call)

theorem exists_carryOut_liveEntry :
    ∃ entry later, choices.carryOut now (liveEntry key) keeper = (.ok entry, later) := by
  rw [liveEntry, carryOut_bind, carryOut_step]
  rcases choices.use now (.lookup key) keeper with ⟨_ | slot, looked⟩
  · exact ⟨none, looked, rfl⟩
  · simp only [carryOut_bind, carryOut_step]
    split
    · exact ⟨some slot.entry, _, rfl⟩
    · exact ⟨none, _, rfl⟩

theorem agree_answers : Agree choices.answers now keeper key := by
  obtain ⟨entry, later, found⟩ := choices.exists_carryOut_liveEntry now keeper key
  have goesOn {α : Type} (f : Option Entry → Steps α) :
      (choices.carryOut now (liveEntry key >>= f) keeper).1 =
        (choices.carryOut now (f entry) later).1 := by
    rw [carryOut_bind, found]
  refine ⟨entry.map Entry.value, goesOn fun entry => pure (entry.map Entry.value), ?_, ?_⟩
  · rw [Option.isSome_map]
    exact goesOn fun entry => pure entry.isSome
  · rw [Option.isSome_map]
    exact goesOn fun entry => do
      step (.remove key)
      return entry.isSome

end InMemory.Choices

theorem run_containsByReading (key : String) : (Job.containsByReading key).run =
    .ask (.cache (.read key)) fun answer => .done (answer.map Option.isSome) := by
  change Dialogue.ask _ _ = _
  congr 1
  funext answer
  cases answer <;> rfl

/-- Whatever a cache is, a check that reads finds what a reading finds. -/
theorem contains_byReading {σ : Type} (backend : Backend (StateM σ)) (now : Nat) (s : σ)
    (key : String) :
    backend.carryOut now (Job.containsByReading key) s =
      ((backend now (.read key) s).1.map Option.isSome, (backend now (.read key) s).2) := by
  rw [Backend.carryOut, run_containsByReading]
  rfl

namespace Standin

def answers : Answers Standin Failure := fun _ call standin => standin.answer call

/-- A check and a deletion find what a reading finds, unless no call succeeds. -/
theorem agree_or_fails (now : Nat) (standin : Standin) (key : String) :
    Agree answers now standin key ∨
      ∃ failure, ∀ call, (answers now call standin).1 = .error failure := by
  cases outage : standin.outage with
  | none =>
    refine .inl ⟨(standin.entries.get? key).map (·.1), ?_, ?_, ?_⟩ <;>
      simp [answers, answer, fault?, outage, result]
  | some detail =>
    refine .inr ⟨.reported .cache detail, fun call => ?_⟩
    cases call <;> simp [answers, answer, fault?, outage]

end Standin

namespace Redis

def answers (space : Option String) : Answers Server Failure := fun now call =>
  (perform space call).run (m := StateM Server) (serve now) Empty.elim

theorem answers_eq (space : Option String) (now : Nat) (call : Call) (server : Server) :
    answers space now call server =
      ((result call (server.answer (now / 1000000) (command space call)).1).mapError (failure call),
        (server.answer (now / 1000000) (command space call)).2) := rfl

/-- The text of a reading is there if it is kept and not empty. What is kept is found and
deleted. -/
theorem tells_answers (space : Option String) (now : Nat) (server : Server) (key : String) :
    let kept := server.live? (now / 1000000) (serverKey space key)
    Tells (answers space) now server key ((kept.map (·.value)).filter (· ≠ "")) kept.isSome := by
  cases live : server.live? (now / 1000000) (serverKey space key) with
  | none => constructor <;> simp only [answers_eq, command, Server.answer, live] <;> rfl
  | some kept =>
    constructor <;> simp only [answers_eq, command, Server.answer, live]
    · by_cases nothing : kept.value = "" <;>
        simp [result, asOptionalText, asText, Except.map, Except.mapError, Option.filter, nothing]
    · rfl
    · rfl

/-- What a call leaves with a server under a key. -/
def leftBy (key : String) (now : Nat) : Call → Option Kept → Option Kept
  | .write other value lifetime, before =>
    if other = key then some ⟨value, some (now / 1000000 + expiryMillis lifetime)⟩ else before
  | .delete other, before => if other = key then none else before
  | .read _, before | .contains _, before | .remaining _, before | .ping, before => before

/-- What a history leaves with a server under a key: the last text that was written and not deleted
since, with its deadline. -/
def left (key : String) : (now : Nat) → List (Move Call) → Option Kept → Option Kept
  | _, [], before => before
  | now, .pass duration :: moves, before => left key (now + duration.nanos) moves before
  | now, .call call :: moves, before => left key now moves (leftBy key now call before)

theorem get?_answer (space : Option String) (now : Nat) (server : Server) (key : String)
    (call : Call) :
    (answers space now call server).2.entries.get? (serverKey space key) =
      leftBy key now call (server.entries.get? (serverKey space key)) := by
  cases call with
  | write other value lifetime =>
    change (server.entries.put (serverKey space other) _).get? _ = _
    by_cases same : other = key
    · rw [same, Table.get?_put_self, leftBy, if_pos rfl]
    · rw [Table.get?_put_of_ne _ _ fun equal => same (serverKey_injective space equal).symm, leftBy,
        if_neg same]
  | delete other =>
    change (server.entries.erase (serverKey space other)).get? _ = _
    by_cases same : other = key
    · rw [same, Table.get?_erase_self, leftBy, if_pos rfl]
    · rw [Table.get?_erase_of_ne _ fun equal => same (serverKey_injective space equal).symm, leftBy,
        if_neg same]
  | read other => rfl
  | contains other => rfl
  | remaining other => rfl
  | ping => rfl

theorem get?_after (space : Option String) (start : Nat) (moves : List (Move Call))
    (server : Server) (key : String) :
    (after (answers space) start moves server).entries.get? (serverKey space key) =
      left key start moves (server.entries.get? (serverKey space key)) := by
  induction moves generalizing start server with
  | nil => rfl
  | cons move moves ih =>
    cases move with
    | pass duration => exact ih _ server
    | call call =>
      rw [after, ih, get?_answer]
      rfl

theorem live?_after (space : Option String) (start : Nat) (moves : List (Move Call))
    (server : Server) (key : String) (now : Nat) :
    (after (answers space) start moves server).live? now (serverKey space key) =
      (left key start moves (server.entries.get? (serverKey space key))).filter
        (Server.Kept.isLive · now) := by
  rw [Server.live?, get?_after]

theorem leftBy_nonempty {key : String} {now : Nat} {call : Call} {before : Option Kept}
    (earlier : ∀ kept ∈ before, kept.value ≠ "")
    (written : ∀ value lifetime, call = .write key value lifetime → value ≠ "") :
    ∀ kept ∈ leftBy key now call before, kept.value ≠ "" := by
  cases call with
  | write other value lifetime =>
    rw [leftBy]
    split
    · rename_i same
      rintro kept ⟨⟩
      exact written value lifetime (same ▸ rfl)
    · exact earlier
  | delete other =>
    rw [leftBy]
    split
    · exact fun _ => nofun
    · exact earlier
  | read other => exact earlier
  | contains other => exact earlier
  | remaining other => exact earlier
  | ping => exact earlier

/-- No empty text is left where none was before and none is written. -/
theorem left_nonempty {key : String} {start : Nat} {moves : List (Move Call)}
    {before : Option Kept} (earlier : ∀ kept ∈ before, kept.value ≠ "")
    (written : ∀ value lifetime, .call (.write key value lifetime) ∈ moves → value ≠ "") :
    ∀ kept ∈ left key start moves before, kept.value ≠ "" := by
  induction moves generalizing start before with
  | nil => exact earlier
  | cons move moves ih =>
    have later : ∀ value lifetime, .call (.write key value lifetime) ∈ moves → value ≠ "" :=
      fun value lifetime among => written value lifetime (List.mem_cons_of_mem move among)
    cases move with
    | pass duration => exact ih earlier later
    | call call =>
      refine ih (leftBy_nonempty earlier fun value lifetime same => ?_) later
      exact written value lifetime (same ▸ List.mem_cons_self)

/-- On a server, a check and a deletion find what a reading finds unless the kept text is empty. -/
theorem agree_answers_iff (space : Option String) (now : Nat) (server : Server) (key : String) :
    Agree (answers space) now server key ↔
      ∀ kept ∈ server.live? (now / 1000000) (serverKey space key), kept.value ≠ "" := by
  rw [(tells_answers space now server key).agree_iff]
  cases server.live? (now / 1000000) (serverKey space key) with
  | none => simp
  | some kept => by_cases nothing : kept.value = "" <;> simp [Option.filter, nothing]

end Redis

/-- What the caches tell of the entry of a key after a history. -/
structure TellPresence (start : Nat) (moves : List (Move Call)) (key : String) : Prop where
  inMemory : ∀ (choices : InMemory.Choices) keeper,
    Agree choices.answers (finish start moves) (after choices.answers start moves keeper) key
  byReading : ∀ {σ : Type} (backend : Backend (StateM σ)) now s,
    (backend.carryOut now (Job.containsByReading key) s).1 =
      (backend now (.read key) s).1.map Option.isSome
  standin : ∀ standin,
    Agree Standin.answers (finish start moves) (after Standin.answers start moves standin) key ∨
      ∃ failure, ∀ call, (Standin.answers (finish start moves) call
        (after Standin.answers start moves standin)).1 = .error failure
  server : ∀ space server,
    let kept := (Redis.left key start moves (server.entries.get? (Redis.serverKey space key))).filter
      (Redis.Server.Kept.isLive · (finish start moves / 1000000))
    let later := after (Redis.answers space) start moves server
    Tells (Redis.answers space) (finish start moves) later key
        ((kept.map (·.value)).filter (· ≠ "")) kept.isSome ∧
      (Agree (Redis.answers space) (finish start moves) later key ↔
        ∀ last ∈ kept, last.value ≠ "")
  texts : ∀ space server,
    (∀ kept ∈ server.entries.get? (Redis.serverKey space key), kept.value ≠ "") →
    (∀ value lifetime, .call (.write key value lifetime) ∈ moves → value ≠ "") →
      Agree (Redis.answers space) (finish start moves)
        (after (Redis.answers space) start moves server) key

/-- After any history a check and a deletion find exactly what a reading finds, in memory and
wherever a check is a reading. On a server they find what is kept, which the reading finds exactly
if it is not empty. -/
theorem tellPresence (start : Nat) (moves : List (Move Call)) (key : String) :
    TellPresence start moves key where
  inMemory choices keeper := choices.agree_answers _ _ key
  byReading backend now s := congrArg Prod.fst (contains_byReading backend now s key)
  standin standin := Standin.agree_or_fails _ _ key
  server space server := by
    intro kept later
    have live : later.live? (finish start moves / 1000000) (Redis.serverKey space key) = kept :=
      Redis.live?_after space start moves server key _
    rw [← live]
    exact ⟨Redis.tells_answers _ _ _ _, Redis.agree_answers_iff _ _ _ _⟩
  texts space server earlier written := by
    rw [Redis.agree_answers_iff, Redis.live?_after]
    intro kept live
    exact Redis.left_nonempty earlier written kept (Option.filter_eq_some_iff.mp live).1

/-- An empty text that has just been written is found by a check and deleted, but not read. -/
theorem Redis.not_agree_empty :
    let moves : List (Move Call) := [.call (.write "a" "" (.ofMillis 60000))]
    let server := after (answers none) 0 moves .empty
    Tells (answers none) (finish 0 moves) server "a" none true ∧
      ¬ Agree (answers none) (finish 0 moves) server "a" := by
  have tells : Tells (answers none) 0
      (after (answers none) 0 [.call (.write "a" "" (.ofMillis 60000))] .empty) "a" none true :=
    ⟨rfl, rfl, rfl⟩
  exact ⟨tells, fun agree => absurd (tells.agree_iff.mp agree) (by decide)⟩

end QuoteGateway.Cache
