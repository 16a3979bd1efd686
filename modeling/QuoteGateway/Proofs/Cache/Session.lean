import Mathlib.Control.Traversable.Basic
import QuoteGateway.Cache.InMemory
import QuoteGateway.Cache.TimedMap
import QuoteGateway.Proofs.Course

/-!
# Sessions of a cache

Calls of a cache one after the other, with time between them, and the answers that a caller gets to
see. A cache that stands for a timed map shows the answers of the map in every session, for calls
with plain texts and for calls with typed values alike.
-/

namespace QuoteGateway.Cache

/-- What happens in a session: a call, or time. -/
inductive Move (Op : Type) where
  | pass (duration : Duration)
  | call (op : Op)

section Session

variable {Op : Type} {Result : Op → Type} {m : Type → Type} [Monad m]

/-- The answers in a session that starts at a moment. -/
def session (perform : Nat → (op : Op) → m (Result op)) :
    (now : Nat) → List (Move Op) → m (List (Sigma Result))
  | _, [] => pure []
  | now, .pass duration :: moves => session perform (now + duration.nanos) moves
  | now, .call op :: moves => do
    let result ← perform now op
    let results ← session perform now moves
    return ⟨op, result⟩ :: results

/-- Every call of a session is made when it may be, and leaves a state that is sound. -/
def Along {σ ε : Type} (perform : Nat → (op : Op) → StateT σ (Except ε) (Result op))
    (proper : Nat → Op → Prop) (sound : σ → Prop) : (now : Nat) → σ → List (Move Op) → Prop
  | _, _, [] => True
  | now, s, .pass duration :: moves => Along perform proper sound (now + duration.nanos) s moves
  | now, s, .call op :: moves =>
    proper now op ∧
      match perform now op s with
      | .ok (_, later) => sound later ∧ Along perform proper sound now later moves
      | .error _ => True

instance decidableAlong {σ ε : Type} (perform : Nat → (op : Op) → StateT σ (Except ε) (Result op))
    (proper : Nat → Op → Prop) (sound : σ → Prop) [∀ now op, Decidable (proper now op)]
    [DecidablePred sound] :
    (now : Nat) → (s : σ) → (moves : List (Move Op)) →
      Decidable (Along perform proper sound now s moves)
  | _, _, [] => .isTrue trivial
  | now, s, .pass duration :: moves =>
    decidableAlong perform proper sound (now + duration.nanos) s moves
  | now, s, .call op :: moves =>
    match answered : perform now op s with
    | .ok (_, later) =>
      have := decidableAlong perform proper sound now later moves
      decidable_of_iff
        (proper now op ∧ sound later ∧ Along perform proper sound now later moves)
        (by simp only [Along, answered])
    | .error _ => decidable_of_iff (proper now op) (by simp only [Along, answered, and_true])

/-- Where every state is sound, it is enough that the calls may be made at the moments of the
session. -/
theorem Along.of_forall {σ ε : Type}
    {perform : Nat → (op : Op) → StateT σ (Except ε) (Result op)} {proper : Nat → Op → Prop}
    (moment : Nat → Prop) {moves : List (Move Op)}
    (passes : ∀ duration, Move.pass duration ∈ moves →
      ∀ now, moment now → moment (now + duration.nanos))
    (calls : ∀ op, Move.call op ∈ moves → ∀ now, moment now → proper now op)
    {now : Nat} (start : moment now) (s : σ) :
    Along perform proper (fun _ => True) now s moves := by
  induction moves generalizing now s with
  | nil => trivial
  | cons move moves ih =>
    have rest : ∀ {now}, moment now → ∀ s, Along perform proper (fun _ => True) now s moves :=
      ih (fun duration member => passes duration (List.mem_cons_of_mem move member))
        (fun op member => calls op (List.mem_cons_of_mem move member))
    cases move with
    | pass duration => exact rest (passes duration List.mem_cons_self now start) s
    | call op =>
      refine ⟨calls op List.mem_cons_self now start, ?_⟩
      cases perform now op s with
      | error e => trivial
      | ok next => exact ⟨trivial, rest start next.2⟩

def only (keep : Op → Bool) (moves : List (Move Op)) : List (Move Op) :=
  moves.filter fun
    | .pass _ => true
    | .call op => keep op

theorem only_call (keep : Op → Bool) (op : Op) (moves : List (Move Op)) :
    only keep (.call op :: moves) =
      if keep op then .call op :: only keep moves else only keep moves := by
  cases kept : keep op <;> simp [only, kept]

end Session

/-- Calls on one state stand for calls on another: related states give the same answer to every
proper call, and stay related as long as the first one is sound. -/
structure Refines {Op : Type} {Result : Op → Type} {σ τ ε : Type}
    (perform : Nat → (op : Op) → StateT σ (Except ε) (Result op))
    (spec : Nat → (op : Op) → StateM τ (Result op)) (proper : Nat → Op → Prop) (sound : σ → Prop)
    (R : Nat → σ → τ → Prop) : Prop where
  later : ∀ {now later s t}, now ≤ later → R now s t → R later s t
  step : ∀ {now op s t}, R now s t → proper now op →
    ∃ s', perform now op s = .ok ((spec now op t).1, s') ∧
      (sound s' → R now s' (spec now op t).2)

/-- Calls that stand for others give the same answers in every session. -/
theorem Refines.session_eq {Op : Type} {Result : Op → Type} {σ τ ε : Type}
    {perform : Nat → (op : Op) → StateT σ (Except ε) (Result op)}
    {spec : Nat → (op : Op) → StateM τ (Result op)} {proper : Nat → Op → Prop} {sound : σ → Prop}
    {R : Nat → σ → τ → Prop} (refines : Refines perform spec proper sound R) {now : Nat}
    {moves : List (Move Op)} {s : σ} {t : τ} (related : R now s t)
    (along : Along perform proper sound now s moves) :
    (session perform now moves).run' s = .ok ((session spec now moves).run' t) := by
  suffices ∃ s', session perform now moves s = .ok ((session spec now moves t).1, s') by
    obtain ⟨s', same⟩ := this
    change Prod.fst <$> session perform now moves s = _
    rw [same]
    rfl
  induction moves generalizing now s t with
  | nil => exact ⟨s, rfl⟩
  | cons move moves ih =>
    cases move with
    | pass duration => exact ih (refines.later (Nat.le_add_right _ _) related) along
    | call op =>
      obtain ⟨proper, goesOn⟩ := along
      obtain ⟨s₁, answered, stays⟩ := refines.step related proper
      rw [answered] at goesOn
      obtain ⟨s₂, answers⟩ := ih (stays goesOn.1) goesOn.2
      refine ⟨s₂, ?_⟩
      change (perform now op s).bind _ = _
      rw [answered]
      change (session perform now moves s₁).bind _ = _
      rw [answers]
      rfl

/-- Only the time between calls counts, not the moment at which a session starts: calls on related
states give the same answers a while later. -/
theorem session_delay {Op : Type} {Result : Op → Type} {τ : Type}
    {spec : Nat → (op : Op) → StateM τ (Result op)} {R : τ → τ → Prop} {delay : Nat}
    (step : ∀ {now op s t}, R s t → (spec (now + delay) op t).1 = (spec now op s).1 ∧
      R (spec now op s).2 (spec (now + delay) op t).2)
    {now : Nat} {moves : List (Move Op)} {s t : τ} (related : R s t) :
    (session spec (now + delay) moves).run' t = (session spec now moves).run' s := by
  induction moves generalizing now s t with
  | nil => rfl
  | cons move moves ih =>
    cases move with
    | pass duration =>
      have later : now + delay + duration.nanos = now + duration.nanos + delay := by omega
      change (session spec (now + delay + duration.nanos) moves).run' t = _
      rw [later]
      exact ih related
    | call op =>
      obtain ⟨same, still⟩ := @step now op s t related
      change (⟨op, (spec (now + delay) op t).1⟩ : Sigma Result) ::
        (session spec (now + delay) moves).run' (spec (now + delay) op t).2 = _
      rw [same, ih still]
      rfl

/-- How a cache answers its calls. -/
abbrev Backend (m : Type → Type) := Nat → (call : Call) → m (Except Failure call.Result)

def TimedMap.backend : Backend (StateM TimedMap) :=
  fun now call map => (.ok (map.answer now call).1, (map.answer now call).2)

def Call.concerns (key : String) : Call → Bool
  | .read other => other == key
  | .write other _ _ => other == key
  | .delete other => other == key
  | .contains other => other == key
  | .remaining other => other == key
  | .ping => false

namespace TimedMap

variable {map other : TimedMap} {key : String} {now : Nat}

theorem session_call (call : Call) (moves : List (Move Call)) :
    (session backend now (.call call :: moves)).run' map =
      ⟨call, .ok (map.answer now call).1⟩ ::
        (session backend now moves).run' (map.answer now call).2 := rfl

/-- A call about a key goes by its entry alone. -/
theorem answer_of_concerns {call : Call} (about : call.concerns key = true)
    (same : map.entries.get? key = other.entries.get? key) :
    (map.answer now call).1 = (other.answer now call).1 ∧
      (map.answer now call).2.entries.get? key = (other.answer now call).2.entries.get? key := by
  have live : map.live? now key = other.live? now key := by rw [live?, same, live?]
  cases call with
  | ping => cases about
  | read k =>
    obtain rfl : k = key := beq_iff_eq.mp about
    exact ⟨congrArg (Option.map Entry.value) live, same⟩
  | contains k =>
    obtain rfl : k = key := beq_iff_eq.mp about
    exact ⟨congrArg Option.isSome live, same⟩
  | remaining k =>
    obtain rfl : k = key := beq_iff_eq.mp about
    exact ⟨congrArg (Option.map (Entry.remaining · now)) live, same⟩
  | delete k =>
    obtain rfl : k = key := beq_iff_eq.mp about
    refine ⟨congrArg Option.isSome live, ?_⟩
    simp only [answer, erase, Table.get?_erase_self]
  | write k value lifetime =>
    obtain rfl : k = key := beq_iff_eq.mp about
    refine ⟨rfl, ?_⟩
    simp only [answer, put, Table.get?_put_self]

theorem get?_answer_of_not_concerns {call : Call} (about : call.concerns key = false) :
    (map.answer now call).2.entries.get? key = map.entries.get? key := by
  cases call with
  | delete k => exact Table.get?_erase_of_ne _ (beq_eq_false_iff_ne.mp about).symm
  | write k value lifetime => exact Table.get?_put_of_ne _ _ (beq_eq_false_iff_ne.mp about).symm
  | read k => rfl
  | contains k => rfl
  | remaining k => rfl
  | ping => rfl

/-- The calls about one key are answered as if there were no others. -/
theorem filter_session (same : map.entries.get? key = other.entries.get? key)
    (moves : List (Move Call)) :
    ((session backend now moves).run' map).filter (·.1.concerns key) =
      (session backend now (only (Call.concerns key) moves)).run' other := by
  induction moves generalizing now map other with
  | nil => rfl
  | cons move moves ih =>
    cases move with
    | pass duration => exact ih same
    | call call =>
      rw [only_call, session_call, List.filter_cons]
      cases about : call.concerns key with
      | true =>
        obtain ⟨answer, rest⟩ := answer_of_concerns about same
        simp only [if_true]
        rw [session_call, answer, ih rest]
      | false =>
        simp only [Bool.false_eq_true, if_false]
        exact ih ((get?_answer_of_not_concerns about).trans same)

def Ahead (delay : Nat) (map other : TimedMap) : Prop :=
  ∀ key, other.entries.get? key =
    (map.entries.get? key).map fun entry => ⟨entry.value, entry.deadline + delay⟩

theorem Ahead.live? {delay : Nat} (ahead : Ahead delay map other) (key : String) :
    other.live? (now + delay) key =
      (map.live? now key).map fun entry => ⟨entry.value, entry.deadline + delay⟩ := by
  rw [TimedMap.live?, TimedMap.live?, ahead key]
  cases map.entries.get? key with
  | none => rfl
  | some entry =>
    by_cases live : now < entry.deadline
    · simp [Option.filter, Entry.isLive, live]
    · simp [Option.filter, Entry.isLive, live]

theorem Ahead.answer {delay : Nat} (ahead : Ahead delay map other) (now : Nat) (call : Call) :
    (other.answer (now + delay) call).1 = (map.answer now call).1 ∧
      Ahead delay (map.answer now call).2 (other.answer (now + delay) call).2 := by
  cases call with
  | read key =>
    refine ⟨?_, ahead⟩
    change (other.live? (now + delay) key).map Entry.value = (map.live? now key).map Entry.value
    rw [ahead.live?, Option.map_map]
    rfl
  | contains key =>
    refine ⟨?_, ahead⟩
    change (other.live? (now + delay) key).isSome = (map.live? now key).isSome
    rw [ahead.live?, Option.isSome_map]
  | remaining key =>
    refine ⟨?_, ahead⟩
    change (other.live? (now + delay) key).map (Entry.remaining · (now + delay)) =
      (map.live? now key).map (Entry.remaining · now)
    rw [ahead.live?, Option.map_map]
    congr 1
    funext entry
    simp [Entry.remaining, Nat.add_sub_add_right]
  | delete key =>
    constructor
    · change (other.live? (now + delay) key).isSome = (map.live? now key).isSome
      rw [ahead.live?, Option.isSome_map]
    · intro other'
      by_cases same : other' = key
      · simp only [TimedMap.answer, erase, same, Table.get?_erase_self, Option.map_none]
      · simp only [TimedMap.answer, erase, Table.get?_erase_of_ne _ same]
        exact ahead other'
  | write key value lifetime =>
    refine ⟨rfl, fun other' => ?_⟩
    by_cases same : other' = key
    · simp only [TimedMap.answer, put, same, Table.get?_put_self, Option.map_some]
      congr 2
      omega
    · simp only [TimedMap.answer, put, Table.get?_put_of_ne _ _ same]
      exact ahead other'
  | ping => exact ⟨rfl, ahead⟩

end TimedMap

namespace Backend

variable {m : Type → Type} [Monad m] (backend : Backend m) (now : Nat)

def respond : (call : gatewaySignature.Call) → m (gatewaySignature.Answer call)
  | .cache call => backend now call
  | .findKey _ => pure (.ok none)
  | .pingStore => pure (.ok ())
  | .fetchRates _ => pure (.ok [])

def carryOut {α : Type} (job : Job α) : m (Except Failure α) :=
  job.run.run (backend.respond now) fun _ => pure ()

end Backend

structure Types where
  Kind : Type
  Value : Kind → Type
  reader : (kind : Kind) → Json.Reader (Value kind)

inductive TypedCall (types : Types) where
  | set (key : String) (value : Json.Document) (lifetime : Duration)
  | get (kind : types.Kind) (key : String)
  | remove (key : String)
  | delete (key : String)
  | contains (key : String)
  | remaining (key : String)

namespace TypedCall

variable {types : Types}

def Result : TypedCall types → Type
  | .set .. => Unit
  | .get kind _ => Option (types.Value kind)
  | .remove _ => Unit
  | .delete _ => Bool
  | .contains _ => Bool
  | .remaining _ => Option Duration

def job : (call : TypedCall types) → Job call.Result
  | .set key value lifetime => Job.writeEntry key value lifetime
  | .get kind key => Job.readEntry (types.reader kind) key
  | .remove key => Job.removeEntry key
  | .delete key => Job.call (.cache (.delete key))
  | .contains key => Job.call (.cache (.contains key))
  | .remaining key => Job.call (.cache (.remaining key))

def raw : TypedCall types → Call
  | .set key value lifetime => .write key value.compact lifetime
  | .get _ key => .read key
  | .remove key => .delete key
  | .delete key => .delete key
  | .contains key => .contains key
  | .remaining key => .remaining key

def reading : (call : TypedCall types) → Except Failure call.raw.Result → Except Failure call.Result
  | .set .., answer => answer
  | .get kind key, answer => Job.entryOf (types.reader kind) key answer
  | .remove _, answer => answer.map fun _ => ()
  | .delete _, answer => answer
  | .contains _, answer => answer
  | .remaining _, answer => answer

theorem run_job (call : TypedCall types) :
    call.job.run = .ask (.cache call.raw) fun answer => .done (call.reading answer) := by
  cases call with
  | get kind key => exact Job.run_readEntry _ _
  | remove key =>
    change Dialogue.ask _ _ = _
    congr 1
    funext answer
    cases answer <;> rfl
  | set key value lifetime => rfl
  | delete key => rfl
  | contains key => rfl
  | remaining key => rfl

def perform {m : Type → Type} [Monad m] (backend : Backend m) (now : Nat)
    (call : TypedCall types) : m (Except Failure call.Result) :=
  backend.carryOut now call.job

theorem perform_eq {m : Type → Type} [Monad m] [LawfulMonad m] (backend : Backend m) (now : Nat)
    (call : TypedCall types) :
    call.perform backend now = call.reading <$> backend now call.raw := by
  rw [perform, Backend.carryOut, run_job, map_eq_pure_bind]
  rfl

/-- Calls with values on a timed map go by the time between them. -/
theorem session_ahead {delay now : Nat} {map other : TimedMap}
    (ahead : TimedMap.Ahead delay map other) (moves : List (Move (TypedCall types))) :
    (session (perform TimedMap.backend) (now + delay) moves).run' other =
      (session (perform TimedMap.backend) now moves).run' map := by
  apply session_delay _ ahead
  intro now call map other ahead
  obtain ⟨same, still⟩ := ahead.answer now call.raw
  rw [perform_eq, perform_eq]
  refine ⟨?_, still⟩
  change call.reading (.ok (other.answer (now + delay) call.raw).1) = _
  rw [same]
  rfl

/-- A session that starts with an empty map may as well start at once. -/
theorem session_empty (start : Nat) (moves : List (Move (TypedCall types))) :
    (session (perform TimedMap.backend) start moves).run' .empty =
      (session (perform TimedMap.backend) 0 moves).run' .empty := by
  have later := @session_ahead types start 0 .empty .empty (fun _ => rfl) moves
  rwa [Nat.zero_add] at later

/-- A cache that stands for another does so for calls with values. -/
theorem refines {σ τ ε : Type} {backend : Backend (StateT σ (Except ε))}
    {spec : Backend (StateM τ)} {proper : Nat → Call → Prop} {sound : σ → Prop}
    {R : Nat → σ → τ → Prop} (refines : Refines backend spec proper sound R) :
    Refines (perform backend) (perform spec)
      (fun now (call : TypedCall types) => proper now call.raw) sound R where
  later := refines.later
  step {now call s t} related proper := by
    obtain ⟨s', answered, related⟩ := refines.step related proper
    rw [perform_eq, perform_eq]
    refine ⟨s', ?_, related⟩
    change (backend now call.raw s).bind _ = _
    rw [answered]
    rfl

end TypedCall

end QuoteGateway.Cache
