import Mathlib.Algebra.Group.Nat.Defs
import Mathlib.Logic.Function.Basic
import QuoteGateway.Cache.RedisServer
import QuoteGateway.Proofs.Cache.Keeper

/-!
# Caches in memory and on a server are interchangeable

A server counts time in whole milliseconds and an empty text as no entry. The text of a value is
never empty, so as long as lifetimes and the time between calls are whole milliseconds the cache on
a server stands for a timed map, as the cache in memory does while its table has room.
-/

namespace QuoteGateway

namespace Number.Layout

theorem full_ne_nil (layout : Layout) {digits : List Char} (some : digits ≠ []) (place : Int) :
    layout.full digits place ≠ [] := by
  unfold full
  split
  · simp
  · simp only
    split
    · simp [some]
    · simp

theorem inFull_or_powered_ne_nil (layout : Layout) {digits : List Char} (some : digits ≠ [])
    (place : Int) :
    (if layout.writesInFull place then layout.full digits place
      else powered digits place) ≠ [] := by
  split
  · exact layout.full_ne_nil some place
  · exact List.append_ne_nil_of_right_ne_nil _ (List.cons_ne_nil _ _)

theorem write_ne_nil (layout : Layout) (x : Binary64) : layout.write x ≠ [] := by
  unfold write
  cases x.value with
  | nan => simp
  | infinite negative => simp
  | finite negative mantissa exponent =>
    exact List.append_ne_nil_of_right_ne_nil _
      (layout.inFull_or_powered_ne_nil Nat.toDigits_ne_nil _)

end Number.Layout

namespace Json.Document

theorem write_ne_nil (document : Document) : document.write ≠ [] := by
  cases document with
  | null => simp [write]
  | flag b => cases b <;> simp [write, writeFlag]
  | integer i => cases i <;> simp [write, Text.integerNumeral, Nat.toDigits_ne_nil]
  | real x =>
    rw [write, writeReal]
    split
    · exact Number.Layout.write_ne_nil _ x
    · simp
  | text s => simp [write, writeText]
  | list items => simp [write]
  | object members => simp [write]

theorem compact_ne_empty (document : Document) : document.compact ≠ "" := by
  intro none
  apply document.write_ne_nil
  rw [← String.toList_ofList (l := document.write)]
  exact congrArg String.toList none

end Json.Document

namespace Cache.Redis

theorem serverKey_injective (space : Option String) : Function.Injective (serverKey space) := by
  intro key other same
  cases space with
  | none => exact same
  | some space =>
    have letters := congrArg String.toList same
    simp only [serverKey, String.toList_append] at letters
    exact String.toList_inj.mp (List.append_cancel_left letters)

namespace Server

variable (server : Server) (now : Nat) {key other : String} (kept : Kept)

theorem live?_put_self :
    (⟨server.entries.put key kept⟩ : Server).live? now key =
      (some kept).filter (Kept.isLive · now) := by
  rw [live?, Table.get?_put_self]

theorem live?_put_of_ne (h : other ≠ key) :
    (⟨server.entries.put key kept⟩ : Server).live? now other = server.live? now other := by
  rw [live?, Table.get?_put_of_ne _ _ h, live?]

theorem live?_erase_self : (⟨server.entries.erase key⟩ : Server).live? now key = none := by
  rw [live?, Table.get?_erase_self, Option.filter_none]

theorem live?_erase_of_ne (h : other ≠ key) :
    (⟨server.entries.erase key⟩ : Server).live? now other = server.live? now other := by
  rw [live?, Table.get?_erase_of_ne _ h, live?]

theorem live?_later {later : Nat} (h : now ≤ later) (key : String) :
    server.live? later key = (server.live? now key).filter (Kept.isLive · later) := by
  rw [live?, live?, Option.filter_filter]
  congr 1
  funext kept
  cases deadline : kept.deadline with
  | none => simp [Kept.isLive, deadline]
  | some moment =>
    have both : later < moment → now < moment := fun live => h.trans_lt live
    simpa [Kept.isLive, deadline] using both

end Server

/-- A server that works answers a command by its clock, in milliseconds. -/
def serve (now : Nat) (c : signature.Call) : StateM Server (signature.Answer c) :=
  fun server => server.answer (now / 1000000) c

/-- The answers of the cache on a server that works. -/
def backend (space : Option String) : Backend (StateT Server (Except Empty)) :=
  fun now call server => .ok ((perform space call).run (m := StateM Server) (serve now) Empty.elim
    server)

theorem backend_eq (space : Option String) (now : Nat) (call : Call) (server : Server) :
    backend space now call server =
      .ok ((result call (server.answer (now / 1000000) (command space call)).1).mapError
          (failure call),
        (server.answer (now / 1000000) (command space call)).2) := rfl

/-- The longest lifetime for which the caches are interchangeable. -/
def longest : Duration := .ofMillis (10 ^ 15)

def Exact (lifetime : Duration) : Prop :=
  ∃ millis, 1 ≤ millis ∧ millis ≤ 10 ^ 15 ∧ lifetime = .ofMillis millis

theorem exact_ofMillis {millis : Nat} (positive : 1 ≤ millis) (short : millis ≤ 10 ^ 15) :
    Exact (.ofMillis millis) :=
  ⟨millis, positive, short, rfl⟩

def Suits (now : Nat) (call : Call) : Prop :=
  1000000 ∣ now ∧
    match call with
    | .write _ value lifetime => value ≠ "" ∧ Exact lifetime
    | _ => True

/-- What a server keeps of an entry. -/
def ofEntry (entry : Entry) : Kept := ⟨entry.value, some (entry.deadline / 1000000)⟩

/-- The entry has a text, and its deadline is a whole millisecond that is not too far away. -/
structure Tidy (now : Nat) (entry : Entry) : Prop where
  nonempty : entry.value ≠ ""
  whole : 1000000 ∣ entry.deadline
  near : entry.deadline ≤ now + longest.nanos

theorem Tidy.later {now later : Nat} {entry : Entry} (tidy : Tidy now entry) (h : now ≤ later) :
    Tidy later entry :=
  { tidy with near := tidy.near.trans (Nat.add_le_add_right h _) }

theorem Tidy.isLive {now : Nat} {entry : Entry} (tidy : Tidy now entry) (later : Nat) :
    Server.Kept.isLive (ofEntry entry) (later / 1000000) = entry.isLive later := by
  have whole := tidy.whole
  simp only [Server.Kept.isLive, ofEntry, Entry.isLive, decide_eq_decide]
  omega

/-- The server keeps what is live in the map, in its own place. -/
structure Mirrors (space : Option String) (now : Nat) (server : Server) (map : TimedMap) :
    Prop where
  live : ∀ key, server.live? (now / 1000000) (serverKey space key) =
    (map.live? now key).map ofEntry
  tidy : ∀ key entry, map.live? now key = some entry → Tidy now entry

section Mirrors

variable {space : Option String} {now : Nat} {server : Server} {map : TimedMap}

theorem Mirrors.later {later : Nat} (h : now ≤ later) (mirrors : Mirrors space now server map) :
    Mirrors space later server map where
  live key := by
    rw [server.live?_later _ (Nat.div_le_div_right h), mirrors.live, TimedMap.live?_later h]
    cases live : map.live? now key with
    | none => rfl
    | some entry =>
      have same := (mirrors.tidy key entry live).isLive later
      cases still : entry.isLive later <;> simp [Option.filter, same, still]
  tidy key entry live := (mirrors.tidy key entry (TimedMap.live?_of_later h live)).later h

theorem Mirrors.put (mirrors : Mirrors space now server map) (whole : 1000000 ∣ now)
    {value : String} (nonempty : value ≠ "") {lifetime : Duration} (exact : Exact lifetime)
    (key : String) :
    Mirrors space now
      (server.answer (now / 1000000) (command space (.write key value lifetime))).2
      (map.put now key value lifetime) := by
  obtain ⟨millis, positive, short, rfl⟩ := exact
  have expiry : expiryMillis (.ofMillis millis) = millis := by
    rw [expiryMillis, Duration.millis_ofMillis, longestExpiry, UInt64.size]
    omega
  have length : (Duration.ofMillis millis).nanos = millis * 1000000 := rfl
  have kept : (server.answer (now / 1000000)
      (command space (.write key value (.ofMillis millis)))).2 =
        ⟨server.entries.put (serverKey space key) ⟨value, some (now / 1000000 + millis)⟩⟩ := by
    rw [command, expiry]
    rfl
  have live : (map.put now key value (.ofMillis millis)).live? now key =
      some ⟨value, now + millis * 1000000⟩ := by
    rw [TimedMap.live?_put_self, length, if_pos (by omega)]
  rw [kept]
  constructor
  case live =>
    intro other
    by_cases same : other = key
    · have deadline : (now + millis * 1000000) / 1000000 = now / 1000000 + millis := by omega
      rw [same, Server.live?_put_self, live]
      simp [Option.filter, Server.Kept.isLive, ofEntry, deadline, Nat.ne_of_gt positive]
    · rw [Server.live?_put_of_ne _ _ _ fun equal => same (serverKey_injective space equal),
        TimedMap.live?_put_of_ne _ _ _ _ _ same]
      exact mirrors.live other
  case tidy =>
    intro other entry held
    by_cases same : other = key
    · rw [same, live] at held
      obtain rfl := Option.some.inj held
      have longest : longest.nanos = 10 ^ 15 * 1000000 := rfl
      exact ⟨nonempty, by simp only; omega, by simp only; omega⟩
    · rw [TimedMap.live?_put_of_ne _ _ _ _ _ same] at held
      exact mirrors.tidy other entry held

theorem Mirrors.erase (mirrors : Mirrors space now server map) (key : String) :
    Mirrors space now ⟨server.entries.erase (serverKey space key)⟩ (map.erase key) where
  live other := by
    by_cases same : other = key
    · rw [same, Server.live?_erase_self, TimedMap.live?_erase_self]
      rfl
    · rw [Server.live?_erase_of_ne _ _ fun equal => same (serverKey_injective space equal),
        TimedMap.live?_erase_of_ne _ _ same]
      exact mirrors.live other
  tidy other entry held := by
    by_cases same : other = key
    · rw [same, TimedMap.live?_erase_self] at held
      cases held
    · rw [TimedMap.live?_erase_of_ne _ _ same] at held
      exact mirrors.tidy other entry held

theorem Mirrors.remaining (mirrors : Mirrors space now server map) (whole : 1000000 ∣ now)
    (key : String) :
    result (.remaining key)
        (.integer (server.remainingMillis (now / 1000000) (serverKey space key))) =
      .ok ((map.live? now key).map (·.remaining now)) := by
  rw [Server.remainingMillis, mirrors.live]
  cases live : map.live? now key with
  | none => rfl
  | some entry =>
    obtain ⟨-, deadline, near⟩ := mirrors.tidy key entry live
    have longest : longest.nanos = 10 ^ 15 * 1000000 := rfl
    have kept : (entry.deadline / 1000000 - now / 1000000) * 1000000 = entry.deadline - now := by
      omega
    have small : ((entry.deadline / 1000000 - now / 1000000 : Nat) : Int).bmod UInt64.size =
        (entry.deadline / 1000000 - now / 1000000 : Nat) := by
      apply Int.bmod_eq_of_le <;> simp only [UInt64.size] <;> omega
    change Except.map (fun i : Int => if i < 0 then none else some (Duration.ofMillis i.toNat))
      (.ok (Int.bmod (entry.deadline / 1000000 - now / 1000000 : Nat) UInt64.size)) = _
    rw [small]
    change Except.ok (if ((_ : Nat) : Int) < 0 then none else some (Duration.ofMillis _)) = _
    rw [if_neg (Int.not_lt.mpr (Int.natCast_nonneg _)), Int.toNat_natCast, Duration.ofMillis, kept]
    rfl

theorem Mirrors.answer (mirrors : Mirrors space now server map) {call : Call}
    (suits : Suits now call) :
    result call (server.answer (now / 1000000) (command space call)).1 =
        .ok (map.answer now call).1 ∧
      Mirrors space now (server.answer (now / 1000000) (command space call)).2
        (map.answer now call).2 := by
  obtain ⟨whole, proper⟩ := suits
  cases call with
  | read key =>
    refine ⟨?_, mirrors⟩
    simp only [command, Server.answer, TimedMap.answer, mirrors.live]
    cases live : map.live? now key with
    | none => rfl
    | some entry =>
      have text : (!entry.value.isEmpty) = true := by
        simpa using (mirrors.tidy key entry live).nonempty
      simp [result, asOptionalText, asText, ofEntry, Except.map, Option.filter, text]
  | write key value lifetime => exact ⟨rfl, mirrors.put whole proper.1 proper.2 key⟩
  | delete key =>
    refine ⟨?_, mirrors.erase key⟩
    simp only [command, Server.answer, TimedMap.answer, mirrors.live]
    cases map.live? now key <;> rfl
  | contains key =>
    refine ⟨?_, mirrors⟩
    simp only [command, Server.answer, TimedMap.answer, mirrors.live]
    cases map.live? now key <;> rfl
  | remaining key => exact ⟨mirrors.remaining whole key, mirrors⟩
  | ping => exact ⟨rfl, mirrors⟩

end Mirrors

/-- The cache on a server stands for the timed map. -/
theorem refines (space : Option String) :
    Refines (backend space) TimedMap.backend Suits (fun _ => True) (Mirrors space) where
  later h mirrors := mirrors.later h
  step {now call server map} mirrors suits := by
    obtain ⟨answered, mirrors⟩ := mirrors.answer suits
    refine ⟨_, ?_, fun _ => mirrors⟩
    rw [backend_eq, answered]
    rfl

end Cache.Redis

namespace Cache

def Move.Whole {types : Types} : Move (TypedCall types) → Prop
  | .pass duration => ∃ millis, duration = .ofMillis millis
  | .call (.set _ _ lifetime) => Redis.Exact lifetime
  | .call _ => True

section Interchange

variable {types : Types} {moves : List (Move (TypedCall types))}

theorem Redis.along_of_whole (whole : ∀ move ∈ moves, move.Whole) (space : Option String)
    (start : Nat) (server : Redis.Server) :
    Along (TypedCall.perform (Redis.backend space)) (fun now call => Redis.Suits now call.raw)
      (fun _ => True) (start * 1000000) server moves := by
  apply Along.of_forall (1000000 ∣ ·)
  case passes =>
    intro duration member now moment
    obtain ⟨millis, rfl⟩ := whole _ member
    exact Nat.dvd_add moment (Nat.dvd_mul_left _ _)
  case calls =>
    intro call member now moment
    refine ⟨moment, ?_⟩
    cases call with
    | set key value lifetime => exact ⟨value.compact_ne_empty, whole _ member⟩
    | get kind key => trivial
    | remove key => trivial
    | delete key => trivial
    | contains key => trivial
    | remaining key => trivial
  case start => exact Nat.dvd_mul_left _ _

/-- The cache on a server and the cache in memory are interchangeable as long as the table in memory
has room for what it holds: in every session of typed calls at whole milliseconds they give the same
answers, whatever keys are set apart on the server, whenever each clock started and whatever the
table drops. Different keys never share an entry of the server. -/
theorem interchangeable (space : Option String) (choices : InMemory.Choices)
    (whole : ∀ move ∈ moves, move.Whole) {capacity : Nat} (room : capacity ≠ 0)
    (start millis : Nat)
    (along : Along (TypedCall.perform choices.backend)
      (fun now call => InMemory.OnClock now call.raw) InMemory.Keeper.Fits start (.empty capacity)
      moves)
    (server : Redis.Server)
    (vacant : ∀ key, server.live? millis (Redis.serverKey space key) = none) :
    Function.Injective (Redis.serverKey space) ∧
      ∃ answers,
        (session (TypedCall.perform (Redis.backend space)) (millis * 1000000) moves).run' server =
            .ok answers ∧
          (session (TypedCall.perform choices.backend) start moves).run' (.empty capacity) =
            .ok answers := by
  -- Both sessions give the answers of a map that is empty at the first moment of its clock.
  refine ⟨Redis.serverKey_injective space,
    (session (TypedCall.perform TimedMap.backend) 0 moves).run' .empty, ?_, ?_⟩
  · have mirrors : Redis.Mirrors space (millis * 1000000) server .empty := by
      refine ⟨fun key => ?_, fun _ _ => nofun⟩
      rw [Nat.mul_div_cancel _ (by decide), vacant key]
      rfl
    rw [(TypedCall.refines (Redis.refines space)).session_eq mirrors
      (Redis.along_of_whole whole space millis server), TypedCall.session_empty]
  · rw [(TypedCall.refines (InMemory.refines choices)).session_eq
      (InMemory.mirrors_empty room start) along, TypedCall.session_empty]

end Interchange

def flags : Types := ⟨Unit, fun _ => Bool, fun _ => Json.flag⟩

/-- Keys that look alike behind the prefix, an entry written over, an entry that is no flag, the
longest lifetime, and calls at the very end of a lifetime. -/
def lookalikes : List (Move (TypedCall flags)) := [
  .call (.set "a" (.flag true) (.ofMillis 2)),
  .call (.set "fx:a" (.text "") (.ofMillis (10 ^ 15))),
  .pass (.ofMillis 1), .call (.remaining "a"), .call (.get () "a"), .call (.get () "fx:a"),
  .call (.set "a" (.flag false) (.ofMillis 1)), .pass (.ofMillis 1), .call (.get () "a"),
  .call (.delete "a"), .call (.contains "fx:a"), .call (.remaining "fx:a"), .call (.remove "fx:a"),
  .call (.delete "fx:a")]

theorem interchangeable_of_lookalikes :
    (∀ move ∈ lookalikes, move.Whole) ∧
    Along (TypedCall.perform (InMemory.Choices.backend fun _ _ => true))
      (fun now call => InMemory.OnClock now call.raw) InMemory.Keeper.Fits 41 (.empty 2)
      lookalikes ∧
    ∃ answers,
      (session (TypedCall.perform (Redis.backend (some "fx"))) (3 * 1000000) lookalikes).run'
          .empty = .ok answers ∧
        (session (TypedCall.perform (InMemory.Choices.backend fun _ _ => true)) 41 lookalikes).run'
          (.empty 2) = .ok answers ∧
        answers = [⟨.set "a" (.flag true) (.ofMillis 2), .ok ()⟩,
          ⟨.set "fx:a" (.text "") (.ofMillis (10 ^ 15)), .ok ()⟩,
          ⟨.remaining "a", .ok (some (.ofMillis 1))⟩, ⟨.get () "a", .ok (some true)⟩,
          ⟨.get () "fx:a", .error (.unreadableEntry "fx:a"
            ⟨.wrongType (.text "") "a boolean", some ⟨1, 2⟩⟩)⟩,
          ⟨.set "a" (.flag false) (.ofMillis 1), .ok ()⟩, ⟨.get () "a", .ok none⟩,
          ⟨.delete "a", .ok false⟩, ⟨.contains "fx:a", .ok true⟩,
          ⟨.remaining "fx:a", .ok (some (.ofMillis (10 ^ 15 - 2)))⟩, ⟨.remove "fx:a", .ok ()⟩,
          ⟨.delete "fx:a", .ok false⟩] := by
  have whole : ∀ move ∈ lookalikes, move.Whole := by
    simp [lookalikes, Move.Whole, Redis.exact_ofMillis]
  have along : Along (TypedCall.perform (InMemory.Choices.backend fun _ _ => true))
      (fun now call => InMemory.OnClock now call.raw) InMemory.Keeper.Fits 41 (.empty 2)
      lookalikes := by
    decide +kernel
  obtain ⟨-, answers, remote, here⟩ :=
    interchangeable (some "fx") (fun _ _ => true) whole (by decide) 41 3 along .empty fun _ => rfl
  exact ⟨whole, along, answers, remote, here, Except.ok.inj (remote.symm.trans rfl)⟩

def crowded : List (Move (TypedCall flags)) := [
  .call (.set "a" (.flag true) (.ofMillis 2)), .call (.set "b" (.flag true) (.ofMillis 2)),
  .call (.get () "a")]

/-- An entry that is set when the clock has come to its end. -/
def belated : List (Move (TypedCall flags)) := [
  .pass (.ofMillis (2 ^ 63 * 1000)), .call (.set "a" (.flag true) (.ofMillis 1))]

/-- A table that has room for one entry, or for none, may have lost the first of two that a server
still has. An entry past the end of the clock is lost with its caller. -/
theorem not_interchangeable_crowded :
    (∀ move ∈ crowded ++ belated, move.Whole) ∧
    (session (TypedCall.perform (Redis.backend none)) 0 crowded).run' .empty =
      .ok [⟨.set "a" (.flag true) (.ofMillis 2), .ok ()⟩,
        ⟨.set "b" (.flag true) (.ofMillis 2), .ok ()⟩, ⟨.get () "a", .ok (some true)⟩] ∧
    (∀ capacity ∈ [0, 1],
      (session (TypedCall.perform (InMemory.Choices.backend fun _ _ => true)) 0 crowded).run'
          (.empty capacity) =
        .ok [⟨.set "a" (.flag true) (.ofMillis 2), .ok ()⟩,
          ⟨.set "b" (.flag true) (.ofMillis 2), .ok ()⟩, ⟨.get () "a", .ok none⟩]) ∧
    (session (TypedCall.perform (Redis.backend none)) 0 belated).run' .empty =
      .ok [⟨.set "a" (.flag true) (.ofMillis 1), .ok ()⟩] ∧
    (session (TypedCall.perform (InMemory.Choices.backend fun _ _ => true)) 0 belated).run'
        (.empty 2) = .error ⟨⟩ := by
  have whole : ∀ move ∈ crowded ++ belated, move.Whole := by
    simp [crowded, belated, Move.Whole, Redis.exact_ofMillis]
  refine ⟨whole, rfl, ?_, rfl, rfl⟩
  simp only [List.mem_cons, List.not_mem_nil, or_false, forall_eq_or_imp, forall_eq]
  exact ⟨rfl, rfl⟩

end Cache

end QuoteGateway
