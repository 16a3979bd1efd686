import QuoteGateway.Proofs.Chronicle

/-!
# Every log that is written

Requests overlap in any way, on a cache that may hold anything at the start: logs of other keys,
logs that are too long, out of order or ahead of the clock. What a request writes is bounded all the
same, as it prunes the very log that it was admitted with, from the same start of the window.
-/

namespace QuoteGateway

open Cache (TimedMap)

/-- A log as it is written for a request at an instant, after the gate admitted the request. -/
structure WellFormed (limit : RateLimit) (now : Calendar.Instant) (admitted log : QuotaState) :
    Prop where
  last : log.usages.getLast? = some now.unixSeconds
  recent : ∀ t ∈ log.usages.dropLast, limit.windowStart now ≤ t
  id : log.apiKeyId = admitted.apiKeyId
  tier : log.tier = admitted.tier
  bounded : log.tier = .limited → log.usages.length ≤ limit.maxUsages.toNat

/-- A log that is in order and holds nothing after a second. -/
structure Tidy (second : Int) (log : QuotaState) : Prop where
  sorted : log.usages.Pairwise (· ≤ ·)
  past : ∀ t ∈ log.usages, t.toInt ≤ second

theorem Tidy.later {second later : Int} {log : QuotaState} (tidy : Tidy second log)
    (h : second ≤ later) : Tidy later log :=
  ⟨tidy.sorted, fun t member => (tidy.past t member).trans h⟩

namespace QuotaState

theorem length_usages_record (state : QuotaState) (now start : Int64) :
    (state.record now start).usages.length = state.usagesSince start + 1 := by
  rw [usages_record, List.length_append, List.length_singleton, usagesSince,
    List.countP_eq_length_filter]

/-- Pruning bounds the log because the gate has counted from the same second. -/
theorem wellFormed_record {state : QuotaState} {limit : RateLimit} {now : Calendar.Instant}
    (admitted : state.exceeds limit now = false) :
    WellFormed limit now state (state.record now.unixSeconds (limit.windowStart now)) where
  last := state.getLast?_usages_record _ _
  recent := by
    intro t member
    rw [usages_record, List.dropLast_concat, List.mem_filter] at member
    exact of_decide_eq_true member.2
  id := rfl
  tier := rfl
  bounded := by
    intro limited
    have few : ¬ limit.maxUsages.toNat ≤ state.usagesSince (limit.windowStart now) := by
      intro full
      rw [usagesSince_eq] at full
      have exceeded := (state.exceeds_iff limit now).mpr ⟨limited, full⟩
      rw [admitted] at exceeded
      cases exceeded
    rw [length_usages_record]
    omega

theorem tidy_record {state : QuotaState} {now : Calendar.Instant}
    (tidy : Tidy now.seconds state) (start : Int64) :
    Tidy now.seconds (state.record now.unixSeconds start) where
  sorted := by
    rw [usages_record, List.pairwise_append]
    refine ⟨tidy.sorted.sublist List.filter_sublist, List.pairwise_singleton _ _, ?_⟩
    intro t earlier last isLast
    obtain rfl := List.mem_singleton.mp isLast
    rw [Int64.le_iff_toInt_le, now.toInt_unixSeconds]
    exact tidy.past t (List.mem_filter.mp earlier).1
  past := by
    intro t member
    rw [usages_record, List.mem_append, List.mem_singleton] at member
    rcases member with earlier | rfl
    · exact tidy.past t (List.mem_filter.mp earlier).1
    · exact le_of_eq now.toInt_unixSeconds

theorem tidy_ofKey (key : ApiKey) (second : Int) : Tidy second (.ofKey key) :=
  ⟨List.Pairwise.nil, nofun⟩

end QuotaState

/-- What a request that was admitted with a log, by exchanges that it has had, writes for a key. -/
structure Records (policy : QuotePolicy) (inquiry : Inquiry)
    (heard : List (Exchange gatewaySignature)) (key value : String) (admitted log : QuotaState)
    (gate : List (Exchange gatewaySignature)) : Prop where
  course : Job.Course (Gate.authorize policy.limit inquiry.id inquiry.now) gate (.ok admitted)
  before : gate <+: heard
  key : key = CacheKey.ofApiKey log.apiKeyId
  value : value = log.document.compact
  wellFormed : WellFormed policy.limit inquiry.now admitted log

theorem GoesOn.records {policy : QuotePolicy} {inquiry : Inquiry}
    {heard : List (Exchange gatewaySignature)} {key value : String} {lifetime : Duration}
    {next : gatewaySignature.Answer (.cache (.write key value lifetime)) →
      Dialogue gatewaySignature (Except Failure QuoteResponse)}
    (goesOn : GoesOn policy inquiry heard (.ask (.cache (.write key value lifetime)) next)) :
    ∃ admitted log gate, Records policy inquiry heard key value admitted log gate := by
  obtain ⟨admitted, gate, charge, before, course⟩ := goesOn.charge_of_write
  cases charge
  obtain ⟨-, -, within⟩ := Gate.course_authorize_ok.mp course
  exact ⟨admitted, admitted.record inquiry.now.unixSeconds (policy.limit.windowStart inquiry.now),
    gate, course, before, rfl, rfl, QuotaState.wellFormed_record within⟩

theorem Records.later {policy : QuotePolicy} {inquiry : Inquiry}
    {heard gate : List (Exchange gatewaySignature)} {key value : String} {admitted log : QuotaState}
    (records : Records policy inquiry heard key value admitted log gate)
    (more : List (Exchange gatewaySignature)) :
    Records policy inquiry (heard ++ more) key value admitted log gate :=
  { records with before := records.before.trans (List.prefix_append _ _) }

/-- A request has written this for a key, bounded and made from the log that it was admitted
with. -/
def Chronicle.Recorded (policy : QuotePolicy) (chronicle : Chronicle) (key value : String) : Prop :=
  ∃ number inquiry admitted log gate, chronicle.yard.inquiries[number]? = some inquiry ∧
    Records policy inquiry (chronicle.heard number) key value admitted log gate

theorem Chronicle.Recorded.step {policy : QuotePolicy} {chronicle : Chronicle} {key value : String}
    (recorded : chronicle.Recorded policy key value) (move : Move) :
    (chronicle.step policy move).Recorded policy key value := by
  obtain ⟨number, inquiry, admitted, log, gate, begun, records⟩ := recorded
  obtain ⟨more, heard⟩ := chronicle.exists_heardAfter move number
  refine ⟨number, inquiry, admitted, log, gate, ?_, ?_⟩
  · rw [Chronicle.yard_step, Yard.inquiries_step]
    exact (List.getElem?_append_left (List.getElem?_eq_some_iff.mp begun).1).trans begun
  · rw [Chronicle.heard_step, heard]
    exact records.later more

/-- Every log in the cache was there at the start or has been written by a request. -/
def Accounted (policy : QuotePolicy) (start : TimedMap) (chronicle : Chronicle) : Prop :=
  ∀ id entry, chronicle.yard.map.entries.get? (CacheKey.ofApiKey id) = some entry →
    start.entries.get? (CacheKey.ofApiKey id) = some entry ∨
      chronicle.Recorded policy (CacheKey.ofApiKey id) entry.value

namespace Accounted

variable {policy : QuotePolicy} {start : TimedMap} {chronicle : Chronicle}

theorem step (accounted : Accounted policy start chronicle) (traced : Traced policy chronicle)
    (move : Move) : Accounted policy start (chronicle.step policy move) := by
  intro id entry there
  rcases Yard.entry_of_step there with before | ⟨number, c, inquiry, lifetime, next, -, found⟩
  · exact (accounted id entry before).imp_right fun recorded => recorded.step move
  · obtain ⟨admitted, log, gate, records⟩ := (traced.goesOn number inquiry _ found).records
    have recorded : chronicle.Recorded policy (CacheKey.ofApiKey id) entry.value :=
      ⟨number, inquiry, admitted, log, gate, Yard.getElem?_inquiries found, records⟩
    exact .inr (recorded.step move)

theorem after (accounted : Accounted policy start chronicle) (traced : Traced policy chronicle)
    (moves : List Move) : Accounted policy start (chronicle.after policy moves) := by
  induction moves generalizing chronicle with
  | nil => exact accounted
  | cons move moves ih => exact ih (accounted.step traced move) (traced.step move)

end Accounted

namespace Yard

variable {policy : QuotePolicy} {yard : Yard}

/-- The request that was begun last. -/
structure Latest (yard : Yard) (number : Nat) (inquiry : Inquiry) : Prop where
  last : number + 1 = yard.inquiries.length
  begun : yard.inquiries[number]? = some inquiry

theorem now_le_step (move : Move) : yard.now ≤ (yard.step policy move).now := by
  cases move with
  | proceed number c =>
    rw [step, proceed]
    split <;> exact le_rfl
  | drop number =>
    rw [step, drop]
    split <;> exact le_rfl
  | pass duration => exact Nat.le_add_right _ _
  | _ => exact le_rfl

theorem latest_step {move : Move} {number : Nat} {inquiry : Inquiry}
    (latest : (yard.step policy move).Latest number inquiry) :
    (move = .begin inquiry ∧ number = yard.inquiries.length) ∨
      (move.begun = [] ∧ yard.Latest number inquiry) := by
  obtain ⟨last, begun⟩ := latest
  rw [inquiries_step] at last begun
  cases move with
  | begin other =>
    left
    rw [Move.begun, List.length_append, List.length_singleton] at last
    obtain rfl : number = yard.inquiries.length := by omega
    rw [Move.begun, List.getElem?_concat_length] at begun
    cases begun
    exact ⟨rfl, rfl⟩
  | _ =>
    simp only [Move.begun, List.append_nil] at last begun
    exact .inr ⟨rfl, last, begun⟩

/-- A text that is read is that of a live entry. -/
theorem live_of_exchange {number : Nat} {c : Circumstances} {key text : String}
    (h : ⟨.cache (.read key), .ok (some text)⟩ ∈ yard.exchange number c) :
    ∃ entry, yard.map.live? yard.now key = some entry ∧ entry.value = text := by
  unfold exchange at h
  split at h
  · rename_i inquiry call next found
    obtain ⟨rfl, told⟩ := Exchange.mk.inj (List.mem_singleton.mp h)
    rw [c.respond_read] at told
    cases fault : c.fault 0 (.read key) with
    | some words =>
      simp only [fault] at told
      cases told
    | none =>
      simp only [fault] at told
      exact Option.map_eq_some_iff.mp (Except.ok.inj (eq_of_heq told)).symm
  · cases h

end Yard

/-- No log in the cache holds a second after its writer, and none that the latest request has read
one after that request. -/
structure Orderly (chronicle : Chronicle) : Prop where
  latest : ∀ number inquiry, chronicle.yard.Latest number inquiry →
    ∀ earlier ∈ chronicle.yard.inquiries, earlier.now.seconds ≤ inquiry.now.seconds
  stored : ∀ id entry,
    chronicle.yard.map.live? chronicle.yard.now (CacheKey.ofApiKey id) = some entry →
      ∃ log, Json.readText QuotaState.reader entry.value = .ok log ∧
        ∃ writer ∈ chronicle.yard.inquiries, Tidy writer.now.seconds log
  heard : ∀ number inquiry, chronicle.yard.Latest number inquiry → ∀ id text log,
    ⟨.cache (.read (CacheKey.ofApiKey id)), .ok (some text)⟩ ∈ chronicle.heard number →
      Json.readText QuotaState.reader text = .ok log → Tidy inquiry.now.seconds log

namespace Orderly

variable {policy : QuotePolicy} {chronicle : Chronicle}

theorem opening {now : Nat} {map : TimedMap}
    (fresh : ∀ id, map.live? now (CacheKey.ofApiKey id) = none) :
    Orderly (.opening now map) where
  latest := by
    intro number inquiry latest
    cases latest.begun
  stored := by
    intro id entry live
    cases (fresh id).symm.trans live
  heard := by
    intro number inquiry latest
    cases latest.begun

theorem tidy_admitted (orderly : Orderly chronicle) {number : Nat} {inquiry : Inquiry}
    (latest : chronicle.yard.Latest number inquiry) {admitted : QuotaState}
    {gate : List (Exchange gatewaySignature)} (before : gate <+: chronicle.heard number)
    (course : Job.Course (Gate.authorize policy.limit inquiry.id inquiry.now) gate (.ok admitted)) :
    Tidy inquiry.now.seconds admitted := by
  obtain ⟨-, load, -⟩ := Gate.course_authorize_ok.mp course
  rcases Gate.course_loadState_ok load with
    ⟨text, rfl, read⟩ | ⟨key, rfl, rfl⟩
  · exact orderly.heard number inquiry latest _ text admitted
      (before.subset List.mem_cons_self) read
  · exact QuotaState.tidy_ofKey key _

theorem latest_step (orderly : Orderly chronicle) {move : Move}
    (turn : move.TakesTurn chronicle.yard.inquiries) {number : Nat} {inquiry : Inquiry}
    (latest : (chronicle.step policy move).yard.Latest number inquiry) :
    ∀ earlier ∈ (chronicle.step policy move).yard.inquiries,
      earlier.now.seconds ≤ inquiry.now.seconds := by
  intro earlier member
  rw [Chronicle.yard_step, Yard.inquiries_step, List.mem_append] at member
  rcases Yard.latest_step latest with ⟨rfl, -⟩ | ⟨none, before⟩
  · rcases member with old | new
    · exact turn earlier old
    · rw [List.mem_singleton.mp new]
  · rw [none] at member
    exact orderly.latest number inquiry before earlier (member.resolve_right List.not_mem_nil)

theorem stored_step (orderly : Orderly chronicle) (traced : Traced policy chronicle)
    {move : Move} (turn : move.TakesTurn chronicle.yard.inquiries) {id : String}
    {entry : Cache.Entry}
    (live : (chronicle.step policy move).yard.map.live? (chronicle.step policy move).yard.now
      (CacheKey.ofApiKey id) = some entry) :
    ∃ log, Json.readText QuotaState.reader entry.value = .ok log ∧
      ∃ writer ∈ (chronicle.step policy move).yard.inquiries, Tidy writer.now.seconds log := by
  obtain ⟨there, alive⟩ := TimedMap.live?_eq_some_iff.mp live
  rw [Chronicle.yard_step, Yard.inquiries_step]
  rcases Yard.entry_of_step there with before | ⟨number, c, inquiry, lifetime, next, rfl, found⟩
  · have aliveBefore := lt_of_le_of_lt (Yard.now_le_step move) alive
    obtain ⟨log, read, writer, begun, tidy⟩ :=
      orderly.stored id entry (TimedMap.live?_eq_some_iff.mpr ⟨before, aliveBefore⟩)
    exact ⟨log, read, writer, List.mem_append_left _ begun, tidy⟩
  · have begun := Yard.getElem?_inquiries found
    obtain ⟨admitted, gate, charge, heard, course⟩ :=
      (traced.goesOn number inquiry _ found).charge_of_write
    obtain ⟨-, value, -⟩ := Cache.Call.write.inj (Call.cache.inj charge)
    refine ⟨_, value ▸ QuotaState.readText_compact _, inquiry, ?_, ?_⟩
    · exact List.mem_append_left _ (List.mem_of_getElem? begun)
    · exact QuotaState.tidy_record (orderly.tidy_admitted ⟨turn, begun⟩ heard course) _

theorem heard_step (orderly : Orderly chronicle) (traced : Traced policy chronicle)
    {move : Move} (turn : move.TakesTurn chronicle.yard.inquiries) {number : Nat}
    {inquiry : Inquiry}
    (latest : (chronicle.step policy move).yard.Latest number inquiry) {id text : String}
    {log : QuotaState}
    (told : ⟨.cache (.read (CacheKey.ofApiKey id)), .ok (some text)⟩ ∈
      (chronicle.step policy move).heard number)
    (read : Json.readText QuotaState.reader text = .ok log) : Tidy inquiry.now.seconds log := by
  rcases Yard.latest_step latest with ⟨rfl, rfl⟩ | ⟨-, before⟩
  · rw [Chronicle.heard_step] at told
    change _ ∈ chronicle.heard _ at told
    rw [traced.unheard _ le_rfl] at told
    cases told
  have old := orderly.heard number inquiry before id text log
  cases move with
  | proceed other c =>
    obtain rfl : number = other := Nat.succ.inj (before.last.trans turn.symm)
    rw [Chronicle.heard_step, Chronicle.heardAfter, Function.update_self, List.mem_append] at told
    rcases told with earlier | now
    · exact old earlier read
    · obtain ⟨entry, live, rfl⟩ := Yard.live_of_exchange now
      obtain ⟨stored, same, writer, begun, tidy⟩ := orderly.stored id entry live
      obtain rfl : log = stored := Except.ok.inj (read.symm.trans same)
      exact tidy.later (orderly.latest number inquiry before writer begun)
  | _ => exact old told read

theorem step (orderly : Orderly chronicle) (traced : Traced policy chronicle) {move : Move}
    (turn : move.TakesTurn chronicle.yard.inquiries) : Orderly (chronicle.step policy move) where
  latest := fun _ _ => orderly.latest_step turn
  stored := fun _ _ => orderly.stored_step traced turn
  heard := fun _ _ latest _ _ _ => orderly.heard_step traced turn latest

theorem after (orderly : Orderly chronicle) (traced : Traced policy chronicle)
    {moves : List Move} (turns : Move.InTurn chronicle.yard.inquiries moves) :
    Orderly (chronicle.after policy moves) := by
  induction moves generalizing chronicle with
  | nil => exact orderly
  | cons move moves ih =>
    apply ih (orderly.step traced turns.1) (traced.step move)
    rw [Chronicle.yard_step, Yard.inquiries_step]
    exact turns.2

end Orderly

/-- Whatever the cache holds at the start and however requests overlap, a request about to write
writes a bounded log, made from the one that it was admitted with, and every log in the cache was
there at the start or is one of these. Where requests follow one another on a clock that does not go
back, and no log was there, every log in the cache is in order. -/
theorem wellFormed_of_written (policy : QuotePolicy) (now : Nat) (map : TimedMap)
    (moves : List Move) :
    let chronicle := (Chronicle.opening now map).after policy moves
    (∀ number inquiry key value, chronicle.yard.inquiries[number]? = some inquiry →
      chronicle.yard.writing number = some (key, value) → ∃ admitted log gate,
        Records policy inquiry (chronicle.heard number) key value admitted log gate) ∧
    (∀ id entry, chronicle.yard.map.entries.get? (CacheKey.ofApiKey id) = some entry →
      map.entries.get? (CacheKey.ofApiKey id) = some entry ∨
        chronicle.Recorded policy (CacheKey.ofApiKey id) entry.value) ∧
    ((∀ id, map.live? now (CacheKey.ofApiKey id) = none) →
      Move.InTurn [] moves →
      ∀ id entry, chronicle.yard.map.live? chronicle.yard.now (CacheKey.ofApiKey id) = some entry →
        ∃ log, Json.readText QuotaState.reader entry.value = .ok log ∧
          log.usages.Pairwise (· ≤ ·)) := by
  intro chronicle
  have opening : Traced policy (.opening now map) := .opening now map
  have accounted : Accounted policy map (.opening now map) := fun _ _ there => .inl there
  refine ⟨?_, accounted.after opening moves, ?_⟩
  · intro number inquiry key value begun writing
    obtain ⟨other, lifetime, next, found⟩ := Yard.task_of_writing writing
    obtain rfl := Option.some.inj (begun.symm.trans (Yard.getElem?_inquiries found))
    exact ((opening.after moves).goesOn number _ _ found).records
  · intro fresh turns id entry live
    have orderly : Orderly chronicle := (Orderly.opening fresh).after opening turns
    obtain ⟨log, read, writer, -, tidy⟩ := orderly.stored id entry live
    exact ⟨log, read, tidy.sorted⟩

namespace Small

def roomy : QuotePolicy := ⟨⟨.ofSeconds 60, 2, .ofSeconds 600⟩, .strict⟩

/-- A log that is too long, out of order and ahead of the clock. -/
def stale : QuotaState := ⟨"key", .limited, [-90, 30, -75]⟩

/-- Two requests, each of which is answered whenever its number comes up. -/
def twoRequests (order : List Nat) : List Move :=
  [.publish "USD" "JPY" "\x7b\"rate\":150.0,\"timestamp\":0\x7d" (.ofSeconds 600),
    .begin (inquiry firstSecond), .begin (inquiry nextMinute)] ++
  order.map fun number => .proceed number world

/-- Two requests, the second of which begins when the first is answered. -/
def oneByOne : List Move :=
  [.publish "USD" "JPY" "\x7b\"rate\":150.0,\"timestamp\":0\x7d" (.ofSeconds 600),
    .begin (inquiry firstSecond), .proceed 0 world, .proceed 0 world, .proceed 0 world,
    .proceed 0 world, .begin (inquiry nextMinute), .proceed 1 world, .proceed 1 world,
    .proceed 1 world]

/-- Of two requests that have read the same log, the second is about to write. After two requests in
turn, the log of both is in order. -/
theorem wellFormed_of_twoRequests :
    (let map := TimedMap.empty.put 0 (CacheKey.ofApiKey "key") stale.document.compact (.ofSeconds 1)
      ∃ admitted log gate, Records roomy (inquiry nextMinute)
        (((Chronicle.opening 0 map).after roomy (twoRequests [0, 1, 0, 1])).heard 1)
        (CacheKey.ofApiKey "key") (stale.record 60 0).document.compact admitted log gate) ∧
    (let chronicle := (Chronicle.opening 0 .empty).after roomy oneByOne
      ∃ entry, chronicle.yard.map.live? chronicle.yard.now (CacheKey.ofApiKey "key") = some entry ∧
        ∃ log, Json.readText QuotaState.reader entry.value = .ok log ∧
          log.usages.Pairwise (· ≤ ·)) := by
  constructor
  · intro map
    apply (wellFormed_of_written roomy 0 map (twoRequests [0, 1, 0, 1])).1 1
    · rw [Chronicle.yard_after, Yard.inquiries_after]
      rfl
    · decide +kernel
  · intro chronicle
    have turns : Move.InTurn [] oneByOne := by
      refine ⟨trivial, List.forall_mem_nil _, rfl, rfl, rfl, rfl, ?_, rfl, rfl, rfl, trivial⟩
      intro other begun
      rw [List.mem_singleton.mp begun]
      decide
    have there :
        (chronicle.yard.map.live? chronicle.yard.now (CacheKey.ofApiKey "key")).isSome := by
      decide +kernel
    obtain ⟨entry, live⟩ := Option.isSome_iff_exists.mp there
    exact ⟨entry, live, (wellFormed_of_written roomy 0 .empty oneByOne).2.2 (fun _ => rfl) turns
      "key" entry live⟩

end Small

end QuoteGateway
