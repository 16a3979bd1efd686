import Mathlib.Order.CompleteBooleanAlgebra
import Mathlib.Order.CompletePartialOrder
import QuoteGateway.Proofs.Conduct
import QuoteGateway.Proofs.Contract
import QuoteGateway.Proofs.QuotaText

/-!
# API keys do not see each other

What a key is told, and its log, depend on its own requests and on the rates only. The rates and the
outcomes of cycles depend on no request at all. Two runs are compared, one of them with requests
left out.
-/

namespace QuoteGateway

open Cache (TimedMap)

/-- The acts of a run without some of its requests, told by their position and what they ask. -/
def leaveOut (left : Nat → Inquiry → Bool) : Nat → List Act → List Act
  | _, [] => []
  | n, .inquire inquiry c :: acts =>
    if left n inquiry then leaveOut left (n + 1) acts
    else .inquire inquiry c :: leaveOut left (n + 1) acts
  | n, act :: acts => act :: leaveOut left (n + 1) acts

def leaveOthersOut (id : String) (acts : List Act) : List Act :=
  leaveOut (fun _ inquiry => inquiry.id ≠ id) 0 acts

namespace Setup

variable (setup : Setup)

/-- The answer to an act that is a request of a key. -/
def answerTo (id : String) (scene : Scene) : Act → List (Except Failure QuoteResponse)
  | .inquire inquiry c =>
    if inquiry.id = id then [(setup.inquire scene inquiry c).1] else []
  | _ => []

def outcome (scene : Scene) : Act → List (Except Failure Nat)
  | .refresh c => [(setup.refresh scene c).1]
  | _ => []

/-- Two runs stay related, and look the same, if leaving a request out keeps scenes related and
shows nothing, and every other act keeps them related and shows the same in both. -/
theorem collect_leaveOut {ρ : Type} {related : Scene → Scene → Prop}
    {observe : Scene → Act → List ρ} {left : Nat → Inquiry → Bool} {acts : List Act}
    (omitted : ∀ n inquiry c scene other, Act.inquire inquiry c ∈ acts → left n inquiry = true →
      related scene other → related (setup.step scene (.inquire inquiry c)) other ∧
        observe scene (.inquire inquiry c) = [])
    (kept : ∀ n act scene other, act ∈ acts →
      (∀ inquiry c, act = .inquire inquiry c → left n inquiry = false) → related scene other →
      related (setup.step scene act) (setup.step other act) ∧
        observe scene act = observe other act)
    (n : Nat) {scene other : Scene} (h : related scene other) :
    related (setup.after scene acts) (setup.after other (leaveOut left n acts)) ∧
      setup.collect observe scene acts = setup.collect observe other (leaveOut left n acts) := by
  induction acts generalizing n scene other with
  | nil => exact ⟨h, rfl⟩
  | cons act acts ih =>
    have rest := ih
      (fun n inquiry c scene other member =>
        omitted n inquiry c scene other (List.mem_cons_of_mem act member))
      (fun n other scene there member => kept n other scene there (List.mem_cons_of_mem act member))
    have goOn (stays : ∀ inquiry c, act = .inquire inquiry c → left n inquiry = false) :
        related (setup.after scene (act :: acts))
            (setup.after other (act :: leaveOut left (n + 1) acts)) ∧
          setup.collect observe scene (act :: acts) =
            setup.collect observe other (act :: leaveOut left (n + 1) acts) := by
      obtain ⟨related', same⟩ := kept n act scene other List.mem_cons_self stays h
      obtain ⟨after, shown⟩ := rest (n + 1) related'
      rw [after_cons, after_cons, collect, collect, same, shown]
      exact ⟨after, rfl⟩
    cases act with
    | inquire inquiry c =>
      rw [leaveOut]
      cases isLeft : left n inquiry with
      | true =>
        obtain ⟨related', hidden⟩ := omitted n inquiry c scene other List.mem_cons_self isLeft h
        rw [if_pos rfl, after_cons, collect, hidden, List.nil_append]
        exact rest (n + 1) related'
      | false =>
        apply goOn
        rintro _ _ ⟨⟩
        exact isLeft
    | refresh c => exact goOn (by rintro inquiry c ⟨⟩)
    | pass duration => exact goOn (by rintro inquiry c ⟨⟩)

end Setup

def SameUnder (keys : String → Prop) (map other : TimedMap) : Prop :=
  ∀ key, keys key → map.entries.get? key = other.entries.get? key

namespace SameUnder

variable {keys : String → Prop} {map other : TimedMap}

theorem live? (same : SameUnder keys map other) {key : String} (h : keys key) (now : Nat) :
    map.live? now key = other.live? now key := by
  rw [TimedMap.live?, TimedMap.live?, same key h]

theorem put (same : SameUnder keys map other) (now : Nat) (key value : String)
    (lifetime : Duration) :
    SameUnder keys (map.put now key value lifetime) (other.put now key value lifetime) := by
  intro there h
  simp only [TimedMap.put]
  by_cases equal : there = key
  · subst equal
    rw [Table.get?_put_self, Table.get?_put_self]
  · rw [Table.get?_put_of_ne _ _ equal, Table.get?_put_of_ne _ _ equal, same there h]

theorem put_left (same : SameUnder keys map other) (now : Nat) {key : String} (value : String)
    (lifetime : Duration) (unseen : ¬ keys key) :
    SameUnder keys (map.put now key value lifetime) other := by
  intro there h
  have differs : there ≠ key := fun equal => unseen (equal ▸ h)
  simp only [TimedMap.put]
  rw [Table.get?_put_of_ne _ _ differs, same there h]

theorem publish (same : SameUnder keys map other) (plan : UpdaterPlan) (now : Nat)
    (rates : List FeedRate) :
    SameUnder keys (rates.foldl (plan.put now) map) (rates.foldl (plan.put now) other) := by
  induction rates generalizing map other with
  | nil => exact same
  | cons rate rates ih => exact ih (same.put now _ _ _)

end SameUnder

/-- Every log in a map names the key that it is kept under. -/
def OwnNames (map : TimedMap) : Prop :=
  ∀ id entry, map.entries.get? (CacheKey.ofApiKey id) = some entry →
    ∀ state, Json.readText QuotaState.reader entry.value = .ok state → state.apiKeyId = id

namespace OwnNames

variable {map : TimedMap}

theorem empty : OwnNames .empty := nofun

theorem put_log (own : OwnNames map) (now : Nat) (log : QuotaState) (lifetime : Duration) :
    OwnNames (map.put now (CacheKey.ofApiKey log.apiKeyId) log.document.compact lifetime) := by
  intro id entry found state read
  rw [map.get?_put_ofApiKey] at found
  by_cases same : log.apiKeyId = id
  · rw [if_pos same] at found
    cases found
    rw [QuotaState.readText_compact] at read
    cases read
    exact same
  · rw [if_neg same] at found
    exact own id entry found state read

theorem publish (own : OwnNames map) (plan : UpdaterPlan) (now : Nat) (rates : List FeedRate) :
    OwnNames (rates.foldl (plan.put now) map) := by
  induction rates generalizing map with
  | nil => exact own
  | cons rate rates ih =>
    apply ih
    intro id entry found
    rw [UpdaterPlan.put, TimedMap.put,
      Table.get?_put_of_ne _ _ (CacheKey.ofApiKey_ne_ofRate id _ _)] at found
    exact own id entry found

theorem loaded (own : OwnNames map) {c : Circumstances} (honest : c.KeepsIds) {now : Nat}
    {id : String} {state : QuotaState} (h : c.loaded now id map = .ok state) :
    state.apiKeyId = id := by
  obtain ⟨-, ⟨entry, live, read⟩ | ⟨-, key, record, rfl⟩⟩ := (c.loaded_eq_ok_iff now).mp h
  · exact own id entry (TimedMap.live?_eq_some_iff.mp live).1 state read
  · exact honest id key record

end OwnNames

def IsRateKey (key : String) : Prop := ∃ base target, key = CacheKey.ofRate base target

theorem not_isRateKey_ofApiKey (id : String) : ¬ IsRateKey (CacheKey.ofApiKey id) := by
  rintro ⟨base, target, same⟩
  exact CacheKey.ofApiKey_ne_ofRate id base target same

/-- Two scenes at one moment that hold the same rates. -/
def SameRates (scene other : Scene) : Prop :=
  scene.now = other.now ∧ SameUnder IsRateKey scene.map other.map

theorem SameRates.inquire {scene other : Scene} (same : SameRates scene other) (setup : Setup)
    (inquiry : Inquiry) (c : Circumstances) :
    SameRates (setup.step scene (.inquire inquiry c)) other := by
  refine ⟨same.1, ?_⟩
  rcases setup.inquire_map scene inquiry c with unwritten | ⟨state, -, written⟩
  · rw [Setup.step, unwritten]
    exact same.2
  · rw [Setup.step, written]
    exact same.2.put_left _ _ _ (not_isRateKey_ofApiKey _)

theorem SameRates.symm {scene other : Scene} (same : SameRates scene other) :
    SameRates other scene :=
  ⟨same.1.symm, fun key h => (same.2 key h).symm⟩

theorem SameRates.step {scene other : Scene} (same : SameRates scene other) (setup : Setup)
    (act : Act) : SameRates (setup.step scene act) (setup.step other act) := by
  cases act with
  | inquire inquiry c => exact ((same.inquire setup inquiry c).symm.inquire setup inquiry c).symm
  | refresh c =>
    refine ⟨same.1, ?_⟩
    simp only [Setup.step, setup.refresh_map, same.1]
    exact same.2.publish setup.plan _ _
  | pass duration => exact ⟨congrArg (· + duration.nanos) same.1, same.2⟩

/-- Leaving requests out changes neither rates nor the outcomes of cycles. -/
theorem rates_leaveOut (setup : Setup) (left : Nat → Inquiry → Bool) (acts : List Act)
    {scene other : Scene} (same : SameRates scene other) :
    SameRates (setup.after scene acts) (setup.after other (leaveOut left 0 acts)) ∧
      setup.collect setup.outcome scene acts =
        setup.collect setup.outcome other (leaveOut left 0 acts) := by
  apply setup.collect_leaveOut _ _ 0 same
  · intro n inquiry c scene other _ _ same
    exact ⟨same.inquire setup inquiry c, rfl⟩
  · intro n act scene other _ _ same
    refine ⟨same.step setup act, ?_⟩
    cases act with
    | inquire inquiry c => rfl
    | refresh c => rw [Setup.outcome, Setup.outcome, setup.refresh_result scene other]
    | pass duration => rfl

def Visible (id key : String) : Prop := key = CacheKey.ofApiKey id ∨ IsRateKey key

theorem not_visible_ofApiKey {id other : String} (h : other ≠ id) :
    ¬ Visible id (CacheKey.ofApiKey other) := by
  rintro (same | rate)
  · exact h (CacheKey.ofApiKey_injective same)
  · exact not_isRateKey_ofApiKey other rate

/-- Two scenes at one moment that are the same for one key. -/
structure SameFor (id : String) (scene other : Scene) : Prop where
  now : scene.now = other.now
  seen : SameUnder (Visible id) scene.map other.map
  own : OwnNames scene.map

theorem SameFor.empty (moment : Nat) (id : String) :
    SameFor id ⟨moment, .empty⟩ ⟨moment, .empty⟩ :=
  ⟨rfl, fun _ _ => rfl, OwnNames.empty⟩

theorem SameFor.rates {id : String} {scene other : Scene} (same : SameFor id scene other) :
    SameRates scene other :=
  ⟨same.now, fun key rate => same.seen key (.inr rate)⟩

/-- Two stages of one request that are the same for its key. -/
structure SameProgress (id : String) (p q : Progress) : Prop where
  calls : p.calls = q.calls
  seen : SameUnder (Visible id) p.map q.map
  own : OwnNames p.map

def ownContract (policy : QuotePolicy) (inquiry : Inquiry) :
    Contract gatewaySignature (Unit × Bool) :=
  requestContract policy.limit inquiry fun _ state => state.apiKeyId = inquiry.id

namespace SameProgress

variable {policy : QuotePolicy} {inquiry : Inquiry} {p q : Progress} (c : Circumstances) (now : Nat)

theorem read (same : SameProgress inquiry.id p q) {s : Unit × Bool} {key : String}
    (allowed : (ownContract policy inquiry).allows s (.cache (.read key))) :
    (c.respond now (.cache (.read key)) p).1 = (c.respond now (.cache (.read key)) q).1 ∧
      ∃ s', (ownContract policy inquiry).promises s (.cache (.read key))
          (c.respond now (.cache (.read key)) p).1 s' ∧
        SameProgress inquiry.id (c.respond now (.cache (.read key)) p).2
          (c.respond now (.cache (.read key)) q).2 := by
  have live : p.map.live? now key = q.map.live? now key := same.seen.live? allowed now
  refine ⟨?_, s, promised_read c now p ?_, ?_⟩
  · rw [c.respond_read, c.respond_read, same.calls, live]
  · intro entry live state read
    exact same.own inquiry.id entry (TimedMap.live?_eq_some_iff.mp live).1 state read
  · rw [c.respond_read, c.respond_read]
    exact ⟨congrArg (· + 1) same.calls, same.seen, same.own⟩

theorem write (same : SameProgress inquiry.id p q) {s : Unit × Bool} {key value : String}
    {lifetime : Duration}
    (allowed : (ownContract policy inquiry).allows s (.cache (.write key value lifetime))) :
    (c.respond now (.cache (.write key value lifetime)) p).1 =
        (c.respond now (.cache (.write key value lifetime)) q).1 ∧
      ∃ s', (ownContract policy inquiry).promises s (.cache (.write key value lifetime))
          (c.respond now (.cache (.write key value lifetime)) p).1 s' ∧
        SameProgress inquiry.id (c.respond now (.cache (.write key value lifetime)) p).2
          (c.respond now (.cache (.write key value lifetime)) q).2 := by
  obtain ⟨-, rfl, state, own, rfl⟩ := allowed
  have calls := congrArg (· + 1) same.calls
  rw [c.respond_write, c.respond_write, same.calls]
  cases c.fault q.calls (.write _ _ lifetime) with
  | some words => exact ⟨rfl, s, promised_unwritten, rfl, same.seen, same.own⟩
  | none =>
    refine ⟨rfl, (s.1, true), promised_written le_rfl, rfl, same.seen.put now _ _ lifetime, ?_⟩
    rw [← own]
    exact same.own.put_log now (state.record inquiry.now.unixSeconds _) lifetime

theorem findKey (same : SameProgress inquiry.id p q) (honest : c.KeepsIds) (s : Unit × Bool) :
    (c.respond now (.findKey inquiry.id) p).1 = (c.respond now (.findKey inquiry.id) q).1 ∧
      ∃ s', (ownContract policy inquiry).promises s (.findKey inquiry.id)
          (c.respond now (.findKey inquiry.id) p).1 s' ∧
        SameProgress inquiry.id (c.respond now (.findKey inquiry.id) p).2
          (c.respond now (.findKey inquiry.id) q).2 :=
  ⟨rfl, s, promised_findKey c now p fun key record => honest inquiry.id key record,
    congrArg (· + 1) same.calls, same.seen, same.own⟩

/-- Every call that a request makes has the same answer in both runs, and keeps them the same. -/
theorem respond (same : SameProgress inquiry.id p q) (honest : c.KeepsIds) (s : Unit × Bool)
    (call : gatewaySignature.Call) (allowed : (ownContract policy inquiry).allows s call) :
    (c.respond now call p).1 = (c.respond now call q).1 ∧
      ∃ s', (ownContract policy inquiry).promises s call (c.respond now call p).1 s' ∧
        SameProgress inquiry.id (c.respond now call p).2 (c.respond now call q).2 := by
  rcases call with (key | ⟨key, value, lifetime⟩ | key | key | key | _) | id | _ | bases
  · exact same.read c now allowed
  · exact same.write c now allowed
  · cases allowed
  · cases allowed
  · cases allowed
  · cases allowed
  · cases allowed
    exact same.findKey c now honest s
  · cases allowed
  · cases allowed

end SameProgress

theorem SameFor.inquire {scene other : Scene} {inquiry : Inquiry} {c : Circumstances}
    (same : SameFor inquiry.id scene other) (setup : Setup) (honest : c.KeepsIds) :
    (setup.inquire scene inquiry c).1 = (setup.inquire other inquiry c).1 ∧
      SameFor inquiry.id (setup.step scene (.inquire inquiry c))
        (setup.step other (.inquire inquiry c)) := by
  have keeps : Job.Keeps (ownContract setup.policy inquiry) _
      (setup.policy.answer inquiry.id inquiry.pairs inquiry.now) ((), false) :=
    keeps_answer (fun _ _ _ _ own => own) (fun _ _ own => own) rfl
  have start : SameProgress inquiry.id ⟨0, scene.map⟩ ⟨0, other.map⟩ := ⟨rfl, same.seen, same.own⟩
  obtain ⟨answer, -, seen⟩ := c.carryOut_agree scene.now
    (fun s call p q (same : SameProgress inquiry.id p q) allowed =>
      same.respond c scene.now honest s call allowed) keeps start
  have there : setup.inquire other inquiry c =
      c.conduct scene.now (setup.policy.answer inquiry.id inquiry.pairs inquiry.now)
        ⟨0, other.map⟩ := by
    rw [Setup.inquire, same.now]
  refine ⟨answer.trans (congrArg (·.1) there.symm), same.now, ?_, seen.own⟩
  simp only [Setup.step, there]
  exact seen.seen

/-- A request of another key changes nothing for this one. -/
theorem SameFor.inquire_other {id : String} {scene other : Scene} {inquiry : Inquiry}
    {c : Circumstances} (same : SameFor id scene other) (setup : Setup) (honest : c.KeepsIds)
    (differs : inquiry.id ≠ id) :
    SameFor id (setup.step scene (.inquire inquiry c)) other := by
  rcases setup.inquire_map scene inquiry c with unwritten | ⟨state, loaded, written⟩
  · refine ⟨same.now, ?_, ?_⟩
    · rw [Setup.step, unwritten]
      exact same.seen
    · rw [Setup.step, unwritten]
      exact same.own
  · have named : state.apiKeyId = inquiry.id := same.own.loaded honest loaded
    refine ⟨same.now, ?_, ?_⟩
    · rw [Setup.step, written]
      exact same.seen.put_left _ _ _ (not_visible_ofApiKey (named ▸ differs))
    · rw [Setup.step, written]
      exact same.own.put_log _ _ _

theorem SameFor.refresh {id : String} {scene other : Scene} (same : SameFor id scene other)
    (setup : Setup) (c : Circumstances) :
    SameFor id (setup.step scene (.refresh c)) (setup.step other (.refresh c)) := by
  refine ⟨same.now, ?_, ?_⟩
  · simp only [Setup.step, setup.refresh_map, same.now]
    exact same.seen.publish setup.plan _ _
  · simp only [Setup.step, setup.refresh_map]
    exact same.own.publish setup.plan _ _

/-- Leaving out the requests of other keys changes nothing for this one. -/
theorem answers_leaveOthersOut (setup : Setup) (id : String) {acts : List Act}
    (honest : ∀ inquiry c, Act.inquire inquiry c ∈ acts → c.KeepsIds) {scene other : Scene}
    (same : SameFor id scene other) :
    SameFor id (setup.after scene acts) (setup.after other (leaveOthersOut id acts)) ∧
      setup.collect (setup.answerTo id) scene acts =
        setup.collect (setup.answerTo id) other (leaveOthersOut id acts) := by
  apply setup.collect_leaveOut _ _ 0 same
  · intro n inquiry c scene other member omitted same
    have differs : inquiry.id ≠ id := of_decide_eq_true omitted
    exact ⟨same.inquire_other setup (honest inquiry c member) differs, if_neg differs⟩
  · intro n act scene other member stays same
    cases act with
    | inquire inquiry c =>
      have own : inquiry.id = id := not_not.mp (of_decide_eq_false (stays inquiry c rfl))
      subst own
      obtain ⟨answer, same'⟩ := same.inquire setup (honest inquiry c member)
      refine ⟨same', ?_⟩
      rw [Setup.answerTo, Setup.answerTo, answer]
    | refresh c => exact ⟨same.refresh setup c, rfl⟩
    | pass duration => exact ⟨⟨congrArg (· + duration.nanos) same.now, same.seen, same.own⟩, rfl⟩

/-- What requests leave alone in a run: the log and the answers of a key do not depend on requests
of other keys, and rates and cycles do not depend on requests at all. -/
structure Isolated (setup : Setup) (start : Scene) (id : String) (acts : List Act) : Prop where
  log : ∀ n, (setup.after start (acts.take n)).map.entries.get? (CacheKey.ofApiKey id) =
    (setup.after start (leaveOthersOut id (acts.take n))).map.entries.get? (CacheKey.ofApiKey id)
  answers : setup.collect (setup.answerTo id) start acts =
    setup.collect (setup.answerTo id) start (leaveOthersOut id acts)
  rates : ∀ left n base target,
    (setup.after start (acts.take n)).map.entries.get? (CacheKey.ofRate base target) =
      (setup.after start (leaveOut left 0 (acts.take n))).map.entries.get?
        (CacheKey.ofRate base target)
  outcomes : ∀ left, setup.collect setup.outcome start acts =
    setup.collect setup.outcome start (leaveOut left 0 acts)

/-- In every run from an empty cache, keys are isolated from each other, and rates and cycles from
all of them. -/
theorem keys_isolated (setup : Setup) (moment : Nat) (id : String) {acts : List Act}
    (honest : ∀ inquiry c, Act.inquire inquiry c ∈ acts → c.KeepsIds) :
    Isolated setup ⟨moment, .empty⟩ id acts where
  log n := by
    have honest' : ∀ inquiry c, Act.inquire inquiry c ∈ acts.take n → c.KeepsIds :=
      fun inquiry c member => honest inquiry c (List.mem_of_mem_take member)
    have same := (answers_leaveOthersOut setup id honest' (.empty moment id)).1
    exact same.seen _ (.inl rfl)
  answers := (answers_leaveOthersOut setup id honest (.empty moment id)).2
  rates left n base target := by
    have same := (rates_leaveOut setup left (acts.take n) (SameFor.empty moment id).rates).1
    exact same.2 _ ⟨base, target, rfl⟩
  outcomes left := (rates_leaveOut setup left acts (SameFor.empty moment id).rates).2

/-- Two keys take turns. Each is refused on its second turn, for its own first one. -/
def takingTurns : List Act :=
  [.refresh Small.world, .inquire ⟨"other", [⟨"usd", "jpy"⟩], Small.firstSecond⟩ Small.world,
    .inquire (Small.inquiry Small.firstSecond) Small.world,
    .inquire ⟨"other", [⟨"usd", "jpy"⟩], Small.nextMinute⟩ Small.world,
    .inquire (Small.inquiry Small.nextMinute) Small.world]

theorem takingTurns_isolated :
    (∀ inquiry c, Act.inquire inquiry c ∈ takingTurns → c.KeepsIds) ∧
      Isolated Small.setup ⟨0, .empty⟩ "key" takingTurns := by
  have honest : ∀ inquiry c, Act.inquire inquiry c ∈ takingTurns → c.KeepsIds := by
    intro inquiry c member
    have same : c = Small.world := by
      simp [takingTurns] at member
      rcases member with h | h | h | h <;> exact h.2
    rw [same]
    exact Small.world_keepsIds
  exact ⟨honest, keys_isolated Small.setup 0 "key" honest⟩

end QuoteGateway
