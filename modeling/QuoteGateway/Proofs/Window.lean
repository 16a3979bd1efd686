import QuoteGateway.Proofs.CacheKeys
import QuoteGateway.Proofs.Conduct
import QuoteGateway.Proofs.QuotaText

/-!
# The sliding window is exact

The log that the gate keeps is pruned, expires, and is started anew from the key store, yet over any
run it decides as if all served requests were remembered. Requests and the cache follow one clock.
-/

namespace QuoteGateway

open Cache (TimedMap)

/-- The unix second at a moment of the cache's clock, whose zero lies `origin` nanoseconds after
1970-01-01. -/
def secondAt (origin : Int) (moment : Nat) : Int := (origin + moment) / 1000000000

theorem secondAt_mono (origin : Int) {moment later : Nat} (h : moment ≤ later) :
    secondAt origin moment ≤ secondAt origin later := by
  unfold secondAt
  omega

namespace Act

/-- How long an act takes. Requests and cycles take no time, which passes between them. -/
def nanos : Act → Nat
  | .pass duration => duration.nanos
  | _ => 0

def FallsAt (second : Int) : Act → Prop
  | .inquire inquiry _ => inquiry.now.seconds = second
  | _ => True

/-- The surroundings of an act know every key under its own identifier and with its lasting tier. -/
def Knows (tierOf : String → Tier) : Act → Prop
  | .inquire _ c =>
    ∀ id key, c.record id = .ok (some key) → key.apiKeyId = id ∧ key.tier = tierOf id
  | _ => True

def Writes : Act → Prop
  | .inquire _ c => ∀ calls key value lifetime, c.fault calls (.write key value lifetime) = none
  | _ => True

end Act

def OnClock (origin : Int) : Nat → List Act → Prop
  | _, [] => True
  | moment, act :: acts =>
    act.FallsAt (secondAt origin moment) ∧ OnClock origin (moment + act.nanos) acts

theorem Setup.now_step (setup : Setup) (scene : Scene) (act : Act) :
    (setup.step scene act).now = scene.now + act.nanos := by
  cases act <;> rfl

theorem onClock_append (setup : Setup) (origin : Int) (scene : Scene) (before later : List Act) :
    OnClock origin scene.now (before ++ later) ↔
      OnClock origin scene.now before ∧ OnClock origin (setup.after scene before).now later := by
  induction before generalizing scene with
  | nil => simp [OnClock, Setup.after_nil]
  | cons act before ih =>
    rw [List.cons_append, OnClock, OnClock, ← setup.now_step, ih, Setup.after_cons, and_assoc]

/-- What the quota relies on: the window fits its arithmetic, logs outlive the window by a second,
the store keeps identifiers and tiers, and no served request goes unrecorded. -/
structure QuotaTerms (setup : Setup) (tierOf : String → Tier) (acts : List Act) : Prop where
  window : setup.policy.limit.window.seconds ≤ 2 ^ 62
  lifetime : (setup.policy.limit.window.seconds + 1) * 1000000000 ≤
    setup.policy.limit.stateLifetime.nanos
  knows : ∀ act ∈ acts, act.Knows tierOf
  recorded : setup.policy.recording = .strict ∨ ∀ act ∈ acts, act.Writes

namespace Window

variable {setup : Setup} {origin : Int} {tierOf : String → Tier}

/-- A log tells of a key what the ledger of its served requests tells, from a second on. -/
structure Tells (state : QuotaState) (id : String) (tier : Tier) (oldest : Int)
    (ledger : List Int) : Prop where
  id : state.apiKeyId = id
  tier : state.tier = tier
  counts : ∀ start, oldest ≤ start → countSince start state.seconds = countSince start ledger

/-- The logs in the cache against the ledgers of all requests served so far. -/
structure Logs (setup : Setup) (origin : Int) (tierOf : String → Tier) (scene : Scene)
    (ledger : String → List Int) : Prop where
  past : ∀ id, ∀ s ∈ ledger id, s ≤ secondAt origin scene.now
  /-- A log is gone only when no request in it counts any more. -/
  missing : ∀ id, scene.map.live? scene.now (CacheKey.ofApiKey id) = none →
    ∀ s ∈ ledger id, s < secondAt origin scene.now - setup.policy.limit.window.seconds
  kept : ∀ id entry, scene.map.live? scene.now (CacheKey.ofApiKey id) = some entry →
    ∃ state, Json.readText QuotaState.reader entry.value = .ok state ∧
      Tells state id (tierOf id) (secondAt origin scene.now - setup.policy.limit.window.seconds)
        (ledger id)
  /-- A log lives until the second after the window of its last request. -/
  lasting : ∀ id entry, scene.map.live? scene.now (CacheKey.ofApiKey id) = some entry →
    ∀ s ∈ ledger id, (s + setup.policy.limit.window.seconds + 1) * 1000000000 ≤
      origin + entry.deadline
  bounded : ∀ id, tierOf id = .limited → ∀ t : Int,
    (ledger id).countP (fun s => t - setup.policy.limit.window.seconds ≤ s ∧ s ≤ t) ≤
      setup.policy.limit.maxUsages.toNat

theorem logs_start {scene : Scene}
    (h : ∀ id, scene.map.live? scene.now (CacheKey.ofApiKey id) = none) :
    Logs setup origin tierOf scene fun _ => [] where
  past := by simp
  missing := by simp
  kept := by
    intro id entry live
    rw [h id] at live
    cases live
  lasting := by simp
  bounded := by simp

theorem Logs.tells {scene : Scene} {ledger : String → List Int}
    (logs : Logs setup origin tierOf scene ledger) {id : String} {c : Circumstances}
    (knows : ∀ id key, c.record id = .ok (some key) → key.apiKeyId = id ∧ key.tier = tierOf id)
    {state : QuotaState} (h : c.loaded scene.now id scene.map = .ok state) :
    Tells state id (tierOf id) (secondAt origin scene.now - setup.policy.limit.window.seconds)
      (ledger id) := by
  obtain ⟨-, ⟨entry, live, read⟩ | ⟨gone, key, record, rfl⟩⟩ := (c.loaded_eq_ok_iff _).mp h
  · obtain ⟨stored, same, tells⟩ := logs.kept id entry live
    rw [same] at read
    obtain rfl := Except.ok.inj read
    exact tells
  · obtain ⟨carried, tier⟩ := knows id key record
    refine ⟨carried, tier, ?_⟩
    intro oldest recent
    have empty : countSince oldest (ledger id) = 0 := by
      apply countSince_eq_zero
      intro s hs
      have outside := logs.missing id gone s hs
      omega
    rw [empty]
    rfl

theorem logs_pass {scene : Scene} {ledger : String → List Int}
    (logs : Logs setup origin tierOf scene ledger) (nanos : Nat) :
    Logs setup origin tierOf ⟨scene.now + nanos, scene.map⟩ ledger := by
  have time := Nat.le_add_right scene.now nanos
  have seconds := secondAt_mono origin time
  constructor
  · intro id s hs
    exact le_trans (logs.past id s hs) seconds
  · intro id gone s hs
    cases live : scene.map.live? scene.now (CacheKey.ofApiKey id) with
    | none =>
      have outside := logs.missing id live s hs
      simp only
      omega
    | some entry =>
      have lasting := logs.lasting id entry live s hs
      have expired : entry.deadline ≤ scene.now + nanos := TimedMap.deadline_le_of_gone live gone
      simp only [secondAt]
      omega
  · intro id entry live
    obtain ⟨state, read, tells⟩ := logs.kept id entry (TimedMap.live?_of_later time live)
    refine ⟨state, read, tells.id, tells.tier, ?_⟩
    intro start recent
    apply tells.counts
    simp only at recent
    omega
  · intro id entry live
    exact logs.lasting id entry (TimedMap.live?_of_later time live)
  · exact logs.bounded

theorem Logs.congr {scene : Scene} {ledger : String → List Int}
    (logs : Logs setup origin tierOf scene ledger) {map : TimedMap}
    (same : ∀ id, map.live? scene.now (CacheKey.ofApiKey id) =
      scene.map.live? scene.now (CacheKey.ofApiKey id)) :
    Logs setup origin tierOf ⟨scene.now, map⟩ ledger := by
  constructor
  · exact logs.past
  · intro id gone
    exact logs.missing id (same id ▸ gone)
  · intro id entry live
    exact logs.kept id entry (same id ▸ live)
  · intro id entry live
    exact logs.lasting id entry (same id ▸ live)
  · exact logs.bounded

theorem logs_refresh {scene : Scene} {ledger : String → List Int}
    (logs : Logs setup origin tierOf scene ledger) (c : Circumstances) :
    Logs setup origin tierOf ⟨scene.now, (setup.refresh scene c).2.map⟩ ledger := by
  apply logs.congr
  intro id
  rw [setup.refresh_map]
  exact setup.plan.live?_put_foldl _ _ _ _ id

theorem live?_logged (setup : Setup) (scene : Scene)
    (lifetime : 0 < setup.policy.limit.stateLifetime.nanos) (log : QuotaState) (id : String) :
    (setup.logged scene log).live? scene.now (CacheKey.ofApiKey id) =
      if log.apiKeyId = id then
        some ⟨log.document.compact, scene.now + setup.policy.limit.stateLifetime.nanos⟩
      else scene.map.live? scene.now (CacheKey.ofApiKey id) := by
  have living : scene.now < scene.now + setup.policy.limit.stateLifetime.nanos :=
    Nat.lt_add_of_pos_right lifetime
  rw [Setup.logged, TimedMap.live?, TimedMap.get?_put_ofApiKey]
  by_cases same : log.apiKeyId = id
  · simp [same, Cache.Entry.isLive, living]
  · rw [if_neg same, if_neg same, TimedMap.live?]

/-- No window is overfilled by one more request, made last and while its own window has room. -/
theorem countP_concat_le {ledger : List Int} {window second : Int} {limit : Nat}
    (old : ∀ t : Int, ledger.countP (fun s => t - window ≤ s ∧ s ≤ t) ≤ limit)
    (few : countSince (second - window) ledger < limit) (t : Int) :
    (ledger ++ [second]).countP (fun s => t - window ≤ s ∧ s ≤ t) ≤ limit := by
  rw [List.countP_append, List.countP_singleton]
  by_cases inside : t - window ≤ second ∧ second ≤ t
  · rw [if_pos (decide_eq_true inside)]
    have fewer : ledger.countP (fun s => t - window ≤ s ∧ s ≤ t) ≤
        countSince (second - window) ledger := by
      apply List.countP_mono_left
      intro s _ within
      simp only [decide_eq_true_eq] at within ⊢
      omega
    omega
  · rw [if_neg (by simpa using inside)]
    exact old t

/-- An admitted request that is recorded keeps logs and ledgers together. -/
theorem logs_logged {scene : Scene} {ledger : String → List Int} {inquiry : Inquiry}
    (window : setup.policy.limit.window.seconds ≤ 2 ^ 62)
    (lifetime : (setup.policy.limit.window.seconds + 1) * 1000000000 ≤
      setup.policy.limit.stateLifetime.nanos)
    (logs : Logs setup origin tierOf scene ledger)
    (clock : inquiry.now.seconds = secondAt origin scene.now) {state : QuotaState}
    (tells : Tells state inquiry.id (tierOf inquiry.id)
      (secondAt origin scene.now - setup.policy.limit.window.seconds) (ledger inquiry.id))
    (admitted : tierOf inquiry.id = .limited →
      countSince (secondAt origin scene.now - setup.policy.limit.window.seconds)
        (ledger inquiry.id) < setup.policy.limit.maxUsages.toNat) :
    Logs setup origin tierOf ⟨scene.now, setup.logged scene (setup.log inquiry state)⟩
      fun id => ledger id ++ if inquiry.id = id then [inquiry.now.seconds] else [] := by
  have start := setup.policy.limit.toInt_windowStart inquiry.now window
  have positive : 0 < setup.policy.limit.stateLifetime.nanos := by omega
  have owner : (setup.log inquiry state).apiKeyId = inquiry.id := tells.id
  have live := live?_logged setup scene positive (setup.log inquiry state)
  rw [owner] at live
  constructor
  · intro id s hs
    rcases List.mem_append.mp hs with old | new
    · exact logs.past id s old
    · split at new
      · rw [List.mem_singleton.mp new, clock]
      · cases new
  · intro id gone s hs
    rw [live id] at gone
    split at gone
    · cases gone
    · rename_i other
      simp only [if_neg other, List.append_nil] at hs
      exact logs.missing id gone s hs
  · intro id entry found
    rw [live id] at found
    split at found
    · rename_i same
      obtain rfl := Option.some.inj found
      subst same
      refine ⟨_, QuotaState.readText_compact _, owner, tells.tier, ?_⟩
      intro oldest recent
      simp only [if_true]
      rw [Setup.log, QuotaState.countSince_record _ _ _ (by rw [start, clock]; exact recent),
        countSince_append, countSince_append, tells.counts oldest recent,
        Calendar.Instant.toInt_unixSeconds]
    · rename_i other
      simp only [if_neg other, List.append_nil]
      exact logs.kept id entry found
  · intro id entry found s hs
    rw [live id] at found
    split at found
    · rename_i same
      obtain rfl := Option.some.inj found
      subst same
      have past : s ≤ secondAt origin scene.now := by
        rcases List.mem_append.mp hs with old | new
        · exact logs.past _ s old
        · simp only [if_true, List.mem_singleton] at new
          rw [new, clock]
      unfold secondAt at past
      simp only [Nat.cast_add]
      omega
    · rename_i other
      simp only [if_neg other, List.append_nil] at hs
      exact logs.lasting id entry found s hs
  · intro id limited t
    by_cases same : inquiry.id = id
    · subst same
      rw [if_pos rfl]
      exact countP_concat_le (logs.bounded _ limited) (clock ▸ admitted limited) t
    · simp only [if_neg same, List.append_nil]
      exact logs.bounded id limited t

theorem Tells.exceeds_iff {state : QuotaState} {id : String} {tier : Tier} {oldest : Int}
    {ledger : List Int} (tells : Tells state id tier oldest ledger) {limit : RateLimit}
    {now : Calendar.Instant} (start : (limit.windowStart now).toInt = oldest) :
    state.exceeds limit now = true ↔
      tier = .limited ∧ limit.maxUsages.toNat ≤ countSince oldest ledger := by
  rw [QuotaState.exceeds_iff, tells.tier, start, tells.counts oldest le_rfl]

theorem logs_inquire {scene : Scene} {ledger : String → List Int} {acts : List Act}
    (terms : QuotaTerms setup tierOf acts) (logs : Logs setup origin tierOf scene ledger)
    {inquiry : Inquiry} {c : Circumstances} (member : Act.inquire inquiry c ∈ acts)
    (clock : inquiry.now.seconds = secondAt origin scene.now) :
    Logs setup origin tierOf ⟨scene.now, (setup.inquire scene inquiry c).2.map⟩
      fun id => ledger id ++ setup.servedBy id scene (.inquire inquiry c) := by
  rcases setup.inquire_cases scene inquiry c with ⟨failure, fails⟩ | ⟨state, response, serves⟩
  · have none (id : String) : ledger id ++ setup.servedBy id scene (.inquire inquiry c) =
        ledger id := by
      simp [Setup.servedBy, fails.result, Except.isOk, Except.toBool]
    simp only [none, fails.map]
    exact logs
  · have one (id : String) : setup.servedBy id scene (.inquire inquiry c) =
        if inquiry.id = id then [inquiry.now.seconds] else [] := by
      simp [Setup.servedBy, serves.result, Except.isOk, Except.toBool]
    simp only [one]
    have tells := logs.tells (terms.knows _ member) serves.loaded
    have start := setup.policy.limit.toInt_windowStart inquiry.now terms.window
    rw [clock] at start
    have admitted : tierOf inquiry.id = .limited →
        countSince (secondAt origin scene.now - setup.policy.limit.window.seconds)
          (ledger inquiry.id) < setup.policy.limit.maxUsages.toNat := by
      intro limited
      by_contra full
      have exceeded := (tells.exceeds_iff start).mpr ⟨limited, by omega⟩
      rw [serves.admitted] at exceeded
      cases exceeded
    rcases serves.map with written | ⟨-, lenient, calls, key, value, lifetime, fault⟩
    · rw [written]
      exact logs_logged terms.window terms.lifetime logs clock tells admitted
    · rcases terms.recorded with strict | writes
      · rw [strict] at lenient
        cases lenient
      · exact absurd (writes _ member calls key value lifetime) fault

/-- Every act keeps logs and ledgers together. -/
theorem logs_step {scene : Scene} {ledger : String → List Int} {acts : List Act}
    (terms : QuotaTerms setup tierOf acts) (logs : Logs setup origin tierOf scene ledger)
    {act : Act} (member : act ∈ acts) (clock : act.FallsAt (secondAt origin scene.now)) :
    Logs setup origin tierOf (setup.step scene act)
      fun id => ledger id ++ setup.servedBy id scene act := by
  cases act with
  | inquire inquiry c => exact logs_inquire terms logs member clock
  | refresh c =>
    simp only [Setup.servedBy, List.append_nil]
    exact logs_refresh logs c
  | pass duration =>
    simp only [Setup.servedBy, List.append_nil]
    exact logs_pass logs duration.nanos

/-- Every run keeps logs and ledgers together. -/
theorem logs_after {scene : Scene} {ledger : String → List Int} {acts run : List Act}
    (terms : QuotaTerms setup tierOf acts) (logs : Logs setup origin tierOf scene ledger)
    (members : ∀ act ∈ run, act ∈ acts) (clock : OnClock origin scene.now run) :
    Logs setup origin tierOf (setup.after scene run)
      fun id => ledger id ++ setup.served id scene run := by
  induction run generalizing scene ledger with
  | nil =>
    simp only [Setup.served, Setup.collect, List.append_nil]
    exact logs
  | cons act run ih =>
    have first := logs_step terms logs (members act List.mem_cons_self) clock.1
    have rest : OnClock origin (setup.step scene act).now run := by
      rw [Setup.now_step]
      exact clock.2
    have both := ih first (fun other h => members other (List.mem_cons_of_mem act h)) rest
    simp only [List.append_assoc] at both
    exact both

/-- The request finds the log of its key, or else a record to start one from. -/
structure Reaches (scene : Scene) (inquiry : Inquiry) (c : Circumstances) : Prop where
  read : c.fault 0 (.read (CacheKey.ofApiKey inquiry.id)) = none
  record : scene.map.live? scene.now (CacheKey.ofApiKey inquiry.id) = none →
    ∃ key, c.record inquiry.id = .ok (some key)

theorem Logs.exists_loaded {scene : Scene} {ledger : String → List Int}
    (logs : Logs setup origin tierOf scene ledger) {inquiry : Inquiry} {c : Circumstances}
    (reaches : Reaches scene inquiry c) :
    ∃ state, c.loaded scene.now inquiry.id scene.map = .ok state := by
  cases live : scene.map.live? scene.now (CacheKey.ofApiKey inquiry.id) with
  | none =>
    obtain ⟨key, record⟩ := reaches.record live
    exact ⟨_, (c.loaded_eq_ok_iff _).mpr ⟨reaches.read, .inr ⟨live, key, record, rfl⟩⟩⟩
  | some entry =>
    obtain ⟨state, read, -⟩ := logs.kept _ entry live
    exact ⟨state, (c.loaded_eq_ok_iff _).mpr ⟨reaches.read, .inl ⟨entry, live, read⟩⟩⟩

/-- Over any run, a request of a limited key is refused exactly if the quota was used up by requests
served since the start of its window, and keys of other tiers are never refused. So no closed
window, wherever it ends, holds more served requests than allowed. -/
theorem refused_iff_window_full {start : Scene} {acts : List Act}
    (terms : QuotaTerms setup tierOf acts) (clock : OnClock origin start.now acts)
    (fresh : ∀ id, start.map.live? start.now (CacheKey.ofApiKey id) = none) :
    (∀ before inquiry c later, acts = before ++ .inquire inquiry c :: later →
      (tierOf inquiry.id ≠ .limited →
        ¬ Refused (setup.inquire (setup.after start before) inquiry c).1) ∧
      (tierOf inquiry.id = .limited → inquiry.id ≠ "" → inquiry.pairs ≠ [] →
        Reaches (setup.after start before) inquiry c →
        (Refused (setup.inquire (setup.after start before) inquiry c).1 ↔
          setup.policy.limit.maxUsages.toNat ≤
            countSince (inquiry.now.seconds - setup.policy.limit.window.seconds)
              (setup.served inquiry.id start before)))) ∧
    ∀ id, tierOf id = .limited → ∀ t : Int,
      (setup.served id start acts).countP
          (fun s => t - setup.policy.limit.window.seconds ≤ s ∧ s ≤ t) ≤
        setup.policy.limit.maxUsages.toNat := by
  constructor
  · intro before inquiry c later split
    have parts := (onClock_append setup origin start before _).mp (split ▸ clock)
    have member : Act.inquire inquiry c ∈ acts := by simp [split]
    have members : ∀ act ∈ before, act ∈ acts := fun act h => by simp [split, h]
    have logs := logs_after terms (logs_start fresh) members parts.1
    simp only [List.nil_append] at logs
    have second : inquiry.now.seconds = secondAt origin (setup.after start before).now := parts.2.1
    have windowStart := setup.policy.limit.toInt_windowStart inquiry.now terms.window
    rw [second] at windowStart
    have knows := terms.knows _ member
    constructor
    · intro free refused
      obtain ⟨-, -, state, loaded, exceeded⟩ := (setup.refused_iff _ _ _).mp refused
      exact free ((logs.tells knows loaded).exceeds_iff windowStart |>.mp exceeded).1
    · intro limited named pairs reaches
      rw [setup.refused_iff, second]
      constructor
      · rintro ⟨-, -, state, loaded, exceeded⟩
        exact ((logs.tells knows loaded).exceeds_iff windowStart |>.mp exceeded).2
      · intro full
        obtain ⟨state, loaded⟩ := logs.exists_loaded reaches
        exact ⟨pairs, named, state, loaded,
          (logs.tells knows loaded).exceeds_iff windowStart |>.mpr ⟨limited, full⟩⟩
  · intro id limited t
    have logs := logs_after terms (logs_start fresh) (fun _ h => h) clock
    simp only [List.nil_append] at logs
    exact logs.bounded id limited t

/-- A cycle and a request in the first second, then a minute's wait. -/
def minute : List Act :=
  [.refresh Small.world, .inquire (Small.inquiry Small.firstSecond) Small.world,
    .pass (.ofSeconds 60)]

/-- The next request is refused at the last instant of the window. -/
theorem refused_at_end_of_minute :
    Refused (Small.setup.inquire (Small.setup.after .initial minute)
      (Small.inquiry Small.nextMinute) Small.world).1 := by
  let acts := minute ++ [.inquire (Small.inquiry Small.nextMinute) Small.world]
  have terms : QuotaTerms Small.setup (fun _ => .limited) acts := by
    refine ⟨by decide, by decide, ?_, .inl rfl⟩
    intro act member
    simp only [acts, minute, List.cons_append, List.nil_append, List.mem_cons,
      List.not_mem_nil, or_false] at member
    rcases member with rfl | rfl | rfl | rfl
    · trivial
    · rintro id key ⟨⟩
      exact ⟨rfl, rfl⟩
    · trivial
    · rintro id key ⟨⟩
      exact ⟨rfl, rfl⟩
  have clock : OnClock 0 Scene.initial.now acts := ⟨trivial, rfl, trivial, rfl, trivial⟩
  have decision := (refused_iff_window_full terms clock fun _ => rfl).1 minute _ Small.world [] rfl
  exact (decision.2 rfl (by decide) (by simp [Small.inquiry]) ⟨rfl, fun _ => ⟨_, rfl⟩⟩).mpr
    (by decide +kernel)

end Window

end QuoteGateway
