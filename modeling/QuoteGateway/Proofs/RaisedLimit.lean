import QuoteGateway.Proofs.Isolation
import QuoteGateway.Proofs.Window

/-!
# A higher limit refuses no more requests

Under a higher limit a request may be served that was refused before, and then counts against later
ones. Yet every request that the lower limit serves is served under the higher one as well: in no
window is the higher limit ahead by more requests than it allows on top.
-/

namespace QuoteGateway

open Cache (TimedMap)

theorem countSince_eq_add {oldest start : Int} (h : oldest ≤ start) (seconds : List Int) :
    countSince oldest seconds =
      seconds.countP (fun s => oldest ≤ s ∧ s < start) + countSince start seconds := by
  rw [countSince, List.countP_eq_countP_filter_add _ _ fun s => decide (s < start), countSince,
    List.countP_filter, List.countP_filter]
  congr 1
  · apply List.countP_congr
    simp
  · apply List.countP_congr
    intro s _
    simp only [Bool.and_eq_true, decide_eq_true_eq, Bool.not_eq_true', decide_eq_false_iff_not]
    omega

/-- A ledger under a lower limit against one under a higher limit, from a second on: every request
in the one is in the other, and no window has more in addition than the higher limit allows. -/
structure Outpaced (few many : Nat) (oldest : Int) (ledger more : List Int) : Prop where
  sublist : ledger.Sublist more
  slack : ∀ start, oldest ≤ start → countSince start more + few ≤ countSince start ledger + many

namespace Outpaced

variable {few many : Nat} {oldest : Int} {ledger more : List Int}

theorem empty (le : few ≤ many) : Outpaced few many oldest [] [] :=
  ⟨List.Sublist.refl _, fun _ _ => Nat.add_le_add_left le 0⟩

theorem later (outpaced : Outpaced few many oldest ledger more) {start : Int}
    (h : oldest ≤ start) : Outpaced few many start ledger more :=
  ⟨outpaced.sublist, fun later le => outpaced.slack later (h.trans le)⟩

theorem room (outpaced : Outpaced few many oldest ledger more)
    (h : countSince oldest ledger < few) : countSince oldest more < many := by
  have slack := outpaced.slack oldest le_rfl
  omega

theorem concat (outpaced : Outpaced few many oldest ledger more) (served : List Int) :
    Outpaced few many oldest (ledger ++ served) (more ++ served) where
  sublist := outpaced.sublist.append_right served
  slack start recent := by
    have slack := outpaced.slack start recent
    rw [countSince_append, countSince_append]
    omega

/-- A request that is refused under the lower limit, as its window is full, and served under the
higher one. -/
theorem concat_right (outpaced : Outpaced few many oldest ledger more)
    (full : few ≤ countSince oldest ledger) (room : countSince oldest more < many) (second : Int) :
    Outpaced few many oldest ledger (more ++ [second]) where
  sublist := outpaced.sublist.trans (List.sublist_append_left _ _)
  slack start recent := by
    have here := countSince_eq_add recent ledger
    have there := countSince_eq_add recent more
    have before : ledger.countP (fun s => oldest ≤ s ∧ s < start) ≤
        more.countP fun s => oldest ≤ s ∧ s < start := outpaced.sublist.countP_le
    have one : countSince start [second] ≤ 1 := List.countP_le_length
    rw [countSince_append]
    omega

end Outpaced

/-- Neither the cache nor the key store fails, and the store has these records. -/
structure Circumstances.Smooth (store : String → Option ApiKey) (c : Circumstances) : Prop where
  fault : ∀ calls call, c.fault calls call = none
  record : ∀ id, c.record id = .ok (store id)

namespace Circumstances.Smooth

variable {store : String → Option ApiKey} {c : Circumstances} (smooth : c.Smooth store)
include smooth

theorem allResolved_eq {now : Nat} {map other : TimedMap} (same : SameUnder IsRateKey map other)
    (calls calls' : Nat) (pairs : List CurrencyPair) :
    c.allResolved now map calls pairs = c.allResolved now other calls' pairs := by
  induction pairs generalizing calls calls' with
  | nil => rfl
  | cons pair pairs ih =>
    have one : c.resolved now calls pair map = c.resolved now calls' pair other := by
      have live := same.live? ⟨pair.base, pair.target, rfl⟩ now
      simp only [resolved, smooth.fault, found, live]
    rw [allResolved, allResolved, one, ih (calls + 1) (calls' + 1)]

/-- A request is served exactly if it names pairs, is admitted, and every pair has a rate. -/
theorem isOk_inquire_iff (setup : Setup) (scene : Scene) (inquiry : Inquiry) :
    (setup.inquire scene inquiry c).1.isOk = true ↔ inquiry.pairs ≠ [] ∧
      (∃ state, c.authorized scene.now setup.policy.limit inquiry.id inquiry.now scene.map =
        .ok state) ∧
      ∃ results, c.allResolved scene.now scene.map 0 inquiry.pairs = .ok results := by
  obtain ⟨gate, rates, calls, carried⟩ := c.conduct_answer scene.now setup.policy inquiry scene.map
  have both : setup.inquire scene inquiry c = _ := carried
  have resolution : c.allResolved scene.now scene.map gate inquiry.pairs =
      c.allResolved scene.now scene.map 0 inquiry.pairs :=
    smooth.allResolved_eq (fun _ _ => rfl) gate 0 inquiry.pairs
  rw [both]
  unfold answered
  by_cases empty : inquiry.pairs.isEmpty
  · simp [List.isEmpty_iff.mp empty, Except.isOk, Except.toBool]
  have pairs : inquiry.pairs ≠ [] := fun none => empty (List.isEmpty_iff.mpr none)
  simp only [empty, Bool.false_eq_true, if_false, resolution]
  cases c.authorized scene.now setup.policy.limit inquiry.id inquiry.now scene.map with
  | error failure => simp [Except.isOk, Except.toBool]
  | ok state =>
    cases c.allResolved scene.now scene.map 0 inquiry.pairs with
    | error failure => simp [Except.isOk, Except.toBool]
    | ok results => simp [recorded, smooth.fault, pairs, Except.isOk, Except.toBool]

end Circumstances.Smooth

/-- The setup with another limit for the requests in a window. -/
def Setup.allowing (setup : Setup) (maxUsages : UInt64) : Setup :=
  { setup with policy := { setup.policy with limit := { setup.policy.limit with maxUsages } } }

theorem SameRates.step_allowing {scene other : Scene} (same : SameRates scene other) (setup : Setup)
    (few many : UInt64) (act : Act) :
    SameRates ((setup.allowing few).step scene act) ((setup.allowing many).step other act) := by
  cases act with
  | inquire inquiry c => exact ((same.inquire _ inquiry c).symm.inquire _ inquiry c).symm
  | refresh c =>
    refine ⟨same.1, ?_⟩
    simp only [Setup.step, Setup.refresh_map, same.1]
    exact same.2.publish setup.plan _ _
  | pass duration => exact same.step (setup.allowing few) (.pass duration)

namespace Window

def storedTier (store : String → Option ApiKey) (id : String) : Tier :=
  ((store id).map (·.tier)).getD .undefined

/-- What two runs under different limits rely on: the window fits its arithmetic, logs outlive it by
a second, the store keeps its records under their identifiers, and no request meets a fault. -/
structure FaultlessTerms (setup : Setup) (store : String → Option ApiKey) (acts : List Act) :
    Prop where
  window : setup.policy.limit.window.seconds ≤ 2 ^ 62
  lifetime : (setup.policy.limit.window.seconds + 1) * 1000000000 ≤
    setup.policy.limit.stateLifetime.nanos
  ids : ∀ id key, store id = some key → key.apiKeyId = id
  smooth : ∀ inquiry c, Act.inquire inquiry c ∈ acts → c.Smooth store

/-- Logs are kept only for keys of the store. -/
def Backed (store : String → Option ApiKey) (scene : Scene) : Prop :=
  ∀ id entry, scene.map.live? scene.now (CacheKey.ofApiKey id) = some entry →
    ∃ key, store id = some key

structure Servable (store : String → Option ApiKey) (scene : Scene) (inquiry : Inquiry)
    (c : Circumstances) : Prop where
  pairs : inquiry.pairs ≠ []
  id : inquiry.id ≠ ""
  key : ∃ key, store inquiry.id = some key
  rates : ∃ results, c.allResolved scene.now scene.map 0 inquiry.pairs = .ok results

section OneRun

variable {setup : Setup} {origin : Int} {store : String → Option ApiKey} {acts : List Act}
  {scene : Scene} {ledger : String → List Int} {inquiry : Inquiry} {c : Circumstances}

theorem FaultlessTerms.knows (terms : FaultlessTerms setup store acts) (smooth : c.Smooth store) :
    ∀ id key, c.record id = .ok (some key) →
      key.apiKeyId = id ∧ key.tier = storedTier store id := by
  intro id key record
  rw [smooth.record] at record
  have stored : store id = some key := Except.ok.inj record
  exact ⟨terms.ids id key stored, by simp [storedTier, stored]⟩

theorem FaultlessTerms.quotaTerms (terms : FaultlessTerms setup store acts) (maxUsages : UInt64) :
    QuotaTerms (setup.allowing maxUsages) (storedTier store) acts where
  window := terms.window
  lifetime := terms.lifetime
  knows := by
    rintro (⟨inquiry, c⟩ | c | duration) member
    · exact terms.knows (terms.smooth inquiry c member)
    · trivial
    · trivial
  recorded := by
    right
    rintro (⟨inquiry, c⟩ | c | duration) member
    · exact fun calls _ _ _ => (terms.smooth inquiry c member).fault calls _
    · trivial
    · trivial

theorem FaultlessTerms.allowing (terms : FaultlessTerms setup store acts) (maxUsages : UInt64) :
    FaultlessTerms (setup.allowing maxUsages) store acts :=
  ⟨terms.window, terms.lifetime, terms.ids, terms.smooth⟩

theorem Servable.of_sameRates {other : Scene} (servable : Servable store scene inquiry c)
    (smooth : c.Smooth store) (same : SameRates scene other) : Servable store other inquiry c where
  pairs := servable.pairs
  id := servable.id
  key := servable.key
  rates := by
    rw [← same.1, ← smooth.allResolved_eq same.2 0 0]
    exact servable.rates

theorem exists_loaded_iff (backed : Backed store scene)
    (logs : Logs setup origin (storedTier store) scene ledger) (smooth : c.Smooth store) :
    (∃ state, c.loaded scene.now inquiry.id scene.map = .ok state) ↔
      ∃ key, store inquiry.id = some key := by
  constructor
  · rintro ⟨state, load⟩
    obtain ⟨-, ⟨entry, live, -⟩ | ⟨-, key, record, -⟩⟩ := (c.loaded_eq_ok_iff _).mp load
    · exact backed inquiry.id entry live
    · rw [smooth.record] at record
      exact ⟨key, Except.ok.inj record⟩
  · rintro ⟨key, stored⟩
    exact logs.exists_loaded
      ⟨smooth.fault _ _, fun _ => ⟨key, (smooth.record _).trans (congrArg _ stored)⟩⟩

/-- A request is served exactly if it can be and its key, if it is limited, has room in the window
that ends now. -/
theorem Logs.isOk_inquire_iff (logs : Logs setup origin (storedTier store) scene ledger)
    (backed : Backed store scene) (terms : FaultlessTerms setup store acts)
    (smooth : c.Smooth store) (clock : inquiry.now.seconds = secondAt origin scene.now) :
    (setup.inquire scene inquiry c).1.isOk = true ↔ Servable store scene inquiry c ∧
      (storedTier store inquiry.id = .limited →
        countSince (inquiry.now.seconds - setup.policy.limit.window.seconds) (ledger inquiry.id) <
          setup.policy.limit.maxUsages.toNat) := by
  have start := setup.policy.limit.toInt_windowStart inquiry.now terms.window
  have exceeds {state : QuotaState} (load : c.loaded scene.now inquiry.id scene.map = .ok state) :=
    (logs.tells (terms.knows smooth) load).exceeds_iff (start.trans (congrArg (· - _) clock))
  rw [← clock] at exceeds
  rw [smooth.isOk_inquire_iff]
  constructor
  · rintro ⟨pairs, ⟨state, admission⟩, rates⟩
    obtain ⟨id, load, admitted⟩ := (c.authorized_eq_ok_iff _).mp admission
    have key := (exists_loaded_iff backed logs smooth).mp ⟨state, load⟩
    refine ⟨⟨pairs, id, key, rates⟩, ?_⟩
    intro limited
    by_contra full
    rw [(exceeds load).mpr ⟨limited, Nat.le_of_not_lt full⟩] at admitted
    cases admitted
  · rintro ⟨servable, room⟩
    obtain ⟨state, load⟩ := (exists_loaded_iff backed logs smooth).mpr servable.key
    refine ⟨servable.pairs, ⟨state, ?_⟩, servable.rates⟩
    refine (c.authorized_eq_ok_iff _).mpr ⟨servable.id, load, ?_⟩
    rw [Bool.eq_false_iff]
    intro exceeded
    obtain ⟨limited, full⟩ := (exceeds load).mp exceeded
    exact absurd (room limited) (Nat.not_lt_of_le full)

theorem Backed.step (backed : Backed store scene)
    (logs : Logs setup origin (storedTier store) scene ledger)
    (terms : FaultlessTerms setup store acts) {act : Act} (member : act ∈ acts) :
    Backed store (setup.step scene act) := by
  intro id entry live
  cases act with
  | inquire inquiry c =>
    have smooth := terms.smooth inquiry c member
    rw [Setup.step] at live
    rcases setup.inquire_map scene inquiry c with unwritten | ⟨state, load, written⟩
    · rw [unwritten] at live
      exact backed id entry live
    · have owner : (setup.log inquiry state).apiKeyId = inquiry.id :=
        (logs.tells (terms.knows smooth) load).id
      have positive : 0 < setup.policy.limit.stateLifetime.nanos :=
        lt_of_lt_of_le (by omega) terms.lifetime
      rw [written, live?_logged setup scene positive, owner] at live
      split at live
      · rename_i same
        subst same
        exact (exists_loaded_iff backed logs smooth).mp ⟨state, load⟩
      · exact backed id entry live
  | refresh c =>
    rw [Setup.step, setup.refresh_map, setup.plan.live?_put_foldl] at live
    exact backed id entry live
  | pass duration =>
    exact backed id entry (TimedMap.live?_of_later (Nat.le_add_right _ _) live)

end OneRun

/-- Two runs under different limits: the same rates are published in both, and the ledgers of the
one with the lower limit are outpaced. -/
structure Abreast (setup : Setup) (few many : UInt64) (origin : Int)
    (store : String → Option ApiKey) (scene other : Scene) (ledger more : String → List Int) :
    Prop where
  logs : Logs (setup.allowing few) origin (storedTier store) scene ledger
  logs' : Logs (setup.allowing many) origin (storedTier store) other more
  backed : Backed store scene
  backed' : Backed store other
  rates : SameRates scene other
  outpaced : ∀ id, Outpaced few.toNat many.toNat
    (secondAt origin scene.now - setup.policy.limit.window.seconds) (ledger id) (more id)

namespace Abreast

variable {setup : Setup} {few many : UInt64} {origin : Int} {store : String → Option ApiKey}
  {acts run : List Act} {scene other : Scene} {ledger more : String → List Int}

theorem start (le : few ≤ many)
    (fresh : ∀ id, scene.map.live? scene.now (CacheKey.ofApiKey id) = none) :
    Abreast setup few many origin store scene scene (fun _ => []) fun _ => [] where
  logs := logs_start fresh
  logs' := logs_start fresh
  backed id entry live := by cases (fresh id).symm.trans live
  backed' id entry live := by cases (fresh id).symm.trans live
  rates := ⟨rfl, fun _ _ => rfl⟩
  outpaced _ := .empty (UInt64.le_iff_toNat_le.mp le)

section Inquire

variable (abreast : Abreast setup few many origin store scene other ledger more)
  (terms : FaultlessTerms setup store acts) {inquiry : Inquiry} {c : Circumstances}
  (member : Act.inquire inquiry c ∈ acts)
  (clock : inquiry.now.seconds = secondAt origin scene.now)
include abreast terms member clock

theorem isOk_few_iff : ((setup.allowing few).inquire scene inquiry c).1.isOk = true ↔
    Servable store scene inquiry c ∧ (storedTier store inquiry.id = .limited →
      countSince (secondAt origin scene.now - setup.policy.limit.window.seconds)
        (ledger inquiry.id) < few.toNat) := by
  rw [← clock]
  exact abreast.logs.isOk_inquire_iff abreast.backed (terms.allowing few)
    (terms.smooth inquiry c member) clock

theorem isOk_many_iff : ((setup.allowing many).inquire other inquiry c).1.isOk = true ↔
    Servable store scene inquiry c ∧ (storedTier store inquiry.id = .limited →
      countSince (secondAt origin scene.now - setup.policy.limit.window.seconds)
        (more inquiry.id) < many.toNat) := by
  have smooth := terms.smooth inquiry c member
  have same : Servable store scene inquiry c ↔ Servable store other inquiry c :=
    ⟨fun servable => servable.of_sameRates smooth abreast.rates,
      fun servable => servable.of_sameRates smooth abreast.rates.symm⟩
  rw [← clock, same]
  exact abreast.logs'.isOk_inquire_iff abreast.backed' (terms.allowing many) smooth
    (abreast.rates.1 ▸ clock)

/-- A request that is served under the lower limit is served under the higher one. -/
theorem isOk_many_of_few (served : ((setup.allowing few).inquire scene inquiry c).1.isOk = true) :
    ((setup.allowing many).inquire other inquiry c).1.isOk = true := by
  obtain ⟨servable, room⟩ := (abreast.isOk_few_iff terms member clock).mp served
  exact (abreast.isOk_many_iff terms member clock).mpr
    ⟨servable, fun limited => (abreast.outpaced inquiry.id).room (room limited)⟩

theorem outpaced_inquire (id : String) :
    Outpaced few.toNat many.toNat
      (secondAt origin scene.now - setup.policy.limit.window.seconds)
      (ledger id ++ (setup.allowing few).servedBy id scene (.inquire inquiry c))
      (more id ++ (setup.allowing many).servedBy id other (.inquire inquiry c)) := by
  by_cases own : inquiry.id = id
  case neg =>
    simp only [Setup.servedBy, own, false_and, if_false, List.append_nil]
    exact abreast.outpaced id
  subst own
  have here := abreast.isOk_few_iff terms member clock
  have there := abreast.isOk_many_iff terms member clock
  have both := abreast.isOk_many_of_few terms member clock
  have outpaced := abreast.outpaced inquiry.id
  simp only [Setup.servedBy, true_and]
  cases served : ((setup.allowing _).inquire scene inquiry c).1.isOk with
  | true =>
    rw [both served]
    exact outpaced.concat _
  | false =>
    simp only [Bool.false_eq_true, if_false, List.append_nil]
    split
    · rename_i served'
      obtain ⟨servable, room⟩ := there.mp served'
      have full := mt here.mpr (ne_true_of_eq_false served)
      obtain ⟨limited, full⟩ := Classical.not_imp.mp fun room => full ⟨servable, room⟩
      exact outpaced.concat_right (Nat.le_of_not_lt full) (room limited) _
    · rw [List.append_nil]
      exact outpaced

end Inquire

/-- Every act keeps the two runs abreast. -/
theorem step (abreast : Abreast setup few many origin store scene other ledger more)
    (terms : FaultlessTerms setup store acts) {act : Act} (member : act ∈ acts)
    (clock : act.FallsAt (secondAt origin scene.now)) :
    Abreast setup few many origin store ((setup.allowing few).step scene act)
      ((setup.allowing many).step other act)
      (fun id => ledger id ++ (setup.allowing few).servedBy id scene act)
      fun id => more id ++ (setup.allowing many).servedBy id other act where
  logs := logs_step (terms.quotaTerms few) abreast.logs member clock
  logs' := logs_step (terms.quotaTerms many) abreast.logs' member (abreast.rates.1 ▸ clock)
  backed := abreast.backed.step abreast.logs (terms.allowing few) member
  backed' := abreast.backed'.step abreast.logs' (terms.allowing many) member
  rates := abreast.rates.step_allowing setup few many act
  outpaced id := by
    cases act with
    | inquire inquiry c => exact abreast.outpaced_inquire terms member clock id
    | refresh c =>
      simp only [Setup.servedBy, List.append_nil]
      exact abreast.outpaced id
    | pass duration =>
      simp only [Setup.servedBy, List.append_nil]
      exact (abreast.outpaced id).later
        (Int.sub_le_sub_right (secondAt_mono origin (Nat.le_add_right _ _)) _)

/-- Every run keeps the two runs abreast. -/
theorem after (abreast : Abreast setup few many origin store scene other ledger more)
    (terms : FaultlessTerms setup store acts) (members : ∀ act ∈ run, act ∈ acts)
    (clock : OnClock origin scene.now run) :
    Abreast setup few many origin store ((setup.allowing few).after scene run)
      ((setup.allowing many).after other run)
      (fun id => ledger id ++ (setup.allowing few).served id scene run)
      fun id => more id ++ (setup.allowing many).served id other run := by
  induction run generalizing scene other ledger more with
  | nil =>
    simp only [Setup.served, Setup.collect, List.append_nil]
    exact abreast
  | cons act run ih =>
    have first := abreast.step terms (members act List.mem_cons_self) clock.1
    have rest : OnClock origin ((setup.allowing few).step scene act).now run := by
      rw [Setup.now_step]
      exact clock.2
    have both := ih first (fun other h => members other (List.mem_cons_of_mem act h)) rest
    simp only [List.append_assoc] at both
    exact both

end Abreast

/-- In every sequence of requests, cycles and time steps in which no request meets a fault, from any
cache without logs: after each of its prefixes, no fewer requests of any key have been served under
a higher limit, and every request that the lower limit serves is served under the higher one. -/
theorem served_le_of_raised {setup : Setup} {few many : UInt64} (le : few ≤ many) {origin : Int}
    {store : String → Option ApiKey} {start : Scene} {acts : List Act}
    (terms : FaultlessTerms setup store acts) (clock : OnClock origin start.now acts)
    (fresh : ∀ id, start.map.live? start.now (CacheKey.ofApiKey id) = none) :
    (∀ before later, acts = before ++ later → ∀ id,
      ((setup.allowing few).served id start before).length ≤
        ((setup.allowing many).served id start before).length) ∧
    ∀ before inquiry c later, acts = before ++ .inquire inquiry c :: later →
      ((setup.allowing few).inquire ((setup.allowing few).after start before) inquiry c).1.isOk →
        ((setup.allowing many).inquire ((setup.allowing many).after start before) inquiry
          c).1.isOk := by
  constructor
  · rintro before later rfl id
    have begun := ((onClock_append setup origin start before later).mp clock).1
    have members : ∀ act ∈ before, act ∈ before ++ later := fun act => List.mem_append_left _
    have start : Abreast setup few many origin store start start (fun _ => []) fun _ => [] :=
      .start le fresh
    have abreast := start.after terms members begun
    have outpaced := abreast.outpaced id
    simp only [List.nil_append] at outpaced
    exact outpaced.sublist.length_le
  · rintro before inquiry c later rfl
    have parts := (onClock_append (setup.allowing few) origin start before _).mp clock
    have members : ∀ act ∈ before, act ∈ before ++ .inquire inquiry c :: later :=
      fun act => List.mem_append_left _
    have start : Abreast setup few many origin store start start (fun _ => []) fun _ => [] :=
      .start le fresh
    have abreast := start.after terms members parts.1
    have member : Act.inquire inquiry c ∈ before ++ .inquire inquiry c :: later := by simp
    exact abreast.isOk_many_of_few terms member parts.2.1

def minuteOver : Calendar.Instant :=
  ⟨61, 0, by decide, Small.firstSecond.nanosBound, by decide⟩

/-- Two requests at once, and two more after a minute and a second. -/
def twoPairs : List Act :=
  [.refresh Small.world, .inquire (Small.inquiry Small.firstSecond) Small.world,
    .inquire (Small.inquiry Small.firstSecond) Small.world, .pass (.ofSeconds 61),
    .inquire (Small.inquiry minuteOver) Small.world,
    .inquire (Small.inquiry minuteOver) Small.world]

/-- One of each two requests is served under the lower limit, and so is the third one under the
higher limit, although the second one counted there. -/
theorem served_le_of_twoPairs :
    ((Small.setup.allowing 1).served "key" .initial twoPairs).length ≤
        ((Small.setup.allowing 2).served "key" .initial twoPairs).length ∧
      ((Small.setup.allowing 2).inquire ((Small.setup.allowing 2).after .initial
        (twoPairs.take 4)) (Small.inquiry minuteOver) Small.world).1.isOk = true := by
  let store (id : String) : Option ApiKey := some ⟨1, id, "user", .limited, none⟩
  have terms : FaultlessTerms Small.setup store twoPairs := by
    refine ⟨by decide, by decide, ?_, ?_⟩
    · rintro id key ⟨⟩
      rfl
    · intro inquiry c member
      have same : c = Small.world := by
        simp [twoPairs] at member
        rcases member with h | h <;> exact h.2
      rw [same]
      exact ⟨fun _ _ => rfl, fun _ => rfl⟩
  have clock : OnClock 0 Scene.initial.now twoPairs :=
    ⟨trivial, rfl, rfl, trivial, rfl, rfl, trivial⟩
  have raised : (1 : UInt64) ≤ 2 := by decide
  have result := served_le_of_raised raised terms clock fun _ => rfl
  exact ⟨result.1 twoPairs [] (List.append_nil _).symm "key",
    result.2 (twoPairs.take 4) _ _ _ rfl (by decide +kernel)⟩

end Window

end QuoteGateway
