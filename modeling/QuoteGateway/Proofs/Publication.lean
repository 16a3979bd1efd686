import QuoteGateway.Proofs.Conduct
import QuoteGateway.Proofs.RateText

/-!
# The latest publication is served

A rate that is looked up is the last one published for its pair, as long as it lives. What a map
holds under the keys of rates is the history of the cycles, and requests add nothing to it.
-/

namespace QuoteGateway

open Cache (TimedMap)

/-- A rate and the moment at which it was written. -/
structure Publication where
  moment : Nat
  rate : FeedRate

namespace Publication

/-- Whether a publication is for a pair, by its names in small letters. -/
def isFor (pair : CurrencyPair) (publication : Publication) : Bool :=
  Text.lowercase publication.rate.base = Text.lowercase pair.base ∧
    Text.lowercase publication.rate.target = Text.lowercase pair.target

def latest (pair : CurrencyPair) (history : List Publication) : Option Publication :=
  history.reverse.find? (isFor pair)

theorem latest_concat (pair : CurrencyPair) (history : List Publication)
    (publication : Publication) :
    latest pair (history ++ [publication]) =
      if isFor pair publication then some publication else latest pair history := by
  rw [latest, List.reverse_append, List.reverse_singleton, List.singleton_append, List.find?_cons]
  cases isFor pair publication <;> rfl

theorem mem_of_latest {pair : CurrencyPair} {history : List Publication}
    {publication : Publication} (h : latest pair history = some publication) :
    publication ∈ history :=
  List.mem_reverse.mp (List.mem_of_find?_eq_some h)

def entry (plan : UpdaterPlan) (publication : Publication) : Cache.Entry :=
  ⟨publication.rate.cached.document.compact, publication.moment + plan.rateLifetime.nanos⟩

end Publication

/-- A map holds the history of its rates: under the key of every pair that a text can name, the last
publication for it. -/
def Holds (plan : UpdaterPlan) (map : TimedMap) (history : List Publication) : Prop :=
  ∀ text pair, CurrencyPair.parse? text = some pair →
    map.entries.get? (CacheKey.ofRate pair.base pair.target) =
      (Publication.latest pair history).map (Publication.entry plan)

namespace Holds

variable {plan : UpdaterPlan} {map : TimedMap} {history : List Publication}

theorem empty : Holds plan .empty [] := fun _ _ _ => rfl

theorem publish (holds : Holds plan map history) (now : Nat) (rate : FeedRate) :
    Holds plan (plan.put now map rate) (history ++ [⟨now, rate⟩]) := by
  intro text pair parsed
  have keys := CacheKey.ofRate_eq_ofRate_iff parsed rate.base rate.target
  rw [Publication.latest_concat, UpdaterPlan.put, TimedMap.put]
  by_cases same : CacheKey.ofRate rate.base rate.target = CacheKey.ofRate pair.base pair.target
  · have names : Publication.isFor pair ⟨now, rate⟩ = true := decide_eq_true (keys.mp same)
    rw [same, Table.get?_put_self, if_pos names]
    rfl
  · have names : ¬ Publication.isFor pair ⟨now, rate⟩ = true :=
      fun names => same (keys.mpr (of_decide_eq_true names))
    rw [Table.get?_put_of_ne _ _ (Ne.symm same), if_neg names]
    exact holds text pair parsed

theorem publishAll (holds : Holds plan map history) (now : Nat) (rates : List FeedRate) :
    Holds plan (rates.foldl (plan.put now) map)
      (history ++ rates.map fun rate => ⟨now, rate⟩) := by
  induction rates generalizing map history with
  | nil =>
    rw [List.map_nil, List.append_nil]
    exact holds
  | cons rate rates ih =>
    rw [List.map_cons, List.append_cons]
    exact ih (holds.publish now rate)

theorem put_log (holds : Holds plan map history) (now : Nat) (id value : String)
    (lifetime : Duration) :
    Holds plan (map.put now (CacheKey.ofApiKey id) value lifetime) history := by
  intro text pair parsed
  rw [TimedMap.put, Table.get?_put_of_ne _ _ (CacheKey.ofApiKey_ne_ofRate id _ _).symm]
  exact holds text pair parsed

end Holds

namespace Setup

variable (setup : Setup)

def publishedBy (scene : Scene) : Act → List Publication
  | .refresh c => (c.published setup.plan).map fun rate => ⟨scene.now, rate⟩
  | .inquire _ _ => []
  | .pass _ => []

def publications : Scene → List Act → List Publication := setup.collect setup.publishedBy

theorem holds_step {scene : Scene} {history : List Publication}
    (holds : Holds setup.plan scene.map history) (act : Act) :
    Holds setup.plan (setup.step scene act).map (history ++ setup.publishedBy scene act) := by
  cases act with
  | inquire inquiry c =>
    rw [publishedBy, List.append_nil, step]
    rcases setup.inquire_map scene inquiry c with unwritten | ⟨state, -, written⟩
    · rw [unwritten]
      exact holds
    · rw [written]
      exact holds.put_log _ _ _ _
  | refresh c =>
    rw [publishedBy, step, setup.refresh_map]
    exact holds.publishAll scene.now _
  | pass duration =>
    rw [publishedBy, List.append_nil]
    exact holds

/-- The map after a run holds the rates published before it and in it. -/
theorem holds_after {scene : Scene} {history : List Publication}
    (holds : Holds setup.plan scene.map history) (acts : List Act) :
    Holds setup.plan (setup.after scene acts).map (history ++ setup.publications scene acts) := by
  induction acts generalizing scene history with
  | nil =>
    rw [publications, collect, List.append_nil]
    exact holds
  | cons act acts ih =>
    rw [publications, collect, ← List.append_assoc]
    exact ih (setup.holds_step holds act)

theorem source_of_publications {scene : Scene} {acts : List Act} {publication : Publication}
    (h : publication ∈ setup.publications scene acts) :
    ∃ c rates, Act.refresh c ∈ acts ∧ c.rates setup.plan.bases = .ok rates ∧
      publication.rate ∈ rates := by
  obtain ⟨act, there, member, published⟩ := setup.exists_of_mem_collect h
  cases act with
  | inquire inquiry c => cases published
  | refresh c =>
    obtain ⟨rate, written, rfl⟩ := List.mem_map.mp published
    obtain ⟨rates, answer, rate⟩ := c.mem_of_published setup.plan written
    exact ⟨c, rates, member, answer, rate⟩
  | pass duration => cases published

/-- The answer to looking up the rate of one pair on a scene. -/
def lookup (scene : Scene) (pair : CurrencyPair) (c : Circumstances) :
    Except Failure (List RateResult) :=
  (c.conduct scene.now (Lookup.resolveAll [pair]) ⟨0, scene.map⟩).1

theorem lookup_of_readable {scene : Scene} {pair : CurrencyPair} {c : Circumstances}
    (readable : c.fault 0 (.read (CacheKey.ofRate pair.base pair.target)) = none) :
    lookup scene pair c =
      match found CachedRate.reader scene.now scene.map (CacheKey.ofRate pair.base pair.target) with
      | .error failure => .error (.rateNotRead pair failure)
      | .ok none => .error (.noRate pair)
      | .ok (some cached) => .ok [.ofCached pair cached] := by
  obtain ⟨calls, resolution⟩ := c.conduct_resolveAll scene.now [pair] ⟨0, scene.map⟩
  rw [lookup, resolution]
  simp only [Circumstances.allResolved, Circumstances.resolved, readable]
  cases found CachedRate.reader scene.now scene.map (CacheKey.ofRate pair.base pair.target) with
  | error failure => rfl
  | ok cached => cases cached <;> rfl

end Setup

/-- A publication may be served until its lifetime has passed. -/
def Publication.LivesAt (plan : UpdaterPlan) (now : Nat) (publication : Publication) : Prop :=
  now < publication.moment + plan.rateLifetime.nanos

instance (plan : UpdaterPlan) (now : Nat) (publication : Publication) :
    Decidable (publication.LivesAt plan now) :=
  inferInstanceAs (Decidable (now < _))

section Lookup

variable {plan : UpdaterPlan} {scene : Scene} {history : List Publication} {text : String}
  {pair : CurrencyPair} {c : Circumstances}
  (holds : Holds plan scene.map history) (parsed : CurrencyPair.parse? text = some pair)
  (readable : c.fault 0 (.read (CacheKey.ofRate pair.base pair.target)) = none)
include holds parsed readable

theorem lookup_of_live {publication : Publication}
    (latest : Publication.latest pair history = some publication)
    (live : publication.LivesAt plan scene.now)
    (finite : publication.rate.rate.isFinite = true) :
    ∃ y, Json.readText Json.real (Json.Document.real publication.rate.rate).compact = .ok y ∧
      Setup.lookup scene pair c = .ok [⟨pair, y, publication.rate.timestamp⟩] := by
  have kept := holds text pair parsed
  rw [latest, Option.map_some] at kept
  have entry := TimedMap.live?_eq_some_iff.mpr ⟨kept, live⟩
  obtain ⟨alone, read⟩ := publication.rate.cached.readText_compact finite
  refine ⟨_, alone, ?_⟩
  rw [Setup.lookup_of_readable readable, found_of_entry entry read]
  rfl

theorem lookup_of_expired
    (expired : ∀ publication, Publication.latest pair history = some publication →
      ¬ publication.LivesAt plan scene.now) :
    Setup.lookup scene pair c = .error (.noRate pair) := by
  have gone : scene.map.live? scene.now (CacheKey.ofRate pair.base pair.target) = none := by
    rw [Option.eq_none_iff_forall_ne_some]
    intro entry live
    obtain ⟨there, before⟩ := TimedMap.live?_eq_some_iff.mp live
    rw [holds text pair parsed] at there
    obtain ⟨publication, latest, rfl⟩ := Option.map_eq_some_iff.mp there
    exact expired publication latest before
  rw [Setup.lookup_of_readable readable, found_of_missing gone]

end Lookup

/-- After every run from an empty cache, looking up a pair gives the last rate published for it,
with its timestamp, as long as that publication lives, and fails for want of a rate otherwise. -/
theorem lookup_latest (setup : Setup) (moment : Nat) {acts : List Act}
    (finite : ∀ c rates, Act.refresh c ∈ acts → c.rates setup.plan.bases = .ok rates →
      ∀ rate ∈ rates, rate.rate.isFinite = true)
    {text : String} {pair : CurrencyPair} (parsed : CurrencyPair.parse text = .ok pair)
    {c : Circumstances}
    (readable : c.fault 0 (.read (CacheKey.ofRate pair.base pair.target)) = none) :
    let scene := setup.after ⟨moment, .empty⟩ acts
    let history := setup.publications ⟨moment, .empty⟩ acts
    ((∃ results, Setup.lookup scene pair c = .ok results) ↔
      ∃ publication, Publication.latest pair history = some publication ∧
        publication.LivesAt setup.plan scene.now) ∧
    (∀ publication, Publication.latest pair history = some publication →
      publication.LivesAt setup.plan scene.now →
      ∃ y, Json.readText Json.real (Json.Document.real publication.rate.rate).compact = .ok y ∧
        Setup.lookup scene pair c = .ok [⟨pair, y, publication.rate.timestamp⟩]) ∧
    ∀ failure, Setup.lookup scene pair c = .error failure → failure = .noRate pair := by
  intro scene history
  have pair? : CurrencyPair.parse? text = some pair := CurrencyPair.parse?_of_parse parsed
  have start : Holds setup.plan (⟨moment, .empty⟩ : Scene).map [] := Holds.empty
  have holds : Holds setup.plan scene.map history := setup.holds_after start acts
  have served : ∀ publication, Publication.latest pair history = some publication →
      publication.LivesAt setup.plan scene.now →
      ∃ y, Json.readText Json.real (Json.Document.real publication.rate.rate).compact = .ok y ∧
        Setup.lookup scene pair c = .ok [⟨pair, y, publication.rate.timestamp⟩] := by
    intro publication latest live
    obtain ⟨source, rates, member, answer, rate⟩ :=
      setup.source_of_publications (Publication.mem_of_latest latest)
    exact lookup_of_live holds pair? readable latest live
      (finite source rates member answer _ rate)
  by_cases living : ∃ publication, Publication.latest pair history = some publication ∧
      publication.LivesAt setup.plan scene.now
  · obtain ⟨publication, latest, live⟩ := living
    obtain ⟨y, -, answer⟩ := served publication latest live
    refine ⟨⟨fun _ => ⟨publication, latest, live⟩, fun _ => ⟨_, answer⟩⟩, served, ?_⟩
    intro failure failing
    rw [answer] at failing
    cases failing
  · have missing : Setup.lookup scene pair c = .error (.noRate pair) := by
      apply lookup_of_expired holds pair? readable
      exact fun publication latest live => living ⟨publication, latest, live⟩
    refine ⟨⟨?_, fun live => absurd live living⟩, served, ?_⟩
    · rintro ⟨results, answer⟩
      rw [missing] at answer
      cases answer
    · intro failure failing
      rw [missing] at failing
      exact (Except.error.inj failing).symm

def newerRate : FeedRate := ⟨"usd", "Jpy", .ofNat 151, 20⟩

/-- A rate is published, and a newer one while the first still lives. Then the first expires. -/
def republished : List Act :=
  [.refresh Small.world, .pass (.ofSeconds 20),
    .refresh { Small.world with rates := fun _ => .ok [newerRate] }, .pass (.ofSeconds 590)]

theorem lookup_of_republished :
    (∀ c rates, Act.refresh c ∈ republished → c.rates Small.setup.plan.bases = .ok rates →
      ∀ rate ∈ rates, rate.rate.isFinite = true) ∧
    CurrencyPair.parse "usd_jpy" = .ok ⟨"usd", "jpy"⟩ ∧
    Small.world.fault 0 (.read (CacheKey.ofRate "usd" "jpy")) = none ∧
    ∃ y, Json.readText Json.real (Json.Document.real newerRate.rate).compact = .ok y ∧
      Setup.lookup (Small.setup.after ⟨0, .empty⟩ republished) ⟨"usd", "jpy"⟩ Small.world =
        .ok [⟨⟨"usd", "jpy"⟩, y, 20⟩] := by
  have finite : ∀ c rates, Act.refresh c ∈ republished →
      c.rates Small.setup.plan.bases = .ok rates → ∀ rate ∈ rates, rate.rate.isFinite = true := by
    intro c rates member answer rate source
    simp only [republished, List.mem_cons, Act.refresh.injEq, reduceCtorEq, List.not_mem_nil,
      or_false, false_or] at member
    rcases member with rfl | rfl
    · cases answer
      obtain rfl := List.mem_singleton.mp source
      rfl
    · cases answer
      obtain rfl := List.mem_singleton.mp source
      rfl
  have parsed : CurrencyPair.parse "usd_jpy" = .ok ⟨"usd", "jpy"⟩ := rfl
  obtain ⟨-, served, -⟩ := lookup_latest Small.setup 0 finite parsed (c := Small.world) rfl
  exact ⟨finite, parsed, rfl, served ⟨20000000000, newerRate⟩ (by rfl) (by decide +kernel)⟩

end QuoteGateway
