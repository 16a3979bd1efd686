import QuoteGateway.Cache.TimedMap
import QuoteGateway.Proofs.Course

/-!
# Runs of the gateway

Jobs are carried out one after the other on a timed map, with requests, cycles of the updater and
steps of the clock in any order. In every job the surroundings decide which calls of the cache fail
and what the key store and the source of rates answer. A call of the cache that fails leaves the
map as it was.
-/

namespace QuoteGateway

open Cache (TimedMap)

/-- The surroundings of one job. Whether a call of the cache fails may depend on the call and on
the number of calls before it. -/
structure Circumstances where
  fault : Nat → Cache.Call → Option String
  record : String → Except String (Option ApiKey)
  rates : List String → Except Failure (List FeedRate)

structure Progress where
  calls : Nat
  map : TimedMap

namespace Circumstances

/-- The records of the key store carry the identifiers they are looked up by. -/
def KeepsIds (c : Circumstances) : Prop :=
  ∀ id key, c.record id = .ok (some key) → key.apiKeyId = id

variable (c : Circumstances) (now : Nat)

def respond : (call : gatewaySignature.Call) → StateM Progress (gatewaySignature.Answer call)
  | .cache call, p =>
    match c.fault p.calls call with
    | some words => (.error (.reported .cache words), ⟨p.calls + 1, p.map⟩)
    | none => (.ok (p.map.answer now call).1, ⟨p.calls + 1, (p.map.answer now call).2⟩)
  | .findKey id, p => ((c.record id).mapError (.reported .storage), ⟨p.calls + 1, p.map⟩)
  | .pingStore, p => (.ok (), ⟨p.calls + 1, p.map⟩)
  | .fetchRates bases, p => (c.rates bases, ⟨p.calls + 1, p.map⟩)

def carryOut {α : Type} (d : Dialogue gatewaySignature α) : StateM Progress α :=
  d.run (c.respond now) fun _ => pure ()

/-- Carries a job out to its result or failure. -/
def conduct {α : Type} (job : Job α) (p : Progress) : Except Failure α × Progress :=
  c.carryOut now job.run p

variable {α β : Type}

theorem carryOut_ask (call : gatewaySignature.Call)
    (next : gatewaySignature.Answer call → Dialogue gatewaySignature α) (p : Progress) :
    c.carryOut now (.ask call next) p =
      c.carryOut now (next (c.respond now call p).1) (c.respond now call p).2 := rfl

theorem carryOut_bind (d : Dialogue gatewaySignature α) (f : α → Dialogue gatewaySignature β)
    (p : Progress) :
    c.carryOut now (d.bind f) p =
      c.carryOut now (f (c.carryOut now d p).1) (c.carryOut now d p).2 :=
  congrFun (Dialogue.run_bind (c.respond now) (fun _ => pure ()) d f) p

theorem respond_read (key : String) (p : Progress) :
    c.respond now (.cache (.read key)) p =
      (match c.fault p.calls (.read key) with
        | some words => .error (.reported .cache words)
        | none => .ok ((p.map.live? now key).map (·.value)), ⟨p.calls + 1, p.map⟩) := by
  simp only [respond]
  cases c.fault p.calls (.read key) <;> rfl

theorem respond_read_map (key : String) (p : Progress) :
    (c.respond now (.cache (.read key)) p).2.map = p.map := by
  rw [respond_read]

theorem respond_write (key value : String) (lifetime : Duration) (p : Progress) :
    c.respond now (.cache (.write key value lifetime)) p =
      match c.fault p.calls (.write key value lifetime) with
      | some words => (.error (.reported .cache words), ⟨p.calls + 1, p.map⟩)
      | none => (.ok (), ⟨p.calls + 1, p.map.put now key value lifetime⟩) := by
  simp only [respond]
  cases c.fault p.calls (.write key value lifetime) <;> rfl

theorem conduct_read (key : String) (p : Progress) :
    c.conduct now (Job.call (.cache (.read key)) : Job (Option String)) p =
      (match c.fault p.calls (.read key) with
        | some words => .error (.reported .cache words)
        | none => .ok ((p.map.live? now key).map (·.value)), ⟨p.calls + 1, p.map⟩) :=
  c.respond_read now key p

theorem conduct_write (key value : String) (lifetime : Duration) (p : Progress) :
    c.conduct now (Job.call (.cache (.write key value lifetime)) : Job Unit) p =
      match c.fault p.calls (.write key value lifetime) with
      | some words => (.error (.reported .cache words), ⟨p.calls + 1, p.map⟩)
      | none => (.ok (), ⟨p.calls + 1, p.map.put now key value lifetime⟩) :=
  c.respond_write now key value lifetime p

theorem conduct_findKey (id : String) (p : Progress) :
    c.conduct now (Job.call (.findKey id) : Job (Option ApiKey)) p =
      ((c.record id).mapError (.reported .storage), ⟨p.calls + 1, p.map⟩) := rfl

theorem conduct_fetchRates (bases : List String) (p : Progress) :
    c.conduct now (Job.call (.fetchRates bases) : Job (List FeedRate)) p =
      (c.rates bases, ⟨p.calls + 1, p.map⟩) := rfl

theorem conduct_bind (job : Job α) (f : α → Job β) (p : Progress) :
    c.conduct now (job >>= f) p =
      match c.conduct now job p with
      | (.ok a, q) => c.conduct now (f a) q
      | (.error failure, q) => (.error failure, q) := by
  change c.carryOut now (job.run.bind _) p = _
  rw [carryOut_bind, conduct]
  rcases c.carryOut now job.run p with ⟨failure | a, q⟩ <;> rfl

/-- The outcome of a job may be looked at without failing with it. -/
theorem conduct_lift_run (job : Job α) (p : Progress) :
    c.conduct now (ExceptT.lift job.run) p =
      (.ok (c.conduct now job p).1, (c.conduct now job p).2) := by
  change c.carryOut now (job.run.bind _) p = _
  rw [carryOut_bind]
  rfl

theorem conduct_adapt (change : Failure → Failure) (job : Job α) (p : Progress) :
    c.conduct now (ExceptT.adapt change job) p =
      ((c.conduct now job p).1.mapError change, (c.conduct now job p).2) := by
  change c.carryOut now (job.run.bind _) p = _
  rw [carryOut_bind]
  rfl

end Circumstances

/-- A request of an API key for a list of pairs, and the instant at which it is made. -/
structure Inquiry where
  id : String
  pairs : List CurrencyPair
  now : Calendar.Instant

/-- A request is refused if it is told that there were too many. -/
def Refused {α : Type} (result : Except Failure α) : Prop :=
  ∃ failure, result = .error failure ∧ failure.kind = .tooManyRequests

theorem not_refused_ok {α : Type} (a : α) : ¬ Refused (.ok a) := nofun

theorem refused_error_iff {α : Type} {failure : Failure} :
    Refused (.error failure : Except Failure α) ↔ failure.kind = .tooManyRequests := by
  constructor
  · rintro ⟨other, ⟨⟩, kind⟩
    exact kind
  · exact fun kind => ⟨failure, rfl, kind⟩

/-- A failure is a refusal whatever result it stands in for. -/
theorem Refused.change {α β : Type} {failure : Failure}
    (h : Refused (.error failure : Except Failure α)) :
    Refused (.error failure : Except Failure β) :=
  refused_error_iff.mpr (refused_error_iff.mp h)

/-- What happens at the gateway: a request, a cycle of the updater, or time. -/
inductive Act where
  | inquire (inquiry : Inquiry) (c : Circumstances)
  | refresh (c : Circumstances)
  | pass (duration : Duration)

/-- How requests are answered and rates are published. -/
structure Setup where
  policy : QuotePolicy
  plan : UpdaterPlan

/-- The clock of the cache and what it holds. -/
structure Scene where
  now : Nat
  map : TimedMap

def Scene.initial : Scene := ⟨0, .empty⟩

namespace Setup

variable (setup : Setup)

def inquire (scene : Scene) (inquiry : Inquiry) (c : Circumstances) :
    Except Failure QuoteResponse × Progress :=
  c.conduct scene.now (setup.policy.answer inquiry.id inquiry.pairs inquiry.now) ⟨0, scene.map⟩

def refresh (scene : Scene) (c : Circumstances) : Except Failure Nat × Progress :=
  c.conduct scene.now setup.plan.refresh ⟨0, scene.map⟩

/-- The scene after an act. -/
def step (scene : Scene) : Act → Scene
  | .inquire inquiry c => ⟨scene.now, (setup.inquire scene inquiry c).2.map⟩
  | .refresh c => ⟨scene.now, (setup.refresh scene c).2.map⟩
  | .pass duration => ⟨scene.now + duration.nanos, scene.map⟩

def after (scene : Scene) (acts : List Act) : Scene := acts.foldl setup.step scene

theorem after_nil (scene : Scene) : setup.after scene [] = scene := rfl

theorem after_cons (scene : Scene) (act : Act) (acts : List Act) :
    setup.after scene (act :: acts) = setup.after (setup.step scene act) acts := rfl

/-- What is observed of each act of a sequence, in order. -/
def collect {ρ : Type} (observe : Scene → Act → List ρ) : Scene → List Act → List ρ
  | _, [] => []
  | scene, act :: acts => observe scene act ++ collect observe (setup.step scene act) acts

theorem exists_of_mem_collect {ρ : Type} {observe : Scene → Act → List ρ} {scene : Scene}
    {acts : List Act} {shown : ρ} (h : shown ∈ setup.collect observe scene acts) :
    ∃ act there, act ∈ acts ∧ shown ∈ observe there act := by
  induction acts generalizing scene with
  | nil => cases h
  | cons act acts ih =>
    rw [collect, List.mem_append] at h
    rcases h with here | later
    · exact ⟨act, scene, List.mem_cons_self, here⟩
    · obtain ⟨other, there, member, shown⟩ := ih later
      exact ⟨other, there, List.mem_cons_of_mem act member, shown⟩

def servedBy (id : String) (scene : Scene) : Act → List Int
  | .inquire inquiry c =>
    if inquiry.id = id ∧ (setup.inquire scene inquiry c).1.isOk then [inquiry.now.seconds] else []
  | _ => []

/-- The seconds at which requests of an API key are served in a sequence of acts. -/
def served (id : String) : Scene → List Act → List Int := setup.collect (setup.servedBy id)

end Setup

namespace Small

def setup : Setup :=
  ⟨⟨⟨.ofSeconds 60, 1, .ofSeconds 61⟩, .strict⟩, ⟨.ofSeconds 20, .ofSeconds 600, ["USD"]⟩⟩

/-- Nothing fails, every key is limited, and one rate is known. -/
def world : Circumstances where
  fault _ _ := none
  record id := .ok (some ⟨1, id, "user", .limited, none⟩)
  rates _ := .ok [⟨"USD", "JPY", .ofNat 150, 0⟩]

theorem world_keepsIds : world.KeepsIds := by
  rintro id key ⟨⟩
  rfl

def firstSecond : Calendar.Instant := ⟨0, 0, by decide, by decide, by decide⟩
def nextMinute : Calendar.Instant := ⟨60, 0, by decide, by decide, by decide⟩

def inquiry (now : Calendar.Instant) : Inquiry := ⟨"key", [⟨"usd", "jpy"⟩], now⟩

end Small

end QuoteGateway
