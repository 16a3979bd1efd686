import QuoteGateway.Proofs.Decision

/-!
# Strict and best-effort recording

Two gateways that differ only in what happens to a request that cannot be recorded, side by side in
one run. They make the same calls and hold the same cache all along. Their answers differ only where
the write of a usage fails, and there the lenient one answers as if it had not.
-/

namespace QuoteGateway

open Cache (TimedMap)

namespace Circumstances

variable (c : Circumstances) (now : Nat)

/-- The surroundings, but no write to the cache fails. -/
def writable : Circumstances :=
  { c with fault := fun calls call =>
      match call with
      | .write .. => none
      | call => c.fault calls call }

theorem respond_writable {call : Call} (looks : call.Looks) :
    c.writable.respond now call = c.respond now call := by
  rcases call with (key | _ | _ | _ | _ | _) | id | _ | _
  · rfl
  · cases looks
  · cases looks
  · cases looks
  · cases looks
  · cases looks
  · rfl
  · cases looks
  · cases looks

theorem after_writable {calls : List Call} (looks : ∀ call ∈ calls, call.Looks) (p : Progress) :
    Responder.after (c.writable.respond now) p calls =
      Responder.after (c.respond now) p calls := by
  induction calls generalizing p with
  | nil => rfl
  | cons call calls ih =>
    obtain ⟨first, rest⟩ := List.forall_mem_cons.mp looks
    have step : c.writable.respond now call p = c.respond now call p :=
      congrFun (c.respond_writable now first) p
    exact (congrArg (Responder.after _ ·.2 calls) step).trans (ih rest _)

theorem reply_writable {calls : List Call} (looks : ∀ call ∈ calls, call.Looks) (p : Progress)
    {call : Call} (last : call.Looks) :
    Responder.reply (c.writable.respond now) p calls call =
      Responder.reply (c.respond now) p calls call := by
  rw [Responder.reply, c.after_writable now looks, c.respond_writable now last]
  rfl

/-- Where writes work, a request is answered the same until it comes to its write, and then its log
is written. -/
theorem faced_writable (policy : QuotePolicy) (inquiry : Inquiry) (p : Progress) :
    policy.faced inquiry (c.writable.respond now) p =
      { policy.faced inquiry (c.respond now) p with write := fun _ => .ok () } := by
  have own : (Gate.readLog inquiry.id).Looks := trivial
  have log : Responder.reply (c.writable.respond now) p [] (Gate.readLog inquiry.id) =
      Responder.reply (c.respond now) p [] (Gate.readLog inquiry.id) :=
    c.reply_writable now (List.forall_mem_nil _) p trivial
  have gate : ∀ answer, ∀ call ∈ QuotePolicy.gateCalls inquiry.id answer, call.Looks := by
    rintro (failure | _ | text)
    · exact List.forall_mem_singleton.mpr own
    · exact List.forall_mem_cons.mpr ⟨own, List.forall_mem_singleton.mpr trivial⟩
    · exact List.forall_mem_singleton.mpr own
  have rates : ∀ pairs : List CurrencyPair, ∀ call ∈ pairs.map Lookup.readRate, call.Looks :=
    fun pairs => List.forall_mem_map.mpr fun pair _ => trivial
  have record : Responder.reply (c.writable.respond now) p [Gate.readLog inquiry.id]
      (.findKey inquiry.id) =
      Responder.reply (c.respond now) p [Gate.readLog inquiry.id] (.findKey inquiry.id) :=
    c.reply_writable now (List.forall_mem_singleton.mpr own) p trivial
  unfold QuotePolicy.faced
  simp only [log, record]
  congr 1
  funext i pair
  exact c.reply_writable now (List.forall_mem_append.mpr ⟨gate _, rates _⟩) p trivial

end Circumstances

namespace Setup

variable (setup : Setup) (scene : Scene) (inquiry : Inquiry) (c : Circumstances)

/-- The gateway with another way to treat requests that cannot be recorded. -/
def recordingAs (recording : UsageRecording) : Setup :=
  ⟨⟨setup.policy.limit, recording⟩, setup.plan⟩

def turns : Turns := setup.policy.faced inquiry (c.respond scene.now) ⟨0, scene.map⟩

theorem exchanges_eq : setup.exchanges scene inquiry c =
    Stage.exchanges (setup.policy.stages inquiry (setup.turns scene inquiry c)) :=
  (setup.policy.result_and_exchanges inquiry (c.respond scene.now) ⟨0, scene.map⟩).1

theorem inquire_result : (setup.inquire scene inquiry c).1 =
    Stage.outcome (setup.policy.stages inquiry (setup.turns scene inquiry c))
      ⟨(setup.turns scene inquiry c).results inquiry.pairs⟩ :=
  (setup.policy.result_and_exchanges inquiry (c.respond scene.now) ⟨0, scene.map⟩).2

/-- The calls of a request do not depend on what happens if it cannot be recorded. -/
theorem exchanges_recordingAs (recording : UsageRecording) :
    (setup.recordingAs recording).exchanges scene inquiry c = setup.exchanges scene inquiry c := by
  rw [exchanges_eq, exchanges_eq, QuotePolicy.exchanges_stages, QuotePolicy.exchanges_stages]
  rfl

theorem step_recordingAs (recording : UsageRecording) (act : Act) :
    (setup.recordingAs recording).step scene act = setup.step scene act := by
  cases act with
  | inquire inquiry c =>
    simp only [step, inquire_map_eq_foldl, exchanges_recordingAs]
  | refresh c => rfl
  | pass duration => rfl

theorem after_recordingAs (recording : UsageRecording) (acts : List Act) :
    (setup.recordingAs recording).after scene acts = setup.after scene acts := by
  induction acts generalizing scene with
  | nil => rfl
  | cons act acts ih => rw [after_cons, after_cons, step_recordingAs, ih]

def WriteFails (failure : Failure) : Prop :=
  ∃ key value lifetime,
    (⟨.cache (.write key value lifetime), .error failure⟩ : Exchange gatewaySignature) ∈
      setup.exchanges scene inquiry c

/-- The write that fails is that of the log, at the end of an admitted and resolved request. -/
theorem writeFails_iff {failure : Failure} :
    setup.WriteFails scene inquiry c failure ↔
      Stage.verdict (setup.policy.earlierStages inquiry (setup.turns scene inquiry c)) = none ∧
        (setup.turns scene inquiry c).write ((setup.turns scene inquiry c).state inquiry.id) =
          .error failure := by
  rw [WriteFails, exchanges_eq, QuotePolicy.exchanges_stages]
  constructor
  · rintro ⟨key, value, lifetime, member⟩
    rcases List.mem_append.mp member with early | last
    · exact absurd (QuotePolicy.looks_earlierStages _ _ _ _ early) id
    · cases verdict : Stage.verdict
          (setup.policy.earlierStages inquiry (setup.turns scene inquiry c)) with
      | some failure =>
        rw [verdict] at last
        cases last
      | none =>
        rw [verdict] at last
        obtain ⟨call, answer⟩ := Exchange.mk.inj (List.mem_singleton.mp last)
        obtain ⟨rfl, rfl, rfl⟩ := Cache.Call.write.inj (Call.cache.inj call)
        exact ⟨rfl, (eq_of_heq answer).symm⟩
  · rintro ⟨verdict, answer⟩
    rw [verdict]
    have last : setup.policy.chargeExchange inquiry (setup.turns scene inquiry c) =
        ⟨setup.policy.charge inquiry ((setup.turns scene inquiry c).state inquiry.id),
          .error failure⟩ :=
      congrArg _ answer
    exact ⟨_, _, _, List.mem_append_right _ (List.mem_singleton.mpr last.symm)⟩

variable {setup scene inquiry c} {failure : Failure}

theorem inquire_of_earlier (fails : Stage.verdict
      (setup.policy.earlierStages inquiry (setup.turns scene inquiry c)) = some failure)
    (recording : UsageRecording) :
    ((setup.recordingAs recording).inquire scene inquiry c).1 = .error failure := by
  rw [inquire_result]
  exact QuotePolicy.outcome_of_earlier _ fails

theorem inquire_of_written {answer : Except Failure Unit} (passes : Stage.verdict
      (setup.policy.earlierStages inquiry (setup.turns scene inquiry c)) = none)
    (written : (setup.turns scene inquiry c).write
      ((setup.turns scene inquiry c).state inquiry.id) = answer) (recording : UsageRecording) :
    ((setup.recordingAs recording).inquire scene inquiry c).1 =
      (setup.recordingAs recording).policy.concluded
        ((setup.turns scene inquiry c).results inquiry.pairs) answer := by
  rw [inquire_result, ← written]
  exact QuotePolicy.outcome_of_written passes

theorem inquire_recordingAs_of_writes
    (writes : ¬∃ failure, setup.WriteFails scene inquiry c failure)
    (recording other : UsageRecording) :
    ((setup.recordingAs recording).inquire scene inquiry c).1 =
      ((setup.recordingAs other).inquire scene inquiry c).1 := by
  cases verdict : Stage.verdict
      (setup.policy.earlierStages inquiry (setup.turns scene inquiry c)) with
  | some failure => rw [inquire_of_earlier verdict, inquire_of_earlier verdict]
  | none =>
    cases answer : (setup.turns scene inquiry c).write
        ((setup.turns scene inquiry c).state inquiry.id) with
    | error failure =>
      exact absurd ⟨failure, (setup.writeFails_iff scene inquiry c).mpr ⟨verdict, answer⟩⟩ writes
    | ok done =>
      rw [inquire_of_written verdict answer, inquire_of_written verdict answer]
      rfl

theorem inquire_map_of_writeFails (fails : setup.WriteFails scene inquiry c failure) :
    (setup.inquire scene inquiry c).2.map = scene.map := by
  obtain ⟨passes, answer⟩ := (setup.writeFails_iff scene inquiry c).mp fails
  rw [inquire_map_eq_foldl, exchanges_eq, QuotePolicy.exchanges_stages, passes]
  apply Exchange.foldl_effect_of_idle
  intro exchange member
  rcases List.mem_append.mp member with early | last
  · exact .inl (QuotePolicy.looks_earlierStages _ _ _ exchange early)
  · obtain rfl := List.mem_singleton.mp last
    exact .inr ⟨failure, answer⟩

/-- A request whose write fails: a strict gateway fails as the write does, a lenient one answers as
either would if writes worked, and the cache is left as it was. -/
structure Forgiven (setup : Setup) (scene : Scene) (inquiry : Inquiry) (c : Circumstances)
    (failure : Failure) (response : QuoteResponse) : Prop where
  strict : ((setup.recordingAs .strict).inquire scene inquiry c).1 = .error failure
  lenient : ((setup.recordingAs .bestEffort).inquire scene inquiry c).1 = .ok response
  writable : ∀ recording,
    ((setup.recordingAs recording).inquire scene inquiry c.writable).1 = .ok response
  map : ∀ recording, ((setup.recordingAs recording).inquire scene inquiry c).2.map = scene.map

theorem forgiven_of_writeFails (fails : setup.WriteFails scene inquiry c failure) :
    setup.Forgiven scene inquiry c failure
      ⟨(setup.turns scene inquiry c).results inquiry.pairs⟩ := by
  obtain ⟨passes, answer⟩ := (setup.writeFails_iff scene inquiry c).mp fails
  constructor
  · exact inquire_of_written passes answer .strict
  · exact inquire_of_written passes answer .bestEffort
  · intro recording
    -- The stages before the write are answered as they were.
    have turns : setup.turns scene inquiry c.writable =
        { setup.turns scene inquiry c with write := fun _ => .ok () } :=
      c.faced_writable scene.now _ inquiry _
    have comes : Stage.verdict
        (setup.policy.earlierStages inquiry (setup.turns scene inquiry c.writable)) = none := by
      rw [turns]
      exact passes
    rw [inquire_of_written comes (by rw [turns]) recording, turns]
    rfl
  · intro recording
    have fails : (setup.recordingAs recording).WriteFails scene inquiry c failure := by
      rw [WriteFails, exchanges_recordingAs]
      exact fails
    exact inquire_map_of_writeFails fails

end Setup

/-- What is seen of an act from outside: what it results in and what it exchanges. -/
inductive Account where
  | answered (result : Except Failure QuoteResponse)
      (exchanges : List (Exchange gatewaySignature))
  | refreshed (result : Except Failure Nat) (exchanges : List (Exchange gatewaySignature))
  | passed

namespace Setup

/-- What is seen of an act on a scene. -/
def account (setup : Setup) (scene : Scene) : Act → Account
  | .inquire inquiry c =>
    .answered (setup.inquire scene inquiry c).1 (setup.exchanges scene inquiry c)
  | .refresh c =>
    .refreshed (setup.refresh scene c).1
      (c.exchanges scene.now setup.plan.refresh.run ⟨0, scene.map⟩)
  | .pass _ => .passed

def Unrecorded (setup : Setup) (scene : Scene) : Act → Prop
  | .inquire inquiry c => ∃ failure, setup.WriteFails scene inquiry c failure
  | _ => False

variable (setup : Setup) (start : Scene) (acts : List Act)

/-- A strict and a lenient gateway after the same acts: both have come to the same scene. There the
next act looks the same from outside, unless it is a request whose write fails. Of such a request
the calls are the same. -/
structure SideBySide : Prop where
  scene : (setup.recordingAs .strict).after start acts =
    (setup.recordingAs .bestEffort).after start acts
  account : ∀ act,
    ¬(setup.recordingAs .strict).Unrecorded ((setup.recordingAs .strict).after start acts) act →
      (setup.recordingAs .strict).account ((setup.recordingAs .strict).after start acts) act =
        (setup.recordingAs .bestEffort).account
          ((setup.recordingAs .bestEffort).after start acts) act
  calls : ∀ inquiry c,
    (setup.recordingAs .strict).exchanges ((setup.recordingAs .strict).after start acts) inquiry c =
      (setup.recordingAs .bestEffort).exchanges
        ((setup.recordingAs .bestEffort).after start acts) inquiry c
  forgiven : ∀ inquiry c failure,
    (setup.recordingAs .strict).WriteFails ((setup.recordingAs .strict).after start acts) inquiry c
        failure →
      ∃ response, setup.Forgiven ((setup.recordingAs .strict).after start acts) inquiry c failure
        response

/-- A strict and a lenient gateway differ in nothing but their answers to requests that could not
be recorded, however long they run and whatever fails. -/
theorem strict_beside_lenient : setup.SideBySide start acts := by
  have scene (recording : UsageRecording) :
      (setup.recordingAs recording).after start acts = setup.after start acts :=
    setup.after_recordingAs start recording acts
  refine ⟨(scene _).trans (scene _).symm, ?_, ?_, ?_⟩ <;> rw [scene]
  · intro act recorded
    rw [scene]
    cases act with
    | inquire inquiry c =>
      have writes : ¬∃ failure, setup.WriteFails (setup.after start acts) inquiry c failure := by
        simpa only [Unrecorded, WriteFails, exchanges_recordingAs] using recorded
      simp only [account, exchanges_recordingAs,
        inquire_recordingAs_of_writes writes .strict .bestEffort]
    | refresh c => rfl
    | pass duration => rfl
  · intro inquiry c
    rw [scene, exchanges_recordingAs, exchanges_recordingAs]
  · intro inquiry c failure fails
    rw [WriteFails, exchanges_recordingAs] at fails
    exact ⟨_, forgiven_of_writeFails fails⟩

end Setup

namespace Small

def unwritable : Circumstances :=
  { world with fault := fun _ call =>
      match call with
      | .write .. => some "full"
      | _ => none }

example :
    (setup.inquire published (inquiry firstSecond) unwritable).1.isOk = false ∧
      ((setup.recordingAs .bestEffort).inquire published (inquiry firstSecond) unwritable).1.isOk =
        true := by
  decide +kernel

end Small

end QuoteGateway
