import QuoteGateway.Proofs.Charge
import QuoteGateway.Proofs.Counters
import QuoteGateway.Proofs.Traversal
import QuoteGateway.Quote.Request

/-!
# Requests dropped at their deadline

A dialogue that is dropped has exchanged a beginning of what it would have exchanged. All that a
request does to the cache it does in its last exchange, so wherever it is dropped, the cache is as
it was or as a request leaves it that is served.
-/

namespace QuoteGateway

open Dialogue (Cut)

/-- How many exchanges a dialogue comes to that is dropped there. -/
def Dialogue.Cut.exchanged (cut : Cut) : Nat := cut.answers + if cut.takesEffect then 1 else 0

namespace Circumstances

variable (c : Circumstances) (now : Nat) {α : Type}

/-- Carries a dialogue out until it is dropped. -/
def carryUntil (cut : Cut) (d : Dialogue gatewaySignature α) : StateM Progress (Option α) :=
  d.runUntil (c.respond now) (fun _ => pure ()) cut

/-- Where a dialogue would ask on, it has no result, and its last exchanges are missing. -/
theorem carryUntil_of_lt (d : Dialogue gatewaySignature α) (cut : Cut) (p : Progress)
    (early : cut.answers < (c.exchanges now d p).length) :
    (c.carryUntil now cut d p).1 = none ∧
      (c.carryUntil now cut d p).2.map =
        ((c.exchanges now d p).take cut.exchanged).foldl (Exchange.effect now) p.map := by
  induction d generalizing cut p with
  | done a => cases early
  | ask call next ih =>
    rcases cut with ⟨_ | answers, takesEffect⟩
    · cases takesEffect with
      | false => exact ⟨rfl, rfl⟩
      | true => exact ⟨rfl, c.respond_map now call p⟩
    · obtain ⟨result, map⟩ := ih _ ⟨answers, takesEffect⟩ _ (Nat.lt_of_succ_lt_succ early)
      refine ⟨result, ?_⟩
      have exchanged : (⟨answers + 1, takesEffect⟩ : Cut).exchanged =
          (⟨answers, takesEffect⟩ : Cut).exchanged + 1 := by
        simp only [Cut.exchanged]
        omega
      rw [exchanged]
      rw [respond_map] at map
      exact map
  | tell event next ih => exact ih cut p early

theorem carryUntil_of_le (d : Dialogue gatewaySignature α) (cut : Cut) (p : Progress)
    (late : (c.exchanges now d p).length ≤ cut.answers) :
    c.carryUntil now cut d p = (some (c.carryOut now d p).1, (c.carryOut now d p).2) := by
  induction d generalizing cut p with
  | done a => rfl
  | ask call next ih =>
    rcases cut with ⟨_ | answers, takesEffect⟩
    · cases late
    · exact ih _ ⟨answers, takesEffect⟩ _ (Nat.le_of_succ_le_succ late)
  | tell event next ih => exact ih cut p late

end Circumstances

namespace Setup

variable (setup : Setup) (scene : Scene) (c : Circumstances) (deadline : Duration)

def execute (cut : Option Cut) (apiKey pairs : String) (now : Calendar.Instant) :
    Except Failure QuoteResponse × Progress :=
  Request.execute (m := StateM Progress) (c.respond scene.now) (fun _ => pure ()) setup.policy
    deadline cut apiKey pairs now ⟨0, scene.map⟩

variable (inquiry : Inquiry)

theorem exchanges_serve :
    c.exchanges scene.now (setup.policy.serve inquiry.id inquiry.pairs inquiry.now) ⟨0, scene.map⟩ =
      setup.exchanges scene inquiry c := by
  rw [QuotePolicy.serve_eq]
  exact (Dialogue.journal_bind _ _ _ _ _).trans (List.append_nil _)

/-- A beginning of the exchanges of a request leaves the cache as it was, unless it is all of them
and the request is served. -/
theorem foldl_effect_take (n : Nat) :
    ((setup.exchanges scene inquiry c).take n).foldl (Exchange.effect scene.now) scene.map =
      scene.map ∨
    (setup.exchanges scene inquiry c).length ≤ n ∧ ∃ state response gate hits,
      setup.Charges scene inquiry c state response (.ok ()) gate hits ∧
        ((setup.exchanges scene inquiry c).take n).foldl (Exchange.effect scene.now) scene.map =
          setup.logged scene (setup.log inquiry state) := by
  rcases QuotePolicy.course_answer (setup.course_exchanges scene inquiry c) with
    ⟨failure, result, idle⟩ | ⟨state, response, answer, gate, hits, result, served⟩
  · exact .inl (Exchange.foldl_effect_of_idle
      (fun exchange member => idle exchange (List.mem_of_mem_take member)) _ _)
  have charges := charges_of_servedBy result served
  by_cases whole : (setup.exchanges scene inquiry c).length ≤ n
  · have map := charges.map
    rw [inquire_map_eq_foldl] at map
    rw [List.take_of_length_le whole, map]
    cases answer with
    | error failure => exact .inl rfl
    | ok done => exact .inr ⟨whole, state, response, gate, hits, charges, rfl⟩
  · -- Short of the write there are lookups only.
    have order := served.order
    rw [order, List.length_append, List.length_singleton] at whole
    rw [order, List.take_append_of_le_length (by omega)]
    exact .inl (Exchange.foldl_effect_of_idle
      (fun exchange member => .inl (served.looks exchange (List.mem_of_mem_take member))) _ _)

/-- A request that was dropped: it fails, and the cache is as it was, or as it is once the request
is served. Then its write was the call at which it was dropped. -/
structure Dropped (cut : Cut) (out : Except Failure QuoteResponse × Progress) : Prop where
  result : out.1 = .error (.deadlinePassed deadline)
  category : (Failure.deadlinePassed deadline).category = .internal
  map : out.2.map = scene.map ∨
    ∃ state response gate hits, setup.Charges scene inquiry c state response (.ok ()) gate hits ∧
      cut.takesEffect = true ∧ cut.answers + 1 = (setup.exchanges scene inquiry c).length ∧
      out.2.map = setup.logged scene (setup.log inquiry state)

end Setup

namespace CurrencyPair

theorem category_of_parse {text : String} {failure : Failure} (h : parse text = .error failure) :
    failure.category = .validation := by
  rw [eq_invalidPair_of_parse h]
  rfl

theorem category_of_parseList {text : String} {failure : Failure}
    (h : parseList text = .error failure) : failure.category = .validation := by
  unfold parseList at h
  cases items : (listItems text).mapM parse with
  | error cause =>
    rw [items] at h
    obtain rfl : cause = failure := Except.error.inj h
    obtain ⟨-, item, -, -, -, fails⟩ := mapM_eq_error_iff.mp items
    exact category_of_parse fails
  | ok pairs =>
    rw [items] at h
    change (if pairs.isEmpty then Except.error Failure.noPairs else .ok pairs) = _ at h
    split at h
    · rw [← Except.error.inj h]
      rfl
    · cases h

end CurrencyPair

namespace Setup

variable {setup : Setup} {scene : Scene} {c : Circumstances} {deadline : Duration} {text : String}

theorem execute_of_parseList_error {failure : Failure}
    (unread : CurrencyPair.parseList text = .error failure) (cut : Option Cut) (apiKey : String)
    (now : Calendar.Instant) :
    setup.execute scene c deadline cut apiKey text now = (.error failure, ⟨0, scene.map⟩) := by
  simp only [execute, Request.execute, Request.work, unread]
  rfl

variable {inquiry : Inquiry}

theorem execute_of_parseList_ok (read : CurrencyPair.parseList text = .ok inquiry.pairs)
    (cut : Cut) :
    setup.execute scene c deadline (some cut) inquiry.id text inquiry.now =
      let dialogue := setup.policy.serve inquiry.id inquiry.pairs inquiry.now
      (Request.conclusion deadline (c.carryUntil scene.now cut dialogue ⟨0, scene.map⟩).1,
        (c.carryUntil scene.now cut dialogue ⟨0, scene.map⟩).2) := by
  simp only [execute, Request.execute, Request.work, read]
  rfl

theorem dropped_of_lt (read : CurrencyPair.parseList text = .ok inquiry.pairs) {cut : Cut}
    (early : cut.answers < (setup.exchanges scene inquiry c).length) :
    setup.Dropped scene c deadline inquiry cut
      (setup.execute scene c deadline (some cut) inquiry.id text inquiry.now) := by
  have same := setup.exchanges_serve scene c inquiry
  obtain ⟨result, map⟩ := c.carryUntil_of_lt scene.now _ cut _ (same ▸ early)
  rw [same] at map
  rw [execute_of_parseList_ok read]
  refine ⟨congrArg (Request.conclusion deadline) result, rfl, ?_⟩
  apply (setup.foldl_effect_take scene c inquiry cut.exchanged).imp map.trans
  rintro ⟨whole, state, response, gate, hits, charges, logged⟩
  have last : cut.takesEffect = true ∧
      cut.answers + 1 = (setup.exchanges scene inquiry c).length := by
    unfold Cut.exchanged at whole
    split at whole
    · rename_i takesEffect
      exact ⟨takesEffect, by omega⟩
    · omega
  exact ⟨state, response, gate, hits, charges, last.1, last.2, map.trans logged⟩

theorem execute_of_le (read : CurrencyPair.parseList text = .ok inquiry.pairs) {cut : Cut}
    (late : (setup.exchanges scene inquiry c).length ≤ cut.answers) :
    setup.execute scene c deadline (some cut) inquiry.id text inquiry.now =
      setup.execute scene c deadline none inquiry.id text inquiry.now := by
  rw [← exchanges_serve] at late
  rw [execute_of_parseList_ok read]
  simp only [c.carryUntil_of_le scene.now _ cut _ late, execute, Request.execute, Request.work,
    read]
  rfl

/-- Wherever the deadline of a request passes, its key is charged by a whole usage or not at all,
and only for rates that have all been found. Pairs that cannot be read are refused before the first
call. -/
theorem never_half_charged (setup : Setup) (scene : Scene) (c : Circumstances)
    (deadline : Duration) (apiKey text : String) (now : Calendar.Instant) :
    match CurrencyPair.parseList text with
    | .error failure => failure.category = .validation ∧ ∀ cut,
        setup.execute scene c deadline cut apiKey text now = (.error failure, ⟨0, scene.map⟩)
    | .ok pairs => ∀ cut : Cut,
        if cut.answers < (setup.exchanges scene ⟨apiKey, pairs, now⟩ c).length then
          setup.Dropped scene c deadline ⟨apiKey, pairs, now⟩ cut
            (setup.execute scene c deadline (some cut) apiKey text now)
        else
          setup.execute scene c deadline (some cut) apiKey text now =
            setup.execute scene c deadline none apiKey text now := by
  cases read : CurrencyPair.parseList text with
  | error failure =>
    exact ⟨CurrencyPair.category_of_parseList read,
      fun cut => execute_of_parseList_error read cut apiKey now⟩
  | ok pairs =>
    intro cut
    have listed : CurrencyPair.parseList text = .ok (⟨apiKey, pairs, now⟩ : Inquiry).pairs := read
    split
    · rename_i early
      exact dropped_of_lt listed early
    · rename_i late
      exact execute_of_le listed (Nat.le_of_not_lt late)

end Setup

namespace Small

/-- A request that is dropped at its write, which still takes effect or does not. -/
example (takesEffect : Bool) :
    let out := setup.execute published world (.ofSeconds 5) (some ⟨3, takesEffect⟩) "key" "usd_jpy"
      firstSecond
    out.1.isOk = false ∧
      (out.2.map.entries.get? (CacheKey.ofApiKey "key")).isSome = takesEffect := by
  cases takesEffect <;> decide +kernel

end Small

end QuoteGateway
