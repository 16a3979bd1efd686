import QuoteGateway.Proofs.Conduct
import QuoteGateway.Proofs.Counters
import QuoteGateway.Proofs.Json.ExactReals
import QuoteGateway.Proofs.RateText

/-!
# One cycle of the updater

What a refresh does to the cache, to the counters and to its own result, for any rates of the
source and any pattern of writes that fail. The rates before the first failing write are published,
in their order, and nothing else happens.
-/

namespace QuoteGateway

open Cache (TimedMap)

namespace UpdaterPlan

variable (plan : UpdaterPlan) (now : Nat)

/-- The entry that a list of rates leaves under a key: that of its last rate with this key. -/
def entry? (rates : List FeedRate) (key : String) : Option Cache.Entry :=
  (rates.filter fun rate => CacheKey.ofRate rate.base rate.target = key).getLast?.map fun rate =>
    ⟨rate.cached.document.compact, now + plan.rateLifetime.nanos⟩

theorem get?_foldl_put (rates : List FeedRate) (map : TimedMap) (key : String) :
    (rates.foldl (plan.put now) map).entries.get? key =
      (plan.entry? now rates key).or (map.entries.get? key) := by
  induction rates generalizing map with
  | nil => rfl
  | cons rate rates ih =>
    rw [List.foldl_cons, ih, entry?, entry?]
    by_cases same : CacheKey.ofRate rate.base rate.target = key
    · subst same
      rw [List.filter_cons_of_pos (by simp), List.getLast?_cons, put, TimedMap.put,
        Table.get?_put_self]
      cases (rates.filter _).getLast? <;> rfl
    · rw [List.filter_cons_of_neg (by simpa using same), put, TimedMap.put,
        Table.get?_put_of_ne _ _ (Ne.symm same)]

variable {plan now} {rates : List FeedRate} {key : String} {entry : Cache.Entry}

/-- The entry under a key is made of the last rate with this key. -/
theorem exists_last_of_entry? (held : plan.entry? now rates key = some entry) :
    ∃ before rate after, rates = before ++ rate :: after ∧
      CacheKey.ofRate rate.base rate.target = key ∧
      (∀ later ∈ after, CacheKey.ofRate later.base later.target ≠ key) ∧
      entry = ⟨rate.cached.document.compact, now + plan.rateLifetime.nanos⟩ := by
  obtain ⟨rate, last, rfl⟩ := Option.map_eq_some_iff.mp held
  obtain ⟨_, split⟩ := List.getLast?_eq_some_iff.mp last
  obtain ⟨before, others, rfl, -, rest⟩ := List.filter_eq_append_iff.mp split
  obtain ⟨between, after, rfl, -, own, none⟩ := List.filter_eq_cons_iff.mp rest
  refine ⟨before ++ between, rate, after, (List.append_assoc ..).symm, by simpa using own, ?_, rfl⟩
  exact fun later member => by simpa using List.filter_eq_nil_iff.mp none later member

/-- What is published for a finite rate is read as its own timestamp and as the number that the text
of the rate is read as. If the text shows the rate exactly, its own rate is read. -/
theorem readText_publication (rate : FeedRate) (finite : rate.rate.isFinite = true) :
    Json.readText CachedRate.reader rate.cached.document.compact =
        .ok ⟨Json.reread rate.rate, rate.timestamp⟩ ∧
      (Json.ShownExactly rate.rate →
        Json.readText CachedRate.reader rate.cached.document.compact =
          .ok ⟨rate.rate, rate.timestamp⟩) := by
  have read := (rate.cached.readText_compact finite).2
  refine ⟨read, fun exactly => ?_⟩
  have same : Json.reread rate.rate = rate.rate := Json.reread_of_shownExactly finite exactly
  rw [← same]
  exact read

end UpdaterPlan

def Monitor.calls {σ : Type} (monitor : Monitor σ) : List Call := monitor.exchanges.map (·.call)

theorem Monitor.calls_asked {σ : Type} (monitor : Monitor σ) (surroundings : σ) (call : Call)
    (answer : Except Failure call.Result) :
    Monitor.calls ⟨surroundings, monitor.counters, monitor.exchanges ++ [⟨call, answer⟩]⟩ =
      monitor.calls ++ [call] := List.map_append

namespace Circumstances

variable (c : Circumstances) (now : Nat) (plan : UpdaterPlan)

def writeFault (calls : Nat) (rate : FeedRate) : Option String :=
  c.fault calls (.write (CacheKey.ofRate rate.base rate.target) rate.cached.document.compact
    plan.rateLifetime)

/-- A rate is put into the map, or its write fails and touches nothing. -/
theorem monitored_writeEntry (rate : FeedRate) (monitor : Monitor Progress) :
    Monitor.conduct (c.respond now) (Job.writeEntry (CacheKey.ofRate rate.base rate.target)
        rate.cached.document plan.rateLifetime) monitor =
      match c.writeFault plan monitor.surroundings.calls rate with
      | some words => (.error (.reported .cache words),
          ⟨⟨monitor.surroundings.calls + 1, monitor.surroundings.map⟩, monitor.counters,
            monitor.exchanges ++ [⟨plan.publication rate, .error (.reported .cache words)⟩]⟩)
      | none => (.ok (),
          ⟨⟨monitor.surroundings.calls + 1, plan.put now monitor.surroundings.map rate⟩,
            monitor.counters, monitor.exchanges ++ [⟨plan.publication rate, .ok ()⟩]⟩) := by
  let write : gatewaySignature.Call := plan.publication rate
  have asked : Monitor.conduct (c.respond now) (Job.writeEntry
      (CacheKey.ofRate rate.base rate.target) rate.cached.document plan.rateLifetime) monitor =
      ((c.respond now write monitor.surroundings).1,
        ⟨(c.respond now write monitor.surroundings).2, monitor.counters,
          monitor.exchanges ++ [⟨write, (c.respond now write monitor.surroundings).1⟩]⟩) := rfl
  have reply : c.respond now write monitor.surroundings = _ :=
    c.respond_write now (CacheKey.ofRate rate.base rate.target) rate.cached.document.compact
      plan.rateLifetime monitor.surroundings
  rw [asked, reply, writeFault]
  cases c.fault monitor.surroundings.calls (.write (CacheKey.ofRate rate.base rate.target)
    rate.cached.document.compact plan.rateLifetime) <;> rfl

/-- Of a list of rates, written after `count` others, the first `n` are published: the whole list,
or as many as come before the first write that fails. -/
structure Publishes (count : Nat) (rates : List FeedRate) (n : Nat) (monitor : Monitor Progress)
    (out : Except Failure Nat × Monitor Progress) : Prop where
  le : n ≤ rates.length
  written : ∀ i rate, i < n → rates[i]? = some rate →
    c.writeFault plan (monitor.surroundings.calls + i) rate = none
  result : n = rates.length ∧ out.1 = .ok (count + n) ∨
    ∃ rate words, rates[n]? = some rate ∧
      c.writeFault plan (monitor.surroundings.calls + n) rate = some words ∧
      out.1 = .error (.reported .cache words)
  map : out.2.surroundings.map = (rates.take n).foldl (plan.put now) monitor.surroundings.map
  calls : out.2.calls = monitor.calls ++ (rates.take (n + 1)).map plan.publication
  counters : out.2.counters = countEvent monitor.counters (.ratesPublished (count + n))

theorem publishes_publish (count : Nat) (rates : List FeedRate) (monitor : Monitor Progress) :
    ∃ n, c.Publishes now plan count rates n monitor
      (Monitor.conduct (c.respond now) (plan.publish count rates) monitor) := by
  induction rates generalizing count monitor with
  | nil =>
    exact ⟨0, le_rfl, nofun, .inl ⟨rfl, rfl⟩, rfl, by simp; rfl, rfl⟩
  | cons rate rates ih =>
    rw [Monitor.conduct_publish_cons, monitored_writeEntry]
    cases fault : c.writeFault plan monitor.surroundings.calls rate with
    | some words =>
      refine ⟨0, Nat.zero_le _, nofun, .inr ⟨rate, words, rfl, fault, rfl⟩, rfl, ?_, rfl⟩
      exact monitor.calls_asked ⟨monitor.surroundings.calls + 1, monitor.surroundings.map⟩
        (plan.publication rate) (.error (.reported .cache words))
    | none =>
      let later : Monitor Progress :=
        ⟨⟨monitor.surroundings.calls + 1, plan.put now monitor.surroundings.map rate⟩,
          monitor.counters, monitor.exchanges ++ [⟨plan.publication rate, .ok ()⟩]⟩
      have asked : later.calls = monitor.calls ++ [plan.publication rate] :=
        monitor.calls_asked _ (plan.publication rate) (.ok ())
      -- The next write is one call further on.
      have further (i : Nat) : later.surroundings.calls + i =
          monitor.surroundings.calls + (i + 1) := Nat.add_right_comm _ 1 i
      obtain ⟨n, rest⟩ := ih (count + 1) later
      have total : count + 1 + n = count + (n + 1) := Nat.add_right_comm count 1 n
      refine ⟨n + 1, Nat.succ_le_succ rest.le, ?_, ?_, rest.map, ?_, ?_⟩
      · rintro (_ | i) other lt there
        · obtain rfl := Option.some.inj there
          exact fault
        · have := rest.written i other (Nat.lt_of_succ_lt_succ lt) there
          rwa [further] at this
      · have result := rest.result
        rw [further, total] at result
        rcases result with ⟨all, ok⟩ | failing
        · exact .inl ⟨congrArg (· + 1) all, ok⟩
        · exact .inr failing
      · have calls := rest.calls
        rw [asked] at calls
        simpa using calls
      · have counters := rest.counters
        rwa [total] at counters

/-- A refresh that has rates to publish: the first `n` of them are written in their order, where
`n` is the number of writes before the first that fails. -/
structure Refreshes (rates : List FeedRate) (n : Nat) (monitor : Monitor Progress)
    (out : Except Failure Nat × Monitor Progress) : Prop where
  le : n ≤ rates.length
  written : ∀ i rate, i < n → rates[i]? = some rate →
    c.writeFault plan (monitor.surroundings.calls + 1 + i) rate = none
  /-- None fails and all are published, or the next one fails and the refresh fails with it. -/
  result : n = rates.length ∧ out.1 = .ok n ∨
    ∃ rate words, rates[n]? = some rate ∧
      c.writeFault plan (monitor.surroundings.calls + 1 + n) rate = some words ∧
      out.1 = .error (.reported .cache words)
  map : out.2.surroundings.map = (rates.take n).foldl (plan.put now) monitor.surroundings.map
  /-- Under each key lies the last of the written rates with this key, or what was there. -/
  entries : ∀ key, out.2.surroundings.map.entries.get? key =
    (plan.entry? now (rates.take n) key).or (monitor.surroundings.map.entries.get? key)
  /-- Nothing is tried after a write that fails. -/
  calls : out.2.calls = monitor.calls ++
    .fetchRates plan.bases :: (rates.take (n + 1)).map plan.publication
  published : counted out.2.counters publishedCounter =
    counted monitor.counters publishedCounter + n
  counters : ∀ name, name ≠ publishedCounter →
    counted out.2.counters name = counted monitor.counters name

/-- A refresh without rates from the source: it fails as the source does and changes nothing. -/
structure Unfetched (failure : Failure) (monitor : Monitor Progress)
    (out : Except Failure Nat × Monitor Progress) : Prop where
  result : out.1 = .error failure
  map : out.2.surroundings.map = monitor.surroundings.map
  calls : out.2.calls = monitor.calls ++ [.fetchRates plan.bases]
  counters : out.2.counters = monitor.counters

/-- All that a refresh does, whatever the cache holds, whatever the source answers and whichever
writes fail. -/
theorem refresh_exact (monitor : Monitor Progress) :
    let out := Monitor.conduct (c.respond now) plan.refresh monitor
    match c.rates plan.bases with
    | .error failure => Unfetched plan failure monitor out
    | .ok rates => ∃ n, c.Refreshes now plan rates n monitor out := by
  let fetched (answer : Except Failure (List FeedRate)) : Monitor Progress :=
    ⟨⟨monitor.surroundings.calls + 1, monitor.surroundings.map⟩, monitor.counters,
      monitor.exchanges ++ [⟨.fetchRates plan.bases, answer⟩]⟩
  have fetch : Monitor.conduct (c.respond now) (Job.call (.fetchRates plan.bases)) monitor =
      (c.rates plan.bases, fetched (c.rates plan.bases)) := rfl
  have asked (answer : Except Failure (List FeedRate)) :
      (fetched answer).calls = monitor.calls ++ [.fetchRates plan.bases] :=
    monitor.calls_asked (fetched answer).surroundings (.fetchRates plan.bases) answer
  rw [Monitor.conduct_refresh, fetch]
  cases c.rates plan.bases with
  | error failure => exact ⟨rfl, rfl, asked _, rfl⟩
  | ok rates =>
    obtain ⟨n, publishes⟩ := c.publishes_publish now plan 0 rates (fetched (.ok rates))
    refine ⟨n, publishes.le, publishes.written, ?_, publishes.map, ?_, ?_, ?_, ?_⟩
    · have result := publishes.result
      rwa [Nat.zero_add] at result
    · intro key
      rw [publishes.map]
      exact plan.get?_foldl_put now _ _ key
    · rw [publishes.calls, asked]
      exact List.append_cons _ _ _ |>.symm
    · rw [publishes.counters, counted_countEvent]
      simp [Event.advanceOn, Event.advance?, fetched]
    · intro name differs
      rw [publishes.counters, counted_countEvent]
      simp [Event.advanceOn, Event.advance?, fetched, differs.symm]

end Circumstances

namespace Small

/-- The second rate has the key of the first, and the third cannot be written. -/
def hitch : Circumstances :=
  { world with
    fault := fun calls _ => if calls = 3 then some "full" else none
    rates := fun _ => .ok [⟨"USD", "JPY", .ofNat 150, 0⟩, ⟨"usd", "jpy", .ofNat 151, 1⟩,
      ⟨"EUR", "USD", .ofNat 2, 0⟩, ⟨"EUR", "JPY", .ofNat 160, 0⟩] }

example :
    let out := Monitor.conduct (hitch.respond 7) setup.plan.refresh ⟨⟨0, .empty⟩, .empty, []⟩
    out.2.calls.length = 4 ∧ out.2.counters.rows = [(publishedCounter, 2)] ∧
      out.2.surroundings.map.entries.rows = [("rate_usd_jpy",
        ⟨"\x7b\"rate\":151.0,\"timestamp\":1\x7d", 600000000007⟩)] := by
  decide +kernel

end Small

end QuoteGateway
