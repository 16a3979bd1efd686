import Mathlib.Data.List.Perm.Basic
import QuoteGateway.Proofs.Conduct

/-!
# Retrieving the rates of a list

A list of pairs is resolved to one rate for each pair, in the order of the list, or else fails as
the first pair does that has no rate. What a pair is resolved to depends on the small letters of its
names only, so neither the other pairs of the list nor their order have a part in it.
-/

namespace QuoteGateway

open Cache (TimedMap)
open Number (Binary64)

/-- Pairs whose names differ in nothing but the case of their letters. -/
def CurrencyPair.Alike (pair other : CurrencyPair) : Prop :=
  Text.lowercase pair.base = Text.lowercase other.base ∧
    Text.lowercase pair.target = Text.lowercase other.target

def RateResult.quote (result : RateResult) : Binary64 × Int64 := (result.rate, result.timestamp)

/-- What rates are read from: the clock of the cache, what it holds, and the keys at which it cannot
be read, with the reason. -/
structure Shelf where
  now : Nat
  map : TimedMap
  fault : String → Option String

namespace Shelf

variable (shelf : Shelf)

/-- Surroundings in which reads fail by their key. There are no other calls to answer. -/
def circumstances : Circumstances where
  fault _ call :=
    match call with
    | .read key => shelf.fault key
    | _ => none
  record _ := .ok none
  rates _ := .ok []

def fetch (pairs : List CurrencyPair) : Except Failure (List RateResult) :=
  (shelf.circumstances.conduct shelf.now (Lookup.resolveAll pairs) ⟨0, shelf.map⟩).1

def rateOf (pair : CurrencyPair) : Except Failure RateResult :=
  let key := CacheKey.ofRate pair.base pair.target
  match shelf.fault key with
  | some words => .error (.rateNotRead pair (.reported .cache words))
  | none =>
    match shelf.map.live? shelf.now key with
    | none => .error (.noRate pair)
    | some entry =>
      match Json.readText CachedRate.reader entry.value with
      | .error cause => .error (.rateNotRead pair (.unreadableEntry key cause))
      | .ok cached => .ok ⟨pair, cached.rate, cached.timestamp⟩

/-- The rate of a pair can be read, and is this one. -/
def Holds (pair : CurrencyPair) (cached : CachedRate) : Prop :=
  shelf.fault (CacheKey.ofRate pair.base pair.target) = none ∧
    ∃ entry, shelf.map.live? shelf.now (CacheKey.ofRate pair.base pair.target) = some entry ∧
      Json.readText CachedRate.reader entry.value = .ok cached

/-- The result is for this very pair, with the rate that is held for it. -/
def Tells (pair : CurrencyPair) (result : RateResult) : Prop :=
  ∃ cached, shelf.Holds pair cached ∧ result = ⟨pair, cached.rate, cached.timestamp⟩

theorem resolved_eq (calls : Nat) (pair : CurrencyPair) :
    shelf.circumstances.resolved shelf.now calls pair shelf.map = shelf.rateOf pair := by
  unfold Circumstances.resolved rateOf found
  simp only [circumstances]
  cases shelf.fault (CacheKey.ofRate pair.base pair.target) with
  | some words => rfl
  | none =>
    cases shelf.map.live? shelf.now (CacheKey.ofRate pair.base pair.target) with
    | none => rfl
    | some entry =>
      simp only
      cases Json.readText CachedRate.reader entry.value <;> rfl

/-- How many calls there were before does not matter. -/
theorem allResolved_eq (calls : Nat) (pairs : List CurrencyPair) :
    shelf.circumstances.allResolved shelf.now shelf.map calls pairs = shelf.fetch pairs := by
  have counted (calls other : Nat) :
      shelf.circumstances.allResolved shelf.now shelf.map calls pairs =
        shelf.circumstances.allResolved shelf.now shelf.map other pairs := by
    induction pairs generalizing calls other with
    | nil => rfl
    | cons pair pairs ih =>
      simp only [Circumstances.allResolved, resolved_eq, ih (calls + 1) (other + 1)]
  obtain ⟨made, conducted⟩ :=
    shelf.circumstances.conduct_resolveAll shelf.now pairs ⟨0, shelf.map⟩
  rw [fetch, conducted]
  exact counted calls 0

theorem fetch_nil : shelf.fetch [] = .ok [] := rfl

theorem fetch_cons (pair : CurrencyPair) (pairs : List CurrencyPair) :
    shelf.fetch (pair :: pairs) =
      match shelf.rateOf pair with
      | .error failure => .error failure
      | .ok result => (shelf.fetch pairs).map (result :: ·) := by
  have steps := shelf.allResolved_eq 0 (pair :: pairs)
  rw [Circumstances.allResolved, resolved_eq, allResolved_eq] at steps
  exact steps.symm

variable {shelf} {pair : CurrencyPair} {pairs : List CurrencyPair} {result : RateResult}
  {results : List RateResult} {failure : Failure}

theorem rateOf_eq_ok_iff : shelf.rateOf pair = .ok result ↔ shelf.Tells pair result := by
  unfold rateOf Tells Holds
  simp only
  cases shelf.fault (CacheKey.ofRate pair.base pair.target) with
  | some words => simp
  | none =>
    cases shelf.map.live? shelf.now (CacheKey.ofRate pair.base pair.target) with
    | none => simp
    | some entry =>
      cases read : Json.readText CachedRate.reader entry.value <;> simp [read, eq_comm]

theorem fetch_cons_eq_ok_iff : shelf.fetch (pair :: pairs) = .ok results ↔
    ∃ first rest, shelf.rateOf pair = .ok first ∧ shelf.fetch pairs = .ok rest ∧
      results = first :: rest := by
  rw [fetch_cons]
  cases shelf.rateOf pair with
  | error failure => simp
  | ok first => cases shelf.fetch pairs <;> simp [Except.map, eq_comm]

theorem fetch_cons_eq_error_iff : shelf.fetch (pair :: pairs) = .error failure ↔
    shelf.rateOf pair = .error failure ∨
      ∃ first, shelf.rateOf pair = .ok first ∧ shelf.fetch pairs = .error failure := by
  rw [fetch_cons]
  cases shelf.rateOf pair with
  | error failure => simp
  | ok first => cases shelf.fetch pairs <;> simp [Except.map]

theorem fetch_eq_ok_iff :
    shelf.fetch pairs = .ok results ↔ List.Forall₂ shelf.Tells pairs results := by
  induction pairs generalizing results with
  | nil =>
    rw [fetch_nil, List.forall₂_nil_left_iff, Except.ok.injEq]
    exact eq_comm
  | cons pair pairs ih =>
    simp only [fetch_cons_eq_ok_iff, List.forall₂_cons_left_iff, rateOf_eq_ok_iff, ih,
      exists_and_left]

theorem fetch_eq_error_iff : shelf.fetch pairs = .error failure ↔
    ∃ before pair after, pairs = before ++ pair :: after ∧
      (∀ earlier ∈ before, ∃ cached, shelf.Holds earlier cached) ∧
      shelf.rateOf pair = .error failure := by
  induction pairs with
  | nil => simp [fetch_nil]
  | cons pair pairs ih =>
    rw [fetch_cons_eq_error_iff, ih]
    constructor
    · rintro (fails | ⟨first, resolved, before, later, after, rfl, earlier, fails⟩)
      · exact ⟨[], pair, pairs, rfl, List.forall_mem_nil _, fails⟩
      · obtain ⟨cached, held, -⟩ := rateOf_eq_ok_iff.mp resolved
        exact ⟨pair :: before, later, after, rfl,
          List.forall_mem_cons.mpr ⟨⟨cached, held⟩, earlier⟩, fails⟩
    · rintro ⟨_ | ⟨first, before⟩, later, after, split, earlier, fails⟩
      · obtain ⟨rfl, -⟩ := List.cons.inj split
        exact .inl fails
      · obtain ⟨rfl, rfl⟩ := List.cons.inj split
        obtain ⟨⟨cached, held⟩, others⟩ := List.forall_mem_cons.mp earlier
        exact .inr ⟨_, rateOf_eq_ok_iff.mpr ⟨cached, held, rfl⟩, before, later, after, rfl,
          others, fails⟩

theorem exists_fetch_eq_ok_iff : (∃ results, shelf.fetch pairs = .ok results) ↔
    ∀ pair ∈ pairs, ∃ cached, shelf.Holds pair cached := by
  induction pairs with
  | nil => simp [fetch_nil]
  | cons pair pairs ih =>
    rw [List.forall_mem_cons, ← ih]
    constructor
    · rintro ⟨results, fetched⟩
      obtain ⟨first, rest, resolved, others, -⟩ := fetch_cons_eq_ok_iff.mp fetched
      obtain ⟨cached, held, -⟩ := rateOf_eq_ok_iff.mp resolved
      exact ⟨⟨cached, held⟩, rest, others⟩
    · rintro ⟨⟨cached, held⟩, rest, others⟩
      exact ⟨_, fetch_cons_eq_ok_iff.mpr
        ⟨_, rest, rateOf_eq_ok_iff.mpr ⟨cached, held, rfl⟩, others, rfl⟩⟩

variable (shelf pairs)

theorem fetch_append (more : List CurrencyPair) :
    shelf.fetch (pairs ++ more) =
      match shelf.fetch pairs with
      | .error failure => .error failure
      | .ok results => (shelf.fetch more).map (results ++ ·) := by
  induction pairs with
  | nil => cases more_fetched : shelf.fetch more <;> simp [fetch_nil, more_fetched, Except.map]
  | cons pair pairs ih =>
    rw [List.cons_append, fetch_cons, fetch_cons, ih]
    cases shelf.rateOf pair with
    | error failure => rfl
    | ok first =>
      cases shelf.fetch pairs with
      | error failure => rfl
      | ok rest => cases shelf.fetch more <;> rfl

variable {shelf pairs}

/-- In another order, each pair is told the same. -/
theorem tells_of_perm {others : List CurrencyPair} (perm : pairs.Perm others)
    (told : List.Forall₂ shelf.Tells pairs results) :
    ∃ permuted, List.Forall₂ shelf.Tells others permuted ∧
      (pairs.zip results).Perm (others.zip permuted) := by
  induction perm generalizing results with
  | nil => exact ⟨results, told, .refl _⟩
  | cons pair _ ih =>
    obtain _ | ⟨first, rest⟩ := told
    obtain ⟨permuted, others, same⟩ := ih rest
    exact ⟨_, .cons first others, same.cons _⟩
  | swap pair other pairs =>
    obtain _ | ⟨first, _ | ⟨second, rest⟩⟩ := told
    exact ⟨_, .cons second (.cons first rest), .swap _ _ _⟩
  | trans _ _ ih later =>
    obtain ⟨_, told, same⟩ := ih told
    obtain ⟨permuted, told, again⟩ := later told
    exact ⟨permuted, told, same.trans again⟩

theorem quote_rateOf_of_alike {other : CurrencyPair} (alike : pair.Alike other) :
    (shelf.rateOf pair).toOption.map RateResult.quote =
      (shelf.rateOf other).toOption.map RateResult.quote := by
  have key : CacheKey.ofRate pair.base pair.target = CacheKey.ofRate other.base other.target := by
    rw [CacheKey.ofRate, CacheKey.ofRate, alike.1, alike.2]
  unfold rateOf
  simp only [key]
  cases shelf.fault (CacheKey.ofRate other.base other.target) with
  | some words => rfl
  | none =>
    cases shelf.map.live? shelf.now (CacheKey.ofRate other.base other.target) with
    | none => rfl
    | some entry =>
      simp only
      cases Json.readText CachedRate.reader entry.value <;> rfl

def quotes (shelf : Shelf) (pairs : List CurrencyPair) : Option (List (Binary64 × Int64)) :=
  (shelf.fetch pairs).toOption.map (List.map RateResult.quote)

theorem quotes_cons (shelf : Shelf) (pair : CurrencyPair) (pairs : List CurrencyPair) :
    shelf.quotes (pair :: pairs) =
      ((shelf.rateOf pair).toOption.map RateResult.quote).bind fun first =>
        (shelf.quotes pairs).map (first :: ·) := by
  rw [quotes, quotes, fetch_cons]
  cases shelf.rateOf pair with
  | error failure => rfl
  | ok first => cases shelf.fetch pairs <;> rfl

theorem quotes_of_alike {others : List CurrencyPair}
    (alike : List.Forall₂ CurrencyPair.Alike pairs others) :
    shelf.quotes pairs = shelf.quotes others := by
  induction alike with
  | nil => rfl
  | cons first _ ih => rw [quotes_cons, quotes_cons, quote_rateOf_of_alike first, ih]

/-- What is retrieved from a shelf for lists of pairs of every length. -/
structure Retrieves (shelf : Shelf) : Prop where
  all : ∀ pairs, (∃ results, shelf.fetch pairs = .ok results) ↔
    ∀ pair ∈ pairs, ∃ cached, shelf.Holds pair cached
  each : ∀ pairs results, shelf.fetch pairs = .ok results ↔
    List.Forall₂ shelf.Tells pairs results
  first : ∀ pairs failure, shelf.fetch pairs = .error failure ↔
    ∃ before pair after, pairs = before ++ pair :: after ∧
      (∀ earlier ∈ before, ∃ cached, shelf.Holds earlier cached) ∧
      shelf.rateOf pair = .error failure
  append : ∀ pairs more, shelf.fetch (pairs ++ more) =
    match shelf.fetch pairs with
    | .error failure => .error failure
    | .ok results => (shelf.fetch more).map (results ++ ·)
  perm : ∀ pairs others results, pairs.Perm others → shelf.fetch pairs = .ok results →
    ∃ permuted, shelf.fetch others = .ok permuted ∧
      (pairs.zip results).Perm (others.zip permuted)
  alike : ∀ pairs others, List.Forall₂ CurrencyPair.Alike pairs others →
    shelf.quotes pairs = shelf.quotes others

end Shelf

namespace Small

example :
    let scene := setup.after .initial [.refresh world]
    let shelf : Shelf := ⟨scene.now, scene.map, fun _ => none⟩
    (shelf.fetch [⟨"usd", "JPY"⟩, ⟨"USD", "jpy"⟩]).toOption =
      some [⟨⟨"usd", "JPY"⟩, .ofNat 150, 0⟩, ⟨⟨"USD", "jpy"⟩, .ofNat 150, 0⟩] := by
  decide +kernel

end Small

end QuoteGateway
