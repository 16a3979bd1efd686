import Mathlib.Data.List.Forall2
import QuoteGateway.Proofs.Course
import QuoteGateway.Proofs.FetchedRates
import QuoteGateway.Proofs.Net.Addresses
import QuoteGateway.Proofs.Net.Forms
import QuoteGateway.Proofs.ReplyBodies

/-!
# Fetching all rates

The rates of all bases are fetched by one request for each base, in their order. The first base
that fails ends the fetch, and then there are no rates at all.
-/

namespace QuoteGateway.Feed

variable {hosts : Net.HostForm} {feed : Feed} {base : String}

/-- The text of the address that is asked for rates. -/
def placeText (feed : Feed) : String :=
  String.ofList (feed.baseUrl.toList.reverse.dropWhile (· == '/')).reverse ++ "/fetch-all"

/-- The feed has the address of this place, which can be asked for rates. -/
structure IsPlace (hosts : Net.HostForm) (feed : Feed) (site : Net.Url) : Prop where
  read : Net.Url.read? hosts feed.placeText = some site
  host : site.host ≠ none
  scheme : site.scheme = "http".toList ∨ site.scheme = "https".toList

def form (feed : Feed) (base : String) : List (String × String) :=
  [("from", base), ("api_key", feed.apiKey)]

theorem address_eq (hosts : Net.HostForm) (feed : Feed) (base : String) : feed.address hosts base =
    match Net.Url.read? hosts feed.placeText with
    | none => .error .noAddress
    | some url =>
      if url.host.isNone then .error (.wrongScheme url)
      else if url.scheme = "http".toList ∨ url.scheme = "https".toList then
        .ok (url.withForm (feed.form base))
      else .error (.wrongScheme (url.withForm (feed.form base))) := by
  unfold address placeText form
  dsimp only
  generalize Net.Url.read? hosts _ = found
  cases found <;> rfl

theorem address_of_isPlace {site : Net.Url} (h : feed.IsPlace hosts site) (base : String) :
    feed.address hosts base = .ok (site.withForm (feed.form base)) := by
  have hosted : ¬ site.host.isNone = true := mt Option.isNone_iff_eq_none.mp h.host
  rw [address_eq, h.read]
  dsimp only
  rw [if_neg hosted, if_pos h.scheme]

theorem address_of_no_place (h : ∀ site, ¬ feed.IsPlace hosts site) (base : String) :
    ∃ fault, feed.address hosts base = .error fault := by
  rw [address_eq]
  cases read : Net.Url.read? hosts feed.placeText with
  | none => exact ⟨_, rfl⟩
  | some site =>
    dsimp only
    by_cases hosted : site.host.isNone = true
    · exact ⟨_, if_pos hosted⟩
    · by_cases scheme : site.scheme = "http".toList ∨ site.scheme = "https".toList
      · exact absurd ⟨read, mt Option.isNone_iff_eq_none.mpr hosted, scheme⟩ (h site)
      · rw [if_neg hosted, if_neg scheme]
        exact ⟨_, rfl⟩

theorem isPlace_standard (key : String) (timeout : Duration) :
    IsPlace Net.Punycode.hostForm ⟨standardUrl, key, timeout⟩
      ⟨"https".toList, some "api.fastforex.io".toList, none, .segments ["fetch-all".toList],
        none, none⟩ where
  read := by
    have read : Net.Url.read? Net.Punycode.hostForm "https://api.fastforex.io/fetch-all" =
        some ⟨"https".toList, some "api.fastforex.io".toList, none,
          .segments ["fetch-all".toList], none, none⟩ := by
      decide +kernel
    have place : placeText ⟨standardUrl, key, timeout⟩ = "https://api.fastforex.io/fetch-all" := by
      change String.ofList (standardUrl.toList.reverse.dropWhile (· == '/')).reverse ++
        "/fetch-all" = "https://api.fastforex.io/fetch-all"
      decide +kernel
    rw [place, read]
  host := nofun
  scheme := .inr rfl

/-- The feed has an address without a query and a fragment. -/
def HasPlainAddress (feed : Feed) : Prop := Net.Unmarked feed.baseUrl.toList

theorem query_of_isPlace (plain : feed.HasPlainAddress) {site : Net.Url}
    (h : feed.IsPlace hosts site) : site.query = none := by
  apply Net.Url.query_of_read? _ h.read
  rw [placeText, String.toList_append, String.toList_ofList]
  have path : Net.Unmarked "/fetch-all".toList := by decide
  exact ((plain.reverse.dropWhile _).reverse).append path

/-- A request for the rates of a base goes to the place of the feed. Its query tells the service
the base and the key, whatever their characters. -/
structure Requests (hosts : Net.HostForm) (feed : Feed) (base : String) (url : Net.Url) : Prop where
  place : ∃ site, feed.IsPlace hosts site ∧ url = { site with query := url.query }
  form : feed.HasPlainAddress →
    ∃ query, url.query = some query ∧ Net.Form.read? query = some (feed.form base)

theorem requests_withForm {site : Net.Url} (h : feed.IsPlace hosts site) (base : String) :
    feed.Requests hosts base (site.withForm (feed.form base)) where
  place := ⟨site, h, rfl⟩
  form plain := by
    refine ⟨Net.Form.write (feed.form base), ?_, Net.Form.read?_write _⟩
    rw [Net.Url.withForm, query_of_isPlace plain h]

def Decodes (octets : List UInt8) (body : Body) : Prop := Tells (bodyText octets).toList body

/-- A base was asked for, and the reply holds its rates. -/
structure Answered (hosts : Net.HostForm) (feed : Feed) (base : String)
    (exchange : Exchange signature) (rates : List FeedRate) : Prop where
  request : feed.Requests hosts base exchange.call
  reply : ∃ code octets body timestamp, exchange.answer = Reply.answered code octets ∧
    (200 ≤ code ∧ code < 300) ∧ Decodes octets body ∧ readStamp body.updated = .ok timestamp ∧
    RatesOf base body timestamp rates

/-- The reply to the request for a base fails the fetch. -/
inductive Fails (base : String) (url : Net.Url) : Reply → Fault → Prop
  | missing : Fails base url .missing (.noReply url)
  | errorStatus (code : Nat) (octets : List UInt8) : ¬ (200 ≤ code ∧ code < 300) →
    Fails base url (.answered code octets) (.errorStatus code base)
  | unreadable (code : Nat) (octets : List UInt8) : 200 ≤ code ∧ code < 300 →
    (∀ body, ¬ Decodes octets body) →
    Fails base url (.answered code octets) (.unreadableReply base)
  | badStamp (code : Nat) (octets : List UInt8) (body : Body) (fault : Fault) :
    200 ≤ code ∧ code < 300 → Decodes octets body → readStamp body.updated = .error fault →
    Fails base url (.answered code octets) fault

def outcome (base : String) (url : Net.Url) : Reply → Except Fault (List FeedRate)
  | .missing => .error (.noReply url)
  | .answered code octets =>
    if Net.isSuccess code then readBody base octets else .error (.errorStatus code base)

theorem isSuccess_iff (code : Nat) : Net.isSuccess code = true ↔ 200 ≤ code ∧ code < 300 := by
  simp [Net.isSuccess]

theorem readBody_of_decodes {octets : List UInt8} {body : Body} (h : Decodes octets body) :
    readBody base octets = (readStamp body.updated).map fun timestamp =>
      (sortedResults body.results).map fun result => ⟨base, result.1, result.2, timestamp⟩ := by
  have read := (readText_iff_tells _ _).mpr h
  simp only [readBody, read]
  cases readStamp body.updated <;> rfl

theorem readBody_of_not_decodes {octets : List UInt8} (h : ∀ body, ¬ Decodes octets body) :
    readBody base octets = .error (.unreadableReply base) := by
  cases read : Json.readText (Json.record Body.shape) (bodyText octets) with
  | error cause => simp only [readBody, read]
  | ok body => exact absurd ((readText_iff_tells _ _).mp read) (h body)

theorem outcome_of_success {url : Net.Url} {code : Nat} (h : 200 ≤ code ∧ code < 300)
    (octets : List UInt8) : outcome base url (.answered code octets) = readBody base octets :=
  if_pos ((isSuccess_iff code).mpr h)

theorem outcome_of_not_success {url : Net.Url} {code : Nat} (h : ¬ (200 ≤ code ∧ code < 300))
    (octets : List UInt8) :
    outcome base url (.answered code octets) = .error (.errorStatus code base) :=
  if_neg (mt (isSuccess_iff code).mp h)

/-- A reply either holds the rates of the base or fails the fetch. -/
theorem answered_or_fails {url : Net.Url} (request : feed.Requests hosts base url) (reply : Reply) :
    (∃ rates, outcome base url reply = .ok rates ∧ feed.Answered hosts base ⟨url, reply⟩ rates) ∨
      ∃ fault, outcome base url reply = .error fault ∧ Fails base url reply fault := by
  rcases reply with _ | ⟨code, octets⟩
  · exact .inr ⟨_, rfl, .missing⟩
  · by_cases success : 200 ≤ code ∧ code < 300
    · rw [outcome_of_success success]
      by_cases decodes : ∃ body, Decodes octets body
      · obtain ⟨body, decodes⟩ := decodes
        rw [readBody_of_decodes decodes]
        cases stamp : readStamp body.updated with
        | error fault => exact .inr ⟨fault, rfl, .badStamp code octets body _ success decodes stamp⟩
        | ok timestamp =>
          exact .inl ⟨_, rfl, request, code, octets, body, timestamp, rfl, success, decodes, stamp,
            ratesOf_sortedResults base body timestamp⟩
      · have decodes : ∀ body, ¬ Decodes octets body := fun body there => decodes ⟨body, there⟩
        exact .inr ⟨_, readBody_of_not_decodes decodes, .unreadable code octets success decodes⟩
    · exact .inr ⟨_, outcome_of_not_success success octets, .errorStatus code octets success⟩

section Outcome

variable {url : Net.Url} {reply : Reply}

theorem answered_of_outcome (request : feed.Requests hosts base url) {rates : List FeedRate}
    (h : outcome base url reply = .ok rates) : feed.Answered hosts base ⟨url, reply⟩ rates := by
  rcases answered_or_fails request reply with ⟨all, same, answered⟩ | ⟨fault, failed, -⟩
  · rw [h] at same
    cases same
    exact answered
  · rw [h] at failed
    cases failed

theorem fails_of_outcome (request : feed.Requests hosts base url) {fault : Fault}
    (h : outcome base url reply = .error fault) : Fails base url reply fault := by
  rcases answered_or_fails request reply with ⟨rates, success, -⟩ | ⟨cause, same, fails⟩
  · rw [h] at success
    cases success
  · rw [h] at same
    cases same
    exact fails

end Outcome

theorem run_fetchBase {url : Net.Url} (h : feed.address hosts base = .ok url) :
    (feed.fetchBase hosts base).run =
      Dialogue.ask (S := signature) url fun reply => match reply with
        | .missing => .done (.error (.noReply url))
        | .answered code octets =>
          if Net.isSuccess code then .done (readBody base octets)
          else .tell ⟨code, base⟩ (.done (.error (.errorStatus code base))) := by
  rw [fetchBase, h]
  change Dialogue.ask _ _ = _
  congr 1

variable {exchanges : List (Exchange signature)} {result : Except Fault (List FeedRate)}

theorem course_fetchBase {url : Net.Url} (h : feed.address hosts base = .ok url) :
    (feed.fetchBase hosts base).run.Course exchanges result ↔
      ∃ reply : Reply, exchanges = [⟨url, reply⟩] ∧ result = outcome base url reply := by
  rw [run_fetchBase h]
  constructor
  · rintro ⟨reply, rest, rfl, there⟩
    refine ⟨reply, ?_⟩
    rcases reply with _ | ⟨code, octets⟩
    · obtain ⟨rfl, rfl⟩ := there
      exact ⟨rfl, rfl⟩
    · dsimp only at there
      rw [outcome]
      split at there <;> obtain ⟨rfl, rfl⟩ := there <;> simp [*]
  · rintro ⟨reply, rfl, rfl⟩
    refine ⟨reply, [], rfl, ?_⟩
    rcases reply with _ | ⟨code, octets⟩
    · exact ⟨rfl, rfl⟩
    · dsimp only
      rw [outcome]
      split <;> exact ⟨rfl, rfl⟩

theorem course_fetchBase_of_error {fault : Fault} (h : feed.address hosts base = .error fault) :
    (feed.fetchBase hosts base).run.Course exchanges result ↔
      exchanges = [] ∧ result = .error fault := by
  rw [fetchBase, h]
  exact Iff.rfl

theorem run_fetchEach_cons (hosts : Net.HostForm) (feed : Feed) (base : String)
    (bases : List String) :
    (feed.fetchEach hosts (base :: bases)).run = (feed.fetchBase hosts base).run.bind fun
      | .error fault => .done (.error fault)
      | .ok rates => (feed.fetchEach hosts bases).run.bind fun more =>
        .done (more.map (rates ++ ·)) := by
  rw [fetchEach]
  generalize feed.fetchBase hosts base = first
  generalize feed.fetchEach hosts bases = others
  change Dialogue.bind _ _ = _
  congr 1
  funext rates
  rcases rates with fault | rates
  · rfl
  · change Dialogue.bind _ _ = _
    congr 1
    funext more
    rcases more with fault | more <;> rfl

/-- The first base is fetched, and the others only after it. -/
theorem course_fetchEach_cons {bases : List String} :
    (feed.fetchEach hosts (base :: bases)).run.Course exchanges result ↔
      (∃ fault, (feed.fetchBase hosts base).run.Course exchanges (.error fault) ∧
        result = .error fault) ∨
      ∃ first rates rest more, exchanges = first ++ rest ∧
        (feed.fetchBase hosts base).run.Course first (.ok rates) ∧
        (feed.fetchEach hosts bases).run.Course rest more ∧ result = more.map (rates ++ ·) := by
  rw [run_fetchEach_cons, Dialogue.course_bind]
  generalize (feed.fetchBase hosts base).run = fetched
  constructor
  · rintro ⟨first, fault | rates, rest, rfl, here, there⟩
    · obtain ⟨rfl, rfl⟩ := there
      exact .inl ⟨fault, by rwa [List.append_nil], rfl⟩
    · obtain ⟨later, more, last, rfl, goesOn, rfl, rfl⟩ := Dialogue.course_bind.mp there
      exact .inr ⟨first, rates, later, more, by rw [List.append_nil], here, goesOn, rfl⟩
  · rintro (⟨fault, here, rfl⟩ | ⟨first, rates, rest, more, rfl, here, there, rfl⟩)
    · exact ⟨exchanges, .error fault, [], by rw [List.append_nil], here, rfl, rfl⟩
    · exact ⟨first, .ok rates, rest, rfl, here,
        Dialogue.course_bind.mpr ⟨rest, more, [], by rw [List.append_nil], there, rfl, rfl⟩⟩

/-- The bases to be asked for: those items of the list that are a supported currency in capital
letters, in their order, or all supported currencies where the list is empty. -/
def requestedBases (allowed : List String) : List String :=
  if allowed = [] then supportedBases
  else (allowed.filter fun item => Text.uppercase item ∈ supportedBases).map Text.uppercase

theorem basesToFetch_eq (allowed : List String) : basesToFetch allowed = requestedBases allowed := by
  have supported : supportedBases.contains ∘ Text.uppercase =
      fun item => decide (Text.uppercase item ∈ supportedBases) := by
    funext item
    exact List.contains_eq_mem ..
  unfold basesToFetch requestedBases
  rw [List.filter_map, supported]
  simp only [List.isEmpty_iff]

/-- A base that is listed twice is asked for twice. -/
example : requestedBases ["usd", "xyz", "Eur", "USD"] = ["USD", "EUR", "USD"] := by decide +kernel

/-- A fetch of bases made these exchanges and ended with this result. -/
inductive Fetched (hosts : Net.HostForm) (feed : Feed) (bases : List String) :
    List (Exchange signature) → Except Fault (List FeedRate) → Prop
  /-- Every base was answered. The result has the rates of all of them. -/
  | complete (answers : List (Exchange signature × List FeedRate)) :
    List.Forall₂ (fun base answer => feed.Answered hosts base answer.1 answer.2) bases answers →
    Fetched hosts feed bases (answers.map Prod.fst) (.ok (answers.flatMap Prod.snd))
  /-- The bases before one were answered. That one failed, and the others were not asked for. -/
  | stopped (before after : List String) (base : String)
      (answers : List (Exchange signature × List FeedRate)) (url : Net.Url) (reply : Reply)
      (fault : Fault) :
    bases = before ++ base :: after →
    List.Forall₂ (fun base answer => feed.Answered hosts base answer.1 answer.2) before answers →
    feed.Requests hosts base url → Fails base url reply fault →
    Fetched hosts feed bases (answers.map Prod.fst ++ [⟨url, reply⟩]) (.error fault)
  /-- No request could be made, for want of an address. -/
  | unsent (fault : Fault) : bases ≠ [] → (∀ site, ¬ feed.IsPlace hosts site) →
    Fetched hosts feed bases [] (.error fault)

theorem Fetched.cons {bases : List String} {exchange : Exchange signature}
    {rates : List FeedRate} (answered : feed.Answered hosts base exchange rates)
    (h : Fetched hosts feed bases exchanges result) :
    Fetched hosts feed (base :: bases) (exchange :: exchanges) (result.map (rates ++ ·)) := by
  cases h with
  | complete answers each => exact .complete ((exchange, rates) :: answers) (.cons answered each)
  | stopped before after failing answers url reply fault shape each request fails =>
    exact .stopped (base :: before) after failing ((exchange, rates) :: answers) url reply fault
      (congrArg _ shape) (.cons answered each) request fails
  | unsent fault some noPlace =>
    obtain ⟨site, place, -⟩ := answered.request.place
    exact absurd place (noPlace site)

theorem fetched_of_course (hosts : Net.HostForm) (feed : Feed) (bases : List String) :
    ∀ exchanges result, (feed.fetchEach hosts bases).run.Course exchanges result →
      Fetched hosts feed bases exchanges result := by
  induction bases with
  | nil =>
    rintro exchanges result ⟨rfl, rfl⟩
    exact .complete [] .nil
  | cons base bases ih =>
    intro exchanges result
    rw [course_fetchEach_cons]
    by_cases place : ∃ site, feed.IsPlace hosts site
    · obtain ⟨site, place⟩ := place
      have request := requests_withForm place base
      simp only [course_fetchBase (address_of_isPlace place base)]
      rintro (⟨fault, ⟨reply, rfl, failed⟩, rfl⟩ |
        ⟨first, rates, rest, more, rfl, ⟨reply, rfl, success⟩, later, rfl⟩)
      · have fails := fails_of_outcome request failed.symm
        exact .stopped [] bases base [] _ reply fault rfl .nil request fails
      · exact (ih rest more later).cons (answered_of_outcome request success.symm)
    · have noPlace : ∀ site, ¬ feed.IsPlace hosts site := fun site there => place ⟨site, there⟩
      obtain ⟨fault, address⟩ := address_of_no_place noPlace base
      simp only [course_fetchBase_of_error address]
      rintro (⟨_, ⟨rfl, -⟩, rfl⟩ | ⟨_, _, _, _, -, ⟨-, impossible⟩, -⟩)
      · exact .unsent _ (List.cons_ne_nil _ _) noPlace
      · cases impossible

variable {σ : Type}

/-- Fetching all rates, whatever the service answers and whatever forms hosts have: the bases are
asked for one after the other up to the first that fails. All their rates are the result, in that
order, or none is and the fault is one of the provider. -/
theorem fetched_fetchAll (hosts : Net.HostForm) (feed : Feed) (allowed : List String)
    (service : Net.Url → StateM σ Reply) (hear : ErrorReply → StateM σ Unit) (s : σ) :
    Fetched hosts feed (requestedBases allowed)
        ((feed.fetchAllBy hosts allowed).run.journal service hear s)
        ((feed.fetchAllBy hosts allowed).run.run service hear s).1 ∧
      ∀ fault, ((feed.fetchAllBy hosts allowed).run.run service hear s).1 = .error fault →
        fault.failure.category = .provider provider := by
  refine ⟨?_, fun fault _ => rfl⟩
  rw [fetchAllBy, basesToFetch_eq]
  exact fetched_of_course hosts feed _ _ _ (@Dialogue.course_journal signature σ _ service hear _ s)

def standard : Feed := ⟨standardUrl, "a key", standardTimeout⟩

/-- A body that names another base, and one currency twice. -/
def dollarBody : String :=
  "\x7b\"base\": \"EUR\", \"results\": \x7b\"JPY\": 150.5, \"EUR\": 0.75, \"J\\u0050Y\": 151\x7d, " ++
    "\"updated\": \"2024-01-02 03:04:05\", \"ms\": [3]\x7d"

def dollarService : Net.Url → StateM Unit Reply :=
  fun _ => pure (.answered 200 (Net.octetsOf dollarBody))

/-- The last rate of each currency is the result, of the base that was asked for. -/
theorem fetched_dollars :
    Fetched Net.Punycode.hostForm standard ["USD"]
        ((standard.fetchAll ["usd", "xyz"]).run.journal dollarService (fun _ => pure ()) ())
        ((standard.fetchAll ["usd", "xyz"]).run.run dollarService (fun _ => pure ()) ()).1 ∧
      ((standard.fetchAll ["usd", "xyz"]).run.run dollarService (fun _ => pure ()) ()).1.toOption =
        some [⟨"USD", "EUR", .ofDecimal false 75 (-2), 1704164645⟩,
          ⟨"USD", "JPY", .ofNat 151, 1704164645⟩] := by
  have requested : requestedBases ["usd", "xyz"] = ["USD"] := by decide +kernel
  have fetched := fetched_fetchAll Net.Punycode.hostForm standard ["usd", "xyz"] dollarService
    (fun _ => pure ()) ()
  exact ⟨requested ▸ fetched.1, by decide +kernel⟩

end QuoteGateway.Feed
