import QuoteGateway.Quote.Service
import QuoteGateway.Quote.Updater

/-!
# Courses of dialogues

Which exchanges a dialogue can have with its surroundings, and where they lead, whatever the
surroundings are. A course fixes the questions and leaves the answers open, so what holds of every
course of a job holds on every cache, with every pattern of failures and at any pace.
-/

namespace QuoteGateway

/-- The failure of a result, if it is one. -/
def failureOf {α : Type} : Except Failure α → Option Failure
  | .error failure => some failure
  | .ok _ => none

theorem failureOf_eq_some {α : Type} {result : Except Failure α} {failure : Failure} :
    failureOf result = some failure ↔ result = .error failure := by
  cases result <;> simp [failureOf]

/-- A question and its answer. -/
structure Exchange (S : Signature) where
  call : S.Call
  answer : S.Answer call

namespace Dialogue

variable {S : Signature} {σ α β : Type}

/-- The dialogue can have these exchanges, in their order, and ends with this result after them. -/
def Course : Dialogue S α → List (Exchange S) → α → Prop
  | done b, exchanges, a => exchanges = [] ∧ a = b
  | ask call next, exchanges, a =>
    ∃ answer rest, exchanges = ⟨call, answer⟩ :: rest ∧ (next answer).Course rest a
  | tell _ next, exchanges, a => next.Course exchanges a

theorem course_bind {d : Dialogue S α} {f : α → Dialogue S β} {exchanges : List (Exchange S)}
    {b : β} : (d.bind f).Course exchanges b ↔
      ∃ first a rest, exchanges = first ++ rest ∧ d.Course first a ∧ (f a).Course rest b := by
  induction d generalizing exchanges with
  | done a =>
    constructor
    · exact fun there => ⟨[], a, exchanges, rfl, ⟨rfl, rfl⟩, there⟩
    · rintro ⟨first, a, rest, rfl, ⟨rfl, rfl⟩, there⟩
      exact there
  | ask call next ih =>
    simp only [bind, Course, ih]
    constructor
    · rintro ⟨answer, rest, rfl, first, a, last, rfl, here, there⟩
      exact ⟨⟨call, answer⟩ :: first, a, last, rfl, ⟨answer, first, rfl, here⟩, there⟩
    · rintro ⟨first, a, last, rfl, ⟨answer, rest, rfl, here⟩, there⟩
      exact ⟨answer, rest ++ last, rfl, rest, a, last, rfl, here, there⟩
  | tell event next ih => exact ih

/-- The answers decide how a dialogue goes on, and so where it ends. -/
theorem Course.unique {d : Dialogue S α} {first other rest later : List (Exchange S)} {a b : α}
    (here : d.Course first a) (there : d.Course other b) (same : first ++ rest = other ++ later) :
    first = other ∧ a = b := by
  induction d generalizing first other with
  | done c =>
    obtain ⟨rfl, rfl⟩ := here
    obtain ⟨rfl, rfl⟩ := there
    exact ⟨rfl, rfl⟩
  | ask call next ih =>
    obtain ⟨answer, first, rfl, here⟩ := here
    obtain ⟨answer', other, rfl, there⟩ := there
    simp only [List.cons_append, List.cons.injEq, Exchange.mk.injEq, heq_eq_eq, true_and] at same
    obtain ⟨rfl, same⟩ := same
    obtain ⟨rfl, rfl⟩ := ih answer here there same
    exact ⟨rfl, rfl⟩
  | tell event next ih => exact ih here there same

def Asks (P : S.Call → Prop) : Dialogue S α → Prop
  | done _ => True
  | ask call next => P call ∧ ∀ answer, (next answer).Asks P
  | tell _ next => next.Asks P

theorem Asks.bind {P : S.Call → Prop} {d : Dialogue S α} {f : α → Dialogue S β}
    (first : d.Asks P) (goesOn : ∀ a, (f a).Asks P) : (d.bind f).Asks P := by
  induction d with
  | done a => exact goesOn a
  | ask call next ih => exact ⟨first.1, fun answer => ih answer (first.2 answer)⟩
  | tell event next ih => exact ih first

theorem Asks.of_course {P : S.Call → Prop} {d : Dialogue S α} {exchanges : List (Exchange S)}
    {a : α} (asks : d.Asks P) (h : d.Course exchanges a) :
    ∀ exchange ∈ exchanges, P exchange.call := by
  induction d generalizing exchanges with
  | done b =>
    obtain ⟨rfl, -⟩ := h
    nofun
  | ask call next ih =>
    obtain ⟨answer, rest, rfl, later⟩ := h
    exact List.forall_mem_cons.mpr ⟨asks.1, ih answer (asks.2 answer) later⟩
  | tell event next ih => exact ih asks h

theorem run_bind {m : Type → Type} [Monad m] [LawfulMonad m]
    (answer : (c : S.Call) → m (S.Answer c)) (hear : S.Event → m Unit) (d : Dialogue S α)
    (f : α → Dialogue S β) :
    (d.bind f).run answer hear = d.run answer hear >>= fun a => (f a).run answer hear := by
  induction d with
  | done a => simp [bind, run]
  | ask c next ih => simp [bind, run, ih]
  | tell event next ih => simp [bind, run, ih]

variable (answer : (c : S.Call) → StateM σ (S.Answer c)) (hear : S.Event → StateM σ Unit)

def journal : Dialogue S α → σ → List (Exchange S)
  | done _, _ => []
  | ask c next, s =>
    ⟨c, (answer c s).1⟩ :: (next (answer c s).1).journal (answer c s).2
  | tell event next, s => next.journal (hear event s).2

theorem course_journal (d : Dialogue S α) (s : σ) :
    d.Course (d.journal answer hear s) (d.run answer hear s).1 := by
  induction d generalizing s with
  | done a => exact ⟨rfl, rfl⟩
  | ask c next ih => exact ⟨_, _, rfl, ih _ _⟩
  | tell event next ih => exact ih _

theorem journal_bind (d : Dialogue S α) (f : α → Dialogue S β) (s : σ) :
    (d.bind f).journal answer hear s =
      d.journal answer hear s ++
        (f (d.run answer hear s).1).journal answer hear (d.run answer hear s).2 := by
  induction d generalizing s with
  | done a => rfl
  | ask c next ih => exact congrArg _ (ih _ _)
  | tell event next ih => exact ih _

end Dialogue

namespace Job

variable {α β : Type} {exchanges : List (Exchange gatewaySignature)}

def Course (job : Job α) (exchanges : List (Exchange gatewaySignature))
    (result : Except Failure α) : Prop :=
  Dialogue.Course job.run exchanges result

theorem course_pure {a : α} {result : Except Failure α} :
    Course (pure a) exchanges result ↔ exchanges = [] ∧ result = .ok a := Iff.rfl

theorem course_throw {failure : Failure} {result : Except Failure α} :
    Course (throw failure) exchanges result ↔ exchanges = [] ∧ result = .error failure := Iff.rfl

theorem course_bind {job : Job α} {f : α → Job β} {result : Except Failure β} :
    Course (job >>= f) exchanges result ↔
      (∃ failure, Course job exchanges (.error failure) ∧ result = .error failure) ∨
        ∃ first a rest, exchanges = first ++ rest ∧ Course job first (.ok a) ∧
          Course (f a) rest result := by
  change (job.run.bind _).Course exchanges result ↔ _
  rw [Dialogue.course_bind]
  constructor
  · rintro ⟨first, failure | a, rest, rfl, here, there⟩
    · obtain ⟨rfl, rfl⟩ := there
      exact .inl ⟨failure, by simpa [Course] using here, rfl⟩
    · exact .inr ⟨first, a, rest, rfl, here, there⟩
  · rintro (⟨failure, here, rfl⟩ | ⟨first, a, rest, rfl, here, there⟩)
    · exact ⟨exchanges, .error failure, [], by simp, here, rfl, rfl⟩
    · exact ⟨first, .ok a, rest, rfl, here, there⟩

theorem course_call {c : Call} {result : Except Failure c.Result} :
    Course (Job.call c) exchanges result ↔ exchanges = [⟨c, result⟩] := by
  constructor
  · rintro ⟨answer, rest, rfl, rfl, rfl⟩
    rfl
  · rintro rfl
    exact ⟨result, [], rfl, rfl, rfl⟩

theorem course_report {event : Event} {job : Job α} {result : Except Failure α} :
    Course (Job.report event >>= fun _ => job) exchanges result ↔ Course job exchanges result :=
  Iff.rfl

/-- What follows a job whose outcome is looked at without failing with it. -/
theorem course_lift_run_bind {job : Job α} {f : Except Failure α → Job β}
    {result : Except Failure β} :
    Course (ExceptT.lift job.run >>= f) exchanges result ↔
      ∃ first outcome rest, exchanges = first ++ rest ∧ Course job first outcome ∧
        Course (f outcome) rest result := by
  let looked : Dialogue gatewaySignature (Except Failure (Except Failure α)) :=
    job.run.bind fun outcome => .done (.ok outcome)
  change (looked.bind _).Course exchanges result ↔ _
  rw [Dialogue.bind_assoc]
  exact Dialogue.course_bind

theorem course_adapt {change : Failure → Failure} {job : Job α} {result : Except Failure α} :
    Course (ExceptT.adapt change job) exchanges result ↔
      ∃ outcome, Course job exchanges outcome ∧ result = outcome.mapError change := by
  change (job.run.bind _).Course exchanges result ↔ _
  rw [Dialogue.course_bind]
  constructor
  · rintro ⟨first, outcome, rest, rfl, here, rfl, rfl⟩
    exact ⟨outcome, by simpa [Course] using here, rfl⟩
  · rintro ⟨outcome, here, rfl⟩
    exact ⟨exchanges, outcome, [], by simp, here, rfl, rfl⟩

def Asks (P : Call → Prop) (job : Job α) : Prop := Dialogue.Asks P job.run

theorem asks_pure {P : Call → Prop} (a : α) : Asks P (pure a) := trivial

theorem asks_throw {P : Call → Prop} (failure : Failure) : Asks P (throw failure : Job α) := trivial

theorem asks_call {P : Call → Prop} {c : Call} (h : P c) : Asks P (Job.call c) :=
  ⟨h, fun _ => trivial⟩

theorem Asks.bind {P : Call → Prop} {job : Job α} {f : α → Job β} (first : Asks P job)
    (goesOn : ∀ a, Asks P (f a)) : Asks P (job >>= f) := by
  apply Dialogue.Asks.bind first
  rintro (failure | a)
  · trivial
  · exact goesOn a

theorem Asks.report {P : Call → Prop} {job : Job α} (h : Asks P job) (event : Event) :
    Asks P (Job.report event >>= fun _ => job) := h

theorem Asks.adapt {P : Call → Prop} {job : Job α} (h : Asks P job)
    (change : Failure → Failure) : Asks P (ExceptT.adapt change job) :=
  Dialogue.Asks.bind h fun _ => trivial

/-- What the answer to the reading of an entry stands for. -/
def entryOf (reader : Json.Reader α) (key : String) :
    Except Failure (Option String) → Except Failure (Option α)
  | .error failure => .error failure
  | .ok none => .ok none
  | .ok (some text) =>
    match Json.readText reader text with
    | .ok a => .ok (some a)
    | .error cause => .error (.unreadableEntry key cause)

theorem entryOf_eq_some {reader : Json.Reader α} {key : String}
    {answer : Except Failure (Option String)} {a : α}
    (h : entryOf reader key answer = .ok (some a)) :
    ∃ text, answer = .ok (some text) ∧ Json.readText reader text = .ok a := by
  unfold entryOf at h
  split at h
  · cases h
  · cases h
  · split at h
    · rename_i read
      cases h
      exact ⟨_, rfl, read⟩
    · cases h

theorem entryOf_eq_none {reader : Json.Reader α} {key : String}
    {answer : Except Failure (Option String)} (h : entryOf reader key answer = .ok none) :
    answer = .ok none := by
  unfold entryOf at h
  split at h
  · cases h
  · rfl
  · split at h <;> cases h

theorem run_readEntry (reader : Json.Reader α) (key : String) :
    (Job.readEntry reader key).run =
      .ask (.cache (.read key)) fun answer => .done (entryOf reader key answer) := by
  change Dialogue.ask _ _ = _
  congr 1
  funext answer
  rcases answer with failure | _ | text
  · rfl
  · rfl
  · change ExceptT.run (match Json.readText reader text with | .ok a => _ | .error cause => _) = _
    simp only [entryOf]
    cases Json.readText reader text <;> rfl

theorem course_readEntry {reader : Json.Reader α} {key : String}
    {result : Except Failure (Option α)} :
    Course (Job.readEntry reader key) exchanges result ↔
      ∃ answer : Except Failure (Option String),
        exchanges = [⟨.cache (.read key), answer⟩] ∧ result = entryOf reader key answer := by
  rw [Course, run_readEntry]
  constructor
  · rintro ⟨answer, rest, rfl, rfl, rfl⟩
    exact ⟨answer, rfl, rfl⟩
  · rintro ⟨answer, rfl, rfl⟩
    exact ⟨answer, [], rfl, rfl, rfl⟩

theorem asks_readEntry {P : Call → Prop} {reader : Json.Reader α} {key : String}
    (h : P (.cache (.read key))) : Asks P (Job.readEntry reader key) := by
  rw [Asks, run_readEntry]
  exact ⟨h, fun _ => trivial⟩

theorem course_writeEntry {key : String} {document : Json.Document} {lifetime : Duration}
    {result : Except Failure Unit} :
    Course (Job.writeEntry key document lifetime) exchanges result ↔
      exchanges = [⟨.cache (.write key document.compact lifetime), result⟩] :=
  course_call

end Job

end QuoteGateway
