/-!
# Dialogues

A computation that asks its surroundings for answers and tells them of events. What it asks next
may depend on every answer so far. A dialogue is a value: it can be carried out by any
interpreter, cut off between two answers, or woven together with other dialogues.
-/

namespace QuoteGateway

/-- What a dialogue may ask, what answers each question has, and what it may tell. -/
structure Signature where
  Call : Type
  Answer : Call → Type
  Event : Type

inductive Dialogue (S : Signature) (α : Type) : Type where
  | done (a : α)
  | ask (call : S.Call) (next : S.Answer call → Dialogue S α)
  | tell (event : S.Event) (next : Dialogue S α)

namespace Dialogue

variable {S : Signature} {α β : Type}

/-- One dialogue followed by another, which starts from the result of the first. -/
def bind : Dialogue S α → (α → Dialogue S β) → Dialogue S β
  | done a, f => f a
  | ask call next, f => ask call fun answer => (next answer).bind f
  | tell event next, f => tell event (next.bind f)

instance : Monad (Dialogue S) where
  pure := done
  bind := bind

def call (c : S.Call) : Dialogue S (S.Answer c) := ask c done

def report (event : S.Event) : Dialogue S Unit := tell event (done ())

def run {m : Type → Type} [Monad m] (answer : (c : S.Call) → m (S.Answer c))
    (hear : S.Event → m Unit) : Dialogue S α → m α
  | done a => pure a
  | ask c next => do
    let a ← answer c
    (next a).run answer hear
  | tell event next => do
    hear event
    next.run answer hear

/-- Where a dialogue is dropped: at a question after so many answers, which still takes effect or
does not. -/
structure Cut where
  answers : Nat
  takesEffect : Bool
deriving DecidableEq

/-- Carries a dialogue out until it is dropped. A dialogue that asks no further has its result. -/
def runUntil {m : Type → Type} [Monad m] (answer : (c : S.Call) → m (S.Answer c))
    (hear : S.Event → m Unit) : Cut → Dialogue S α → m (Option α)
  | _, done a => pure (some a)
  | ⟨0, takesEffect⟩, ask c _ => do
    if takesEffect then
      let _ ← answer c
    pure none
  | ⟨answers + 1, takesEffect⟩, ask c next => do
    let a ← answer c
    (next a).runUntil answer hear ⟨answers, takesEffect⟩
  | cut, tell event next => do
    hear event
    next.runUntil answer hear cut

theorem bind_done (d : Dialogue S α) : d.bind done = d := by
  induction d with
  | done a => rfl
  | ask c next ih => simp only [bind, ih]
  | tell event next ih => simp only [bind, ih]

theorem bind_assoc {γ : Type} (d : Dialogue S α) (f : α → Dialogue S β) (g : β → Dialogue S γ) :
    (d.bind f).bind g = d.bind fun a => (f a).bind g := by
  induction d with
  | done a => rfl
  | ask c next ih => simp only [bind, ih]
  | tell event next ih => simp only [bind, ih]

instance : LawfulMonad (Dialogue S) :=
  LawfulMonad.mk' (Dialogue S) bind_done (fun _ _ => rfl) bind_assoc

end Dialogue

end QuoteGateway
