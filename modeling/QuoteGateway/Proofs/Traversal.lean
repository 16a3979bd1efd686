import Mathlib.Data.List.Forall2

/-!
# Lists whose items may fail

Where every item of a list is turned into a value or fails, the list is turned into all the values,
or fails as the first item that does.
-/

namespace QuoteGateway

variable {α β ε : Type} {f : α → Except ε β} {a : α} {as : List α} {bs : List β} {e : ε}

theorem mapM_cons_eq_ok_iff : (a :: as).mapM f = .ok bs ↔
    ∃ b rest, f a = .ok b ∧ as.mapM f = .ok rest ∧ bs = b :: rest := by
  rw [List.mapM_cons]
  cases f a with
  | error cause => simp [bind, Except.bind]
  | ok b => cases as.mapM f <;> simp [bind, Except.bind, pure, Except.pure, eq_comm]

theorem mapM_cons_eq_error_iff : (a :: as).mapM f = .error e ↔
    f a = .error e ∨ ∃ b, f a = .ok b ∧ as.mapM f = .error e := by
  rw [List.mapM_cons]
  cases f a with
  | error cause => simp [bind, Except.bind]
  | ok b => cases as.mapM f <;> simp [bind, Except.bind, pure, Except.pure]

/-- A list is turned into the values of its items, in order. -/
theorem mapM_eq_ok_iff : as.mapM f = .ok bs ↔ List.Forall₂ (fun a b => f a = .ok b) as bs := by
  induction as generalizing bs with
  | nil => simp [pure, Except.pure, eq_comm]
  | cons a as ih =>
    rw [mapM_cons_eq_ok_iff, List.forall₂_cons_left_iff]
    simp only [ih, exists_and_left]

/-- A list fails as the first of its items that does, whatever comes after it. -/
theorem mapM_eq_error_iff : as.mapM f = .error e ↔ ∃ before bad after, as = before ++ bad :: after ∧
    (∀ earlier ∈ before, ∃ b, f earlier = .ok b) ∧ f bad = .error e := by
  induction as with
  | nil => simp [pure, Except.pure]
  | cons a as ih =>
    rw [mapM_cons_eq_error_iff, ih]
    constructor
    · rintro (fails | ⟨b, made, before, bad, after, rfl, earlier, fails⟩)
      · exact ⟨[], a, as, rfl, List.forall_mem_nil _, fails⟩
      · exact ⟨a :: before, bad, after, rfl, List.forall_mem_cons.mpr ⟨⟨b, made⟩, earlier⟩, fails⟩
    · rintro ⟨_ | ⟨first, before⟩, bad, after, split, earlier, fails⟩
      · obtain ⟨rfl, -⟩ := List.cons.inj split
        exact .inl fails
      · obtain ⟨rfl, rfl⟩ := List.cons.inj split
        obtain ⟨⟨b, made⟩, others⟩ := List.forall_mem_cons.mp earlier
        exact .inr ⟨b, made, before, bad, after, rfl, others, fails⟩

theorem mem_of_mapM_ok (mapped : as.mapM f = .ok bs) {b : β} (member : b ∈ bs) :
    ∃ a ∈ as, f a = .ok b := by
  induction mapM_eq_ok_iff.mp mapped with
  | nil => cases member
  | cons made rest ih =>
    rcases List.mem_cons.mp member with rfl | later
    · exact ⟨_, List.mem_cons_self, made⟩
    · obtain ⟨a, among, same⟩ := ih (mapM_eq_ok_iff.mpr rest) later
      exact ⟨a, List.mem_cons_of_mem _ among, same⟩

end QuoteGateway
