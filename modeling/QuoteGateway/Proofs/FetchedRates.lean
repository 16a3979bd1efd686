import Mathlib.Data.List.Induction
import QuoteGateway.Feed
import QuoteGateway.Proofs.Net.OctetOrder

/-!
# Rates of a fetched body

The results of a body become one rate for each of their names, in the order of the names. Where a
name is repeated, its last result counts.
-/

namespace QuoteGateway.Feed

open Number (Binary64)

def Ordered (results : List (String × Binary64)) : Prop :=
  results.Pairwise fun result later => result.1 < later.1

variable {name : String} {rate : Binary64} {results : List (String × Binary64)}

theorem name_eq_or_mem_of_mem_insertResult {result : String × Binary64}
    (h : result ∈ insertResult name rate results) : result.1 = name ∨ result ∈ results := by
  induction results with
  | nil => exact .inl (congrArg Prod.fst (List.mem_singleton.mp h))
  | cons first rest ih =>
    unfold insertResult at h
    split at h
    · rcases List.mem_cons.mp h with rfl | mem
      · exact .inl rfl
      · exact .inr (List.mem_cons_of_mem _ mem)
    · split at h
      · rcases List.mem_cons.mp h with rfl | mem
        · exact .inl rfl
        · exact .inr mem
      · rcases List.mem_cons.mp h with rfl | mem
        · exact .inr List.mem_cons_self
        · exact (ih mem).imp_right (List.mem_cons_of_mem _)

theorem ordered_insertResult (h : Ordered results) : Ordered (insertResult name rate results) := by
  induction results with
  | nil => exact List.pairwise_singleton _ _
  | cons first rest ih =>
    obtain ⟨later, ordered⟩ := List.pairwise_cons.mp h
    unfold insertResult
    split
    · rename_i same
      exact List.pairwise_cons.mpr ⟨fun result mem => same ▸ later result mem, ordered⟩
    · rename_i different
      split
      · rename_i before
        refine List.pairwise_cons.mpr ⟨fun result mem => ?_, h⟩
        rcases List.mem_cons.mp mem with rfl | mem
        · exact before
        · exact before.trans (later result mem)
      · rename_i notBefore
        have after : first.1 < name := lt_of_le_of_ne (not_lt.mp notBefore) (Ne.symm different)
        refine List.pairwise_cons.mpr ⟨fun result mem => ?_, ih ordered⟩
        rcases name_eq_or_mem_of_mem_insertResult mem with same | mem
        · exact same ▸ after
        · exact later result mem

theorem notMem_of_later (later : ∀ result ∈ results, name < result.1) (value : Binary64) :
    (name, value) ∉ results := fun mem => lt_irrefl name (later _ mem)

/-- A result that is put into its place takes the place of those of its name only. -/
theorem mem_insertResult (h : Ordered results) {other : String} {value : Binary64} :
    (other, value) ∈ insertResult name rate results ↔
      if other = name then value = rate else (other, value) ∈ results := by
  induction results with
  | nil => by_cases same : other = name <;> simp [insertResult, same]
  | cons first rest ih =>
    obtain ⟨later, ordered⟩ := List.pairwise_cons.mp h
    obtain ⟨k, old⟩ := first
    unfold insertResult
    by_cases replaced : name = k
    · subst replaced
      have gone := notMem_of_later later value
      by_cases same : other = name <;> simp [same, gone]
    · rw [if_neg replaced]
      by_cases before : name < k
      · have all : ∀ result ∈ (k, old) :: rest, name < result.1 :=
          List.forall_mem_cons.mpr ⟨before, fun result mem => before.trans (later result mem)⟩
        have absent := notMem_of_later all value
        rw [if_pos before, List.mem_cons]
        by_cases same : other = name
        · subst same
          simp [absent]
        · simp [same]
      · rw [if_neg before, List.mem_cons, ih ordered, List.mem_cons]
        by_cases same : other = name
        · subst same
          simp [replaced]
        · simp [same]

theorem ordered_sortedResults (results : List (String × Binary64)) :
    Ordered (sortedResults results) := by
  induction results using List.reverseRecOn with
  | nil => exact List.Pairwise.nil
  | append_singleton results result ih =>
    rw [sortedResults, List.foldl_append]
    exact ordered_insertResult ih

theorem mem_sortedResults {other : String} {value : Binary64} :
    (other, value) ∈ sortedResults results ↔ results.reverse.lookup other = some value := by
  induction results using List.reverseRecOn with
  | nil => simp [sortedResults]
  | append_singleton results result ih =>
    rw [sortedResults, List.foldl_append, ← sortedResults, List.reverse_concat, List.lookup_cons]
    change _ ∈ insertResult result.1 result.2 (sortedResults results) ↔ _
    rw [mem_insertResult (ordered_sortedResults results), ih]
    by_cases same : other = result.1
    · simp [same, eq_comm]
    · rw [if_neg same, beq_eq_false_iff_ne.mpr same]

/-- The rates of a base from the body of its reply: one for each name of the results, in the order
of the octets of the names. Each is the last result of its name, and all are of the base that was
asked for and of the time of the body. -/
structure RatesOf (base : String) (body : Body) (timestamp : Int64) (rates : List FeedRate) :
    Prop where
  ordered : rates.Pairwise fun rate later => Net.octetsOf rate.target < Net.octetsOf later.target
  stamped : ∀ rate ∈ rates, rate.base = base ∧ rate.timestamp = timestamp
  last : ∀ target value, ⟨base, target, value, timestamp⟩ ∈ rates ↔
    body.results.reverse.lookup target = some value

theorem ratesOf_sortedResults (base : String) (body : Body) (timestamp : Int64) :
    RatesOf base body timestamp
      ((sortedResults body.results).map fun result => ⟨base, result.1, result.2, timestamp⟩) where
  ordered := by
    rw [List.pairwise_map]
    exact (ordered_sortedResults body.results).imp Net.octetsOf_lt_octetsOf
  stamped := List.forall_mem_map.mpr fun _ _ => ⟨rfl, rfl⟩
  last target value := by
    rw [← mem_sortedResults]
    simp

end QuoteGateway.Feed
