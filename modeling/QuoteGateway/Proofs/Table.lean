import Mathlib.Data.List.Nodup
import QuoteGateway.Table

/-!
# Keys of tables

Which keys have a row after a row is put in or taken out, sums over keys, and tables that agree
except at one key.
-/

namespace QuoteGateway.Table

variable {α : Type}

def keys (t : Table α) : List String := t.rows.map Prod.fst

theorem mem_keys_put {t : Table α} {key other : String} {a : α} :
    other ∈ (t.put key a).keys ↔ other = key ∨ other ∈ t.keys := by
  obtain ⟨rows⟩ := t
  simp only [keys, put]
  induction rows with
  | nil => simp [putRow]
  | cons row rest ih =>
    obtain ⟨first, old⟩ := row
    unfold putRow
    split
    · rename_i same
      simp [same]
    · simp only [List.map_cons, List.mem_cons, ih]
      tauto

theorem nodup_keys_put {t : Table α} (h : t.keys.Nodup) (key : String) (a : α) :
    (t.put key a).keys.Nodup := by
  obtain ⟨rows⟩ := t
  induction rows with
  | nil => simp [keys, put, putRow]
  | cons row rest ih =>
    obtain ⟨first, old⟩ := row
    simp only [keys, List.map_cons, List.nodup_cons] at h
    by_cases same : first = key
    · subst same
      simpa [keys, put, putRow] using h
    · have absent : first ∉ ((⟨rest⟩ : Table α).put key a).keys := by
        rw [mem_keys_put]
        rintro (rfl | member)
        · exact same rfl
        · exact h.1 member
      simp only [keys, put, putRow, same, if_false, List.map_cons, List.nodup_cons]
      exact ⟨absent, ih h.2⟩

/-- Where every key has one row, a row is what its key gives. -/
theorem get?_of_mem {t : Table α} (nodup : t.keys.Nodup) {key : String} {a : α}
    (member : (key, a) ∈ t.rows) : t.get? key = some a := by
  obtain ⟨rows⟩ := t
  induction rows with
  | nil => cases member
  | cons row rest ih =>
    obtain ⟨first, old⟩ := row
    simp only [keys, List.map_cons, List.nodup_cons] at nodup
    rcases List.mem_cons.mp member with same | later
    · obtain ⟨rfl, rfl⟩ := Prod.mk.inj same
      simp [get?]
    · have differs : (key == first) = false := by
        rw [beq_eq_false_iff_ne]
        rintro rfl
        exact nodup.1 (List.mem_map_of_mem later)
      have found := ih nodup.2 later
      simpa only [get?, List.lookup_cons, differs] using found

def without (t : Table α) (gone : String → Bool) : Table α :=
  ⟨t.rows.filter fun row => !gone row.1⟩

theorem get?_without (t : Table α) (gone : String → Bool) (key : String) :
    (t.without gone).get? key = if gone key then none else t.get? key := by
  obtain ⟨rows⟩ := t
  simp only [get?, without]
  induction rows with
  | nil => simp
  | cons row rest ih =>
    obtain ⟨first, old⟩ := row
    by_cases same : key = first
    · subst same
      cases kept : gone key <;> simp [kept, ih]
    · have differs : (key == first) = false := beq_eq_false_iff_ne.mpr same
      cases kept : gone first <;> simp [List.lookup_cons, differs, kept, ih]

theorem keys_without (t : Table α) (gone : String → Bool) :
    (t.without gone).keys = t.keys.filter fun key => !gone key := by
  simp [keys, without, List.filter_map, Function.comp_def]

theorem erase_eq_without (t : Table α) (key : String) : t.erase key = t.without (· == key) := rfl

theorem notMem_keys_erase (t : Table α) (key : String) : key ∉ (t.erase key).keys := by
  rw [erase_eq_without, keys_without]
  simp

theorem erase_of_notMem {t : Table α} {key : String} (h : key ∉ t.keys) : t.erase key = t := by
  obtain ⟨rows⟩ := t
  simp only [erase, mk.injEq, List.filter_eq_self, bne_iff_ne]
  intro row member same
  exact h (same ▸ List.mem_map_of_mem member)

theorem erase_put_self (t : Table α) (key : String) (a : α) :
    (t.put key a).erase key = t.erase key := by
  obtain ⟨rows⟩ := t
  simp only [erase, put, mk.injEq]
  induction rows with
  | nil => simp [putRow]
  | cons row rest ih =>
    obtain ⟨first, old⟩ := row
    by_cases same : first = key
    · simp [putRow, same]
    · simp [putRow, same, ih]

theorem erase_put_of_ne (t : Table α) {key other : String} (a : α) (h : other ≠ key) :
    (t.put other a).erase key = (t.erase key).put other a := by
  obtain ⟨rows⟩ := t
  simp only [erase, put, mk.injEq]
  induction rows with
  | nil => simp [putRow, h]
  | cons row rest ih =>
    obtain ⟨first, old⟩ := row
    by_cases same : first = other
    · subst same
      simp [putRow, h]
    · by_cases gone : first = key
      · subst gone
        simp [putRow, same, ih]
      · simp [putRow, same, gone, ih]

/-- The sum of the values of some keys. -/
def total (t : Table Nat) (p : String → Bool) : Nat :=
  t.rows.foldr (fun row sum => if p row.1 then row.2 + sum else sum) 0

/-- A number that is put in counts in place of the old one of its key. -/
theorem total_put (t : Table Nat) (p : String → Bool) (key : String) (n : Nat) :
    (t.put key n).total p + (if p key then (t.get? key).getD 0 else 0) =
      t.total p + if p key then n else 0 := by
  obtain ⟨rows⟩ := t
  simp only [total, put, get?]
  induction rows with
  | nil => cases h : p key <;> simp [putRow, h]
  | cons row rest ih =>
    obtain ⟨first, old⟩ := row
    by_cases same : first = key
    · subst same
      cases h : p first <;> simp [putRow, h]
      omega
    · have differs : (key == first) = false := beq_eq_false_iff_ne.mpr (Ne.symm same)
      cases h : p first <;> simp only [putRow, same, if_false, List.lookup_cons, differs,
        List.foldr_cons, h, Bool.false_eq_true, if_true]
      · exact ih
      · omega

/-- Tables in which every key has one row and all rows are the same except those of one key. -/
structure Differ (key : String) (R : Option α → Option α → Prop) (t t' : Table α) : Prop where
  others : t.erase key = t'.erase key
  nodup : t.keys.Nodup
  nodup' : t'.keys.Nodup
  related : R (t.get? key) (t'.get? key)

namespace Differ

variable {key : String} {R S : Option α → Option α → Prop} {t t' : Table α}

theorem get?_eq (differ : Differ key R t t') {other : String} (h : other ≠ key) :
    t.get? other = t'.get? other := by
  rw [← t.get?_erase_of_ne h, differ.others, t'.get?_erase_of_ne h]

theorem put_of_ne (differ : Differ key R t t') {other : String} (h : other ≠ key) (a : α) :
    Differ key R (t.put other a) (t'.put other a) where
  others := by rw [t.erase_put_of_ne a h, differ.others, t'.erase_put_of_ne a h]
  nodup := nodup_keys_put differ.nodup other a
  nodup' := nodup_keys_put differ.nodup' other a
  related := by
    rw [t.get?_put_of_ne a h.symm, t'.get?_put_of_ne a h.symm]
    exact differ.related

theorem put_self (differ : Differ key R t t') {a a' : α} (related : S (some a) (some a')) :
    Differ key S (t.put key a) (t'.put key a') where
  others := by rw [erase_put_self, differ.others, erase_put_self]
  nodup := nodup_keys_put differ.nodup key a
  nodup' := nodup_keys_put differ.nodup' key a'
  related := by
    rw [get?_put_self, get?_put_self]
    exact related

theorem put_right (differ : Differ key R t t') {a : α} (related : S (t.get? key) (some a)) :
    Differ key S t (t'.put key a) where
  others := by rw [differ.others, erase_put_self]
  nodup := differ.nodup
  nodup' := nodup_keys_put differ.nodup' key a
  related := by
    rw [get?_put_self]
    exact related

end Differ

end QuoteGateway.Table
