/-!
# Tables

Finite tables from texts to values, with their rows in the order in which the keys came in.
-/

namespace QuoteGateway

structure Table (α : Type) where
  rows : List (String × α)

namespace Table

variable {α : Type}

def empty : Table α := ⟨[]⟩

def get? (t : Table α) (key : String) : Option α := t.rows.lookup key

/-- Rows with the value of a key put in place of its old one, or at the end. -/
def putRow (key : String) (a : α) : List (String × α) → List (String × α)
  | [] => [(key, a)]
  | (other, old) :: rest =>
    if other = key then (key, a) :: rest else (other, old) :: putRow key a rest

def put (t : Table α) (key : String) (a : α) : Table α := ⟨putRow key a t.rows⟩

def erase (t : Table α) (key : String) : Table α := ⟨t.rows.filter (·.1 != key)⟩

/-- The table of the rows of a list, in which the last row of a key counts. -/
def ofList (rows : List (String × α)) : Table α :=
  rows.foldl (fun t row => t.put row.1 row.2) empty

theorem get?_put_self (t : Table α) (key : String) (a : α) : (t.put key a).get? key = some a := by
  obtain ⟨rows⟩ := t
  simp only [get?, put]
  induction rows with
  | nil => simp [putRow]
  | cons row rest ih =>
    obtain ⟨other, old⟩ := row
    unfold putRow
    split
    · simp
    · rename_i h
      rw [List.lookup_cons]
      have : (key == other) = false := by simpa using fun e => h e.symm
      simp [this, ih]

theorem get?_put_of_ne (t : Table α) {key other : String} (a : α) (h : other ≠ key) :
    (t.put key a).get? other = t.get? other := by
  obtain ⟨rows⟩ := t
  have differs : (other == key) = false := beq_eq_false_iff_ne.mpr h
  simp only [get?, put]
  induction rows with
  | nil => simp [putRow, List.lookup_cons, differs]
  | cons row rest ih =>
    obtain ⟨first, old⟩ := row
    unfold putRow
    split
    · rename_i same
      subst same
      simp [List.lookup_cons, differs]
    · rw [List.lookup_cons, List.lookup_cons, ih]

theorem get?_erase_self (t : Table α) (key : String) : (t.erase key).get? key = none := by
  obtain ⟨rows⟩ := t
  simp only [get?, erase]
  induction rows with
  | nil => rfl
  | cons row rest ih =>
    obtain ⟨other, old⟩ := row
    by_cases h : other = key
    · simp [h, ih]
    · have : (key == other) = false := by simpa using fun e => h e.symm
      simp [h, List.lookup_cons, this, ih]

theorem get?_erase_of_ne (t : Table α) {key other : String} (h : other ≠ key) :
    (t.erase key).get? other = t.get? other := by
  obtain ⟨rows⟩ := t
  simp only [get?, erase]
  induction rows with
  | nil => rfl
  | cons row rest ih =>
    obtain ⟨first, old⟩ := row
    by_cases same : first = key
    · subst same
      have differs : (other == first) = false := beq_eq_false_iff_ne.mpr h
      simp [List.lookup_cons, differs, ih]
    · simp [same, List.lookup_cons, ih]

end Table

end QuoteGateway
