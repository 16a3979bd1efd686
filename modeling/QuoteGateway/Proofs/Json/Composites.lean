import QuoteGateway.Proofs.Json.Scalars

/-!
# Written lists and records read back

A list is read item by item and an object member by member. If every part is read back from its
own text, so is the whole.
-/

namespace QuoteGateway.Json

open Document

def itemsAfter : List Document → List Char
  | [] => [']']
  | item :: items => ',' :: writeItems (item :: items)

theorem writeItems_cons (item : Document) (items : List Document) :
    writeItems (item :: items) = item.write ++ itemsAfter items := by
  cases items with
  | nil => rw [writeItems, itemsAfter]
  | cons next items => rw [writeItems, itemsAfter]

theorem endsValue_itemsAfter (items : List Document) (rest : List Char) :
    EndsValue (itemsAfter items ++ rest) := by
  cases items with
  | nil => exact endsValue_cons _ (.inr (.inl rfl))
  | cons item items => exact endsValue_cons _ (.inl rfl)

theorem nextItem_end (first : Bool) (rest : List Char) :
    nextItem first (']' :: rest) = .ok none := by
  simp [nextItem, skipBlanks_cons rest (show isBlank ']' = false from rfl)]

theorem nextItem_first {text : List Char} (opens : Opens text) (rest : List Char) :
    nextItem true (text ++ rest) = .ok (some (text ++ rest)) := by
  obtain ⟨c, tail, rfl, notBlank, notEnd, -⟩ := opens
  rw [List.cons_append, nextItem, skipBlanks_cons _ notBlank]
  simp [notEnd]

theorem nextItem_comma {text : List Char} (opens : Opens text) (rest : List Char) :
    nextItem false (',' :: (text ++ rest)) = .ok (some (text ++ rest)) := by
  obtain ⟨c, tail, rfl, notBlank, notEnd, -⟩ := opens
  rw [nextItem, skipBlanks_cons _ (show isBlank ',' = false from rfl)]
  simp only [List.cons_append, skipBlanks_cons _ notBlank, Char.reduceEq, if_false,
    Bool.false_eq_true, if_true]
  split
  · rename_i empty
    cases empty
  · rename_i same
    exact absurd (List.cons.inj same).1 notEnd
  · rfl

variable {α β : Type}

theorem items_cons {item : Reader α} {steps : Nat} {first : Bool} {text after rest : List Char}
    {cs : List Char} {a : α} {as : List α} (start : nextItem first cs = .ok (some (text ++ after)))
    (one : item (text ++ after) = .ok (a, after))
    (others : items item steps false after = .ok (as, rest)) :
    items item (steps + 1) first cs = .ok (a :: as, rest) := by
  simp only [items, start, one, others, bind, Except.bind]

theorem items_after {item : Reader α} {document : β → Document} {reading : β → α} (bs : List β)
    (rest : List Char)
    (parts : ∀ b ∈ bs, Opens (document b).write ∧ Reads item (document b).write (reading b))
    {steps : Nat} (enough : bs.length < steps) :
    items item steps false (itemsAfter (bs.map document) ++ rest) =
      .ok (bs.map reading, ']' :: rest) := by
  induction bs generalizing steps with
  | nil =>
    obtain ⟨steps, rfl⟩ : ∃ n, steps = n + 1 := ⟨steps - 1, by simp at enough; omega⟩
    rw [items]
    simp only [List.map_nil, itemsAfter, List.cons_append, List.nil_append, nextItem_end, bind,
      Except.bind]
  | cons b bs ih =>
    rw [List.length_cons] at enough
    obtain ⟨steps, rfl⟩ : ∃ n, steps = n + 1 := ⟨steps - 1, by omega⟩
    obtain ⟨opens, reads⟩ := parts b List.mem_cons_self
    rw [List.map_cons, itemsAfter, writeItems_cons, List.cons_append, List.append_assoc]
    exact items_cons (nextItem_comma opens _) (reads _ (endsValue_itemsAfter _ _))
      (ih (fun other h => parts other (List.mem_cons_of_mem b h)) (by omega))

theorem length_le_itemsAfter (items : List Document) :
    items.length < (itemsAfter items).length := by
  induction items with
  | nil => decide
  | cons item items ih =>
    rw [itemsAfter, writeItems_cons, List.length_cons, List.length_cons, List.length_append]
    omega

/-- A list is read item by item, where an item may be read as something else than it was. -/
theorem reads_list_map {item : Reader α} {document : β → Document} {reading : β → α} (bs : List β)
    (parts : ∀ b ∈ bs, Opens (document b).write ∧ Reads item (document b).write (reading b)) :
    Reads (list item) (Document.list (bs.map document)).write (bs.map reading) := by
  intro rest _
  have inside (steps : Nat) (enough : bs.length < steps) : items item steps true
      (writeItems (bs.map document) ++ rest) =
        .ok (bs.map reading, ']' :: rest) := by
    obtain ⟨steps, rfl⟩ : ∃ n, steps = n + 1 := ⟨steps - 1, by omega⟩
    cases bs with
    | nil =>
      rw [items]
      simp only [List.map_nil, writeItems, List.cons_append, List.nil_append, nextItem_end, bind,
        Except.bind]
    | cons b bs =>
      obtain ⟨opens, reads⟩ := parts b List.mem_cons_self
      rw [List.map_cons, writeItems_cons, List.append_assoc]
      exact items_cons (nextItem_first opens _) (reads _ (endsValue_itemsAfter _ _))
        (items_after bs rest (fun other h => parts other (List.mem_cons_of_mem b h))
          (by simp only [List.length_cons] at enough; omega))
  have enough : bs.length < (writeItems (bs.map document) ++ rest).length + 1 := by
    have long := length_le_itemsAfter ((bs.map document).tail)
    cases bs with
    | nil => simp
    | cons b bs =>
      rw [List.map_cons, List.tail_cons, List.length_map] at long
      rw [List.map_cons, writeItems_cons, List.length_append, List.length_append, List.length_cons]
      omega
  rw [Document.write, List.cons_append, list,
    valueStart_cons _ (show isBlank '[' = false from rfl)]
  simp only [bind, Except.bind, insideList, inside _ enough, afterListEnd,
    skipBlanks_cons _ (show isBlank ']' = false from rfl)]

theorem reads_list {item : Reader α} {document : α → Document} (as : List α)
    (parts : ∀ a ∈ as, Opens (document a).write ∧ Reads item (document a).write a) :
    Reads (list item) (Document.list (as.map document)).write as := by
  have reads : Reads (list item) (Document.list (as.map document)).write (as.map id) :=
    reads_list_map as parts
  rwa [List.map_id] at reads

def membersAfter : List (String × Document) → List Char
  | [] => ['}']
  | row :: rows => ',' :: writeMembers (row :: rows)

theorem writeMembers_cons (name : String) (value : Document) (rows : List (String × Document)) :
    writeMembers ((name, value) :: rows) =
      writeText name ++ ':' :: (value.write ++ membersAfter rows) := by
  cases rows with
  | nil => rw [writeMembers, membersAfter]
  | cons row rows => rw [writeMembers, membersAfter]

theorem endsValue_membersAfter (rows : List (String × Document)) (rest : List Char) :
    EndsValue (membersAfter rows ++ rest) := by
  cases rows with
  | nil => exact endsValue_cons _ (.inr (.inr rfl))
  | cons row rows => exact endsValue_cons _ (.inl rfl)

theorem length_le_membersAfter (rows : List (String × Document)) :
    rows.length < (membersAfter rows).length := by
  induction rows with
  | nil => decide
  | cons row rows ih =>
    obtain ⟨name, value⟩ := row
    rw [membersAfter, writeMembers_cons]
    simp only [List.length_cons, List.length_append]
    omega

theorem nextKey_end (first : Bool) (rest : List Char) :
    nextKey first ('}' :: rest) = .ok none := by
  simp [nextKey, skipBlanks_cons rest (show isBlank '}' = false from rfl)]

theorem nextKey_first (rest : List Char) : nextKey true ('"' :: rest) = .ok (some rest) := by
  simp [nextKey, skipBlanks_cons rest (show isBlank '"' = false from rfl)]

theorem nextKey_comma (rest : List Char) :
    nextKey false (',' :: '"' :: rest) = .ok (some rest) := by
  simp [nextKey, skipBlanks_cons _ (show isBlank ',' = false from rfl),
    skipBlanks_cons rest (show isBlank '"' = false from rfl)]

theorem afterColon_colon (rest : List Char) : afterColon (':' :: rest) = .ok rest := by
  simp [afterColon, skipBlanks_cons rest (show isBlank ':' = false from rfl)]

/-- A member of a written record: the field it is for, its value and what it changes. -/
structure Member (α : Type) where
  field : Field α
  value : Document
  change : α → α

def Member.row (m : Member α) : String × Document := (m.field.name, m.value)

structure Member.Fits (shape : RecordShape α) (m : Member α) : Prop where
  found : shape.fields.find? (·.name == m.field.name) = some m.field
  reads : Reads m.field.change m.value.write m.change

theorem byName_end {shape : RecordShape α} (steps : Nat) (first : Bool) (seen : List String)
    (draft : α) (rest : List Char) :
    shape.byName (steps + 1) first seen draft ('}' :: rest) =
      .ok ((draft, seen), '}' :: rest) := by
  simp only [RecordShape.byName, nextKey_end, bind, Except.bind]

theorem byName_cons {shape : RecordShape α} {m : Member α} (fits : m.Fits shape)
    {seen : List String} (unseen : m.field.name ∉ seen) {first : Bool} {cs : List Char}
    (rows : List (String × Document)) (rest : List Char)
    (start : nextKey first cs = .ok (some (m.field.name.toList.flatMap escapedChar ++ '"' :: ':' ::
      (m.value.write ++ (membersAfter rows ++ rest)))))
    (steps : Nat) (draft : α) :
    shape.byName (steps + 1) first seen draft cs =
      shape.byName steps false (m.field.name :: seen) (m.change draft)
        (membersAfter rows ++ rest) := by
  have notSeen : seen.contains m.field.name = false := by simpa using unseen
  have read := fits.reads _ (endsValue_membersAfter rows rest)
  simp only [RecordShape.byName, start, openText_written, fits.found, notSeen, afterColon_colon,
    read, bind, Except.bind, Bool.false_eq_true, if_false]

theorem byName_after {shape : RecordShape α} (ms : List (Member α)) (rest : List Char)
    (fits : ∀ m ∈ ms, m.Fits shape) {seen : List String}
    (distinct : (ms.map (·.field.name)).Nodup)
    (unseen : ∀ m ∈ ms, m.field.name ∉ seen) (draft : α)
    {steps : Nat} (enough : ms.length < steps) :
    shape.byName steps false seen draft (membersAfter (ms.map Member.row) ++ rest) =
      .ok ((ms.foldl (fun a m => m.change a) draft,
        (ms.map (·.field.name)).reverse ++ seen), '}' :: rest) := by
  induction ms generalizing steps seen draft with
  | nil =>
    obtain ⟨steps, rfl⟩ : ∃ n, steps = n + 1 := ⟨steps - 1, by simp at enough; omega⟩
    exact byName_end steps false seen draft rest
  | cons m ms ih =>
    rw [List.length_cons] at enough
    obtain ⟨steps, rfl⟩ : ∃ n, steps = n + 1 := ⟨steps - 1, by omega⟩
    rw [List.map_cons, List.nodup_cons] at distinct
    have start : nextKey false (membersAfter ((m :: ms).map Member.row) ++ rest) =
        .ok (some (m.field.name.toList.flatMap escapedChar ++ '"' :: ':' ::
          (m.value.write ++ (membersAfter (ms.map Member.row) ++ rest)))) := by
      rw [List.map_cons, membersAfter, Member.row, writeMembers_cons, List.cons_append,
        List.append_assoc, writeText_append, nextKey_comma]
      simp
    rw [byName_cons (fits m List.mem_cons_self) (unseen m List.mem_cons_self) _ rest start]
    have fresh : ∀ other ∈ ms, other.field.name ∉ m.field.name :: seen := by
      intro other hother
      rw [List.mem_cons, not_or]
      refine ⟨?_, unseen other (List.mem_cons_of_mem m hother)⟩
      intro same
      exact distinct.1 (same ▸ List.mem_map_of_mem hother)
    rw [ih (fun other h => fits other (List.mem_cons_of_mem m h)) distinct.2 fresh _ (by omega)]
    simp

def RecordShape.requiredNames (shape : RecordShape α) : List String :=
  (shape.fields.filter (·.presence == .required)).map (·.name)

/-- A record is read back from an object whose members are its fields, each read back itself. -/
theorem reads_record (shape : RecordShape α) (ms : List (Member α))
    (fits : ∀ m ∈ ms, m.Fits shape) (distinct : (ms.map (·.field.name)).Nodup)
    (complete : ∀ name ∈ shape.requiredNames, name ∈ ms.map (·.field.name)) :
    Reads (record shape) (Document.object (ms.map Member.row)).write
      (ms.foldl (fun a m => m.change a) shape.draft) := by
  intro rest _
  have inside (steps : Nat) (enough : ms.length < steps) :
      shape.byName steps true [] shape.draft (writeMembers (ms.map Member.row) ++ rest) =
        .ok ((ms.foldl (fun a m => m.change a) shape.draft, (ms.map (·.field.name)).reverse),
          '}' :: rest) := by
    obtain ⟨steps, rfl⟩ : ∃ n, steps = n + 1 := ⟨steps - 1, by omega⟩
    cases ms with
    | nil => exact byName_end steps true [] shape.draft rest
    | cons m ms =>
      rw [List.map_cons, List.nodup_cons] at distinct
      have start : nextKey true (writeMembers ((m :: ms).map Member.row) ++ rest) =
          .ok (some (m.field.name.toList.flatMap escapedChar ++ '"' :: ':' ::
            (m.value.write ++ (membersAfter (ms.map Member.row) ++ rest)))) := by
        rw [List.map_cons, Member.row, writeMembers_cons, List.append_assoc, writeText_append,
          nextKey_first]
        simp
      rw [byName_cons (fits m List.mem_cons_self) (List.not_mem_nil) _ rest start]
      have fresh : ∀ other ∈ ms, other.field.name ∉ [m.field.name] := by
        intro other hother same
        rw [List.mem_singleton] at same
        exact distinct.1 (same ▸ List.mem_map_of_mem hother)
      rw [byName_after ms rest (fun other h => fits other (List.mem_cons_of_mem m h)) distinct.2
        fresh _ (by simp only [List.length_cons] at enough; omega)]
      simp
  have enough : ms.length < (writeMembers (ms.map Member.row) ++ rest).length + 1 := by
    have long := length_le_membersAfter ((ms.map Member.row).tail)
    cases ms with
    | nil => simp
    | cons m ms =>
      rw [List.map_cons, List.tail_cons, List.length_map] at long
      rw [List.map_cons, Member.row, writeMembers_cons]
      simp only [List.length_cons, List.length_append]
      omega
  have none : (shape.fields.find? fun field => field.presence == .required &&
      !(ms.map (·.field.name)).reverse.contains field.name) = .none := by
    rw [List.find?_eq_none]
    intro field hfield missing
    rw [Bool.and_eq_true, beq_iff_eq] at missing
    have present := complete field.name
      (List.mem_map_of_mem (List.mem_filter.mpr ⟨hfield, by simp [missing.1]⟩))
    simp [present] at missing
  rw [Document.write, List.cons_append, record,
    valueStart_cons _ (show isBlank '{' = false from rfl)]
  simp only [bind, Except.bind, insideObject, RecordShape.complete, inside _ enough, none,
    afterObjectEnd, skipBlanks_cons _ (show isBlank '}' = false from rfl)]

theorem opens_object (rows : List (String × Document)) : Opens (Document.object rows).write :=
  ⟨'{', _, by rw [Document.write], rfl, by decide, by decide⟩

theorem reads_field {name : String} {presence : Presence} {value : Reader β} {put : β → α → α}
    {text : List Char} {b : β} (h : Reads value text b) :
    Reads (Field.of name presence value put).change text (put b) := by
  intro rest ends
  simp only [Field.of, h rest ends, Except.map]

theorem readText_of_reads {reader : Reader α} {text : List Char} {a : α}
    (h : Reads reader text a) : readText reader (String.ofList text) = .ok a := by
  have read := h [] endsValue_nil
  rw [List.append_nil] at read
  simp only [readText, String.toList_ofList, read, bind, Except.bind, skipBlanks,
    List.dropWhile_nil, Except.mapError]

end QuoteGateway.Json
