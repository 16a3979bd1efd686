import QuoteGateway.Net.Percent
import QuoteGateway.Proofs.Pieces

/-!
# Reading a written form

A form is read back with the same names and values, whatever their characters: those that part its
fields are encoded where they stand for themselves.
-/

namespace QuoteGateway

namespace Net

theorem hexDigit?_hexDigit : ∀ n < 16, Text.hexDigit? (hexDigit n) = some n := by decide

theorem isPlain_hexDigit : ∀ n < 16, Form.isPlain (hexDigit n) = true := by decide

theorem percentDecoded_percentOctet (octet : UInt8) (rest : List Char) :
    percentDecoded (percentOctet octet ++ rest) = octet :: percentDecoded rest := by
  have bound := octet.toNat_lt
  have high := hexDigit?_hexDigit (octet.toNat / 16) (by omega)
  have low := hexDigit?_hexDigit (octet.toNat % 16) (by omega)
  have value : octet.toNat / 16 * 16 + octet.toNat % 16 = octet.toNat := by omega
  simp only [percentOctet, List.cons_append, List.nil_append, percentDecoded, high, low, value,
    UInt8.ofNat_toNat]

theorem percentDecoded_flatMap (octets : List UInt8) (rest : List Char) :
    percentDecoded (octets.flatMap percentOctet ++ rest) = octets ++ percentDecoded rest := by
  induction octets with
  | nil => rfl
  | cons octet octets ih =>
    rw [List.flatMap_cons, List.append_assoc, percentDecoded_percentOctet, ih, List.cons_append]

theorem percentDecoded_cons {c : Char} (other : c ≠ '%') (rest : List Char) :
    percentDecoded (c :: rest) = String.utf8EncodeChar c ++ percentDecoded rest := by
  rw [percentDecoded]
  intro a b more same
  exact absurd same other

/-- An encoded text is decoded to its octets, provided that percent signs are encoded. -/
theorem percentDecoded_percentText {plain : Char → Bool} (encoded : plain '%' = false)
    (cs : List Char) : percentDecoded (percentText plain cs) = cs.flatMap String.utf8EncodeChar := by
  induction cs with
  | nil => rfl
  | cons c cs ih =>
    rw [percentText, List.flatMap_cons, List.flatMap_cons, percentChar]
    split
    · rename_i isPlain
      have other : c ≠ '%' := by
        rintro rfl
        rw [encoded] at isPlain
        cases isPlain
      rw [List.singleton_append, percentDecoded_cons other, ← percentText, ih]
    · rw [percentDecoded_flatMap, ← percentText, ih]

theorem decodedText?_octets (cs : List Char) :
    decodedText? (cs.flatMap String.utf8EncodeChar) = some (String.ofList cs) := by
  have octets : (⟨(cs.flatMap String.utf8EncodeChar).toArray⟩ : ByteArray) = cs.utf8Encode := by
    apply ByteArray.ext
    rw [← Array.toList_inj, List.utf8Encode, List.toList_data_toByteArray]
  have valid := ByteArray.isValidUTF8_utf8Encode (l := cs)
  rw [decodedText?, octets, String.fromUTF8?, dif_pos valid]
  congr 1

namespace Form

theorem isPlain_of_mem_percentOctet {octet : UInt8} {c : Char} (h : c ∈ percentOctet octet) :
    isPlain c = true ∨ c = '%' := by
  have bound := octet.toNat_lt
  rcases List.mem_cons.mp h with rfl | h
  · exact .inr rfl
  · rcases List.mem_cons.mp h with rfl | h
    · exact .inl (isPlain_hexDigit _ (by omega))
    · rw [List.mem_singleton.mp h]
      exact .inl (isPlain_hexDigit _ (by omega))

theorem isPlain_of_mem_percentChar {origin c : Char} (h : c ∈ percentChar isPlain origin) :
    isPlain c = true ∨ c = '%' := by
  unfold percentChar at h
  split at h
  · rename_i plain
    exact .inl (List.mem_singleton.mp h ▸ plain)
  · obtain ⟨octet, -, mem⟩ := List.mem_flatMap.mp h
    exact isPlain_of_mem_percentOctet mem

theorem isPlain_of_mem_writeText {s : String} {c : Char} (h : c ∈ writeText s) :
    c = '+' ∨ isPlain c = true ∨ c = '%' := by
  obtain ⟨origin, -, mem⟩ := List.mem_flatMap.mp h
  unfold writeChar at mem
  split at mem
  · exact .inl (List.mem_singleton.mp mem)
  · exact .inr (isPlain_of_mem_percentChar mem)

/-- With blanks for the plus signs, only blanks are written otherwise than in an address. -/
theorem map_writeText (s : String) :
    (writeText s).map (fun c => if c = '+' then ' ' else c) =
      percentText (fun c => isPlain c || c == ' ') s.toList := by
  rw [writeText, percentText, List.map_flatMap]
  congr 1
  funext c
  by_cases blank : c = ' '
  · rw [blank]
    rfl
  · have same : percentChar (fun c => isPlain c || c == ' ') c = percentChar isPlain c := by
      rw [percentChar, percentChar, beq_eq_false_iff_ne.mpr blank, Bool.or_false]
    have kept : ∀ d ∈ percentChar isPlain c, (if d = '+' then ' ' else d) = d := by
      intro d mem
      apply if_neg
      rintro rfl
      exact absurd (isPlain_of_mem_percentChar mem) (by decide)
    rw [writeChar, if_neg blank, same, List.map_congr_left kept, List.map_id']

theorem readText?_writeText (s : String) : readText? (writeText s) = some s := by
  rw [readText?, map_writeText, percentDecoded_percentText (by decide), decodedText?_octets,
    String.ofList_toList]

theorem notMem_writeText {mark : Char} (marks : mark = '&' ∨ mark = '=') (s : String) :
    mark ∉ writeText s := by
  intro mem
  rcases marks with rfl | rfl <;> exact absurd (isPlain_of_mem_writeText mem) (by decide)

def writeField (field : String × String) : List Char :=
  writeText field.1 ++ '=' :: writeText field.2

theorem readField?_writeField (field : String × String) :
    readField? (writeField field) = some field := by
  have free := notMem_writeText (.inr rfl) field.1
  have unlike : ∀ c ∈ writeText field.1, (c != '=') = true :=
    fun c mem => bne_iff_ne.mpr fun same => free (same ▸ mem)
  have name : (writeField field).takeWhile (· != '=') = writeText field.1 := by
    rw [writeField, List.takeWhile_append_of_pos unlike]
    exact List.append_nil _
  have value : ((writeField field).dropWhile (· != '=')).drop 1 = writeText field.2 := by
    rw [writeField, List.dropWhile_append_of_pos unlike]
    rfl
  rw [readField?, name, value, readText?_writeText, readText?_writeText]
  rfl

theorem notMem_writeField (field : String × String) : '&' ∉ writeField field := by
  intro mem
  rcases List.mem_append.mp mem with name | mem
  · exact notMem_writeText (.inl rfl) _ name
  · rcases List.mem_cons.mp mem with mark | value
    · cases mark
    · exact notMem_writeText (.inl rfl) _ value

theorem writeField_ne_nil (field : String × String) : writeField field ≠ [] :=
  List.append_ne_nil_of_right_ne_nil _ (List.cons_ne_nil _ _)

/-- A form is read as it was written. -/
theorem read?_write (fields : List (String × String)) : read? (write fields) = some fields := by
  have each : (fields.map writeField).mapM readField? = some fields := by
    induction fields with
    | nil => rfl
    | cons field fields ih => simp [readField?_writeField, ih]
  have full : (fields.map writeField).filter (!·.isEmpty) = fields.map writeField := by
    rw [List.filter_eq_self, List.forall_mem_map]
    intro field _
    rw [Bool.not_eq_true', List.isEmpty_eq_false_iff]
    exact writeField_ne_nil field
  cases fields with
  | nil => rfl
  | cons field fields =>
    have free : ∀ part ∈ (field :: fields).map writeField, '&' ∉ part := by
      rw [List.forall_mem_map]
      exact fun origin _ => notMem_writeField origin
    have parts : Text.pieces '&' (write (field :: fields)) = (field :: fields).map writeField :=
      Text.pieces_joined (List.cons_ne_nil _ _) free
    rw [read?, parts, full, each]

end Form

end Net

end QuoteGateway
