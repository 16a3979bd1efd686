import Mathlib.Data.List.TakeWhile
import QuoteGateway.Proofs.Json.Scalars
import QuoteGateway.Proofs.Settings.Precedence

/-!
# Whole numbers in TOML files

A whole number stands for itself in TOML text while it fits 64 bits with a sign. A file with a
wider one is malformed, and then nothing is loaded.
-/

namespace QuoteGateway

namespace Toml

open Json (Document)

theorem all_toDigits (n : Nat) : ∀ c ∈ Nat.toDigits 10 n, c.isDigit = true :=
  fun _ member => Nat.isDigit_of_mem_toDigits (by decide) (by decide) member

theorem isDigit_or_eq_of_mem {i : Int} {c : Char} (h : c ∈ Text.integerNumeral i) :
    c.isDigit = true ∨ c = '-' := by
  cases i with
  | ofNat n => exact .inl (all_toDigits n c h)
  | negSucc n => exact (List.mem_cons.mp h).symm.imp_left (all_toDigits (n + 1) c)

theorem integerNumeral_shape (i : Int) : (∀ c ∈ Text.integerNumeral i, c.isDigit = true) ∨
    ∃ digits, Text.integerNumeral i = '-' :: digits := by
  cases i with
  | ofNat n => exact .inl (all_toDigits n)
  | negSucc n => exact .inr ⟨_, rfl⟩

theorem digits?_of_all {digits : List Char} (some : digits ≠ [])
    (all : ∀ c ∈ digits, c.isDigit = true) : digits? Char.isDigit digits = .some digits := by
  induction digits with
  | nil => exact absurd rfl some
  | cons c rest ih =>
    obtain ⟨digit, others⟩ := List.forall_mem_cons.mp all
    cases rest with
    | nil => rw [digits?, if_pos digit]
    | cons d rest =>
      have plain : d ≠ '_' := by
        rintro rfl
        exact absurd (others '_' List.mem_cons_self) (by decide)
      have more := ih (List.cons_ne_nil _ _) others
      rw [digits?, if_pos digit, more]
      · rfl
      · nofun
      · rintro rest ⟨⟩
        exact plain rfl

theorem wholeDigits?_toDigits (n : Nat) :
    wholeDigits? (Nat.toDigits 10 n) = some (Nat.toDigits 10 n) := by
  obtain ⟨nonempty, all, noLeadingZero⟩ := Json.wholePart_toDigits n
  have single : ¬ ((Nat.toDigits 10 n).head? = some '0' ∧ (Nat.toDigits 10 n).length ≠ 1) := by
    rintro ⟨zero, long⟩
    exact long (congrArg List.length (noLeadingZero zero))
  simp only [wholeDigits?, digits?_of_all nonempty all, Option.bind_eq_bind, Option.bind_some,
    if_neg single]

theorem head?_ne_of_all {digits : List Char} (all : ∀ c ∈ digits, c.isDigit = true) {c : Char}
    (notDigit : c.isDigit = false) : digits.head? ≠ some c := by
  intro head
  have digit := all c (List.mem_of_mem_head? head)
  rw [notDigit] at digit
  cases digit

theorem unsigned_of_all {digits : List Char} (all : ∀ c ∈ digits, c.isDigit = true) :
    unsigned digits = digits := by
  unfold unsigned
  split
  · exact absurd rfl (head?_ne_of_all all (c := '+') rfl)
  · exact absurd rfl (head?_ne_of_all all (c := '-') rfl)
  · rfl

theorem unsigned_integerNumeral (i : Int) :
    unsigned (Text.integerNumeral i) = Nat.toDigits 10 i.natAbs := by
  cases i with
  | ofNat n => exact unsigned_of_all (all_toDigits n)
  | negSucc n => rfl

theorem head?_integerNumeral (i : Int) :
    (Text.integerNumeral i).head? = some '-' ↔ i < 0 := by
  cases i with
  | ofNat n =>
    refine ⟨fun head => absurd head (head?_ne_of_all (all_toDigits n) rfl), fun negative => ?_⟩
    exact absurd negative (Int.not_lt.mpr (Int.natCast_nonneg n))
  | negSucc n => exact ⟨fun _ => Int.negSucc_lt_zero n, fun _ => rfl⟩

theorem integerNumeral_ne (i : Int) {c : Char} (notDigit : c.isDigit = false) (notSign : c ≠ '-')
    {cs : List Char} (member : c ∈ cs) : Text.integerNumeral i ≠ cs := by
  rintro rfl
  rcases isDigit_or_eq_of_mem member with digit | sign
  · rw [notDigit] at digit
    cases digit
  · exact notSign sign

theorem integer?_integerNumeral (i : Int) : integer? (Text.integerNumeral i) = within64? i := by
  unfold integer?
  split
  · rename_i same
    exact absurd same (integerNumeral_ne i (c := 'x') rfl (by decide) (by simp))
  · rename_i same
    exact absurd same (integerNumeral_ne i (c := 'o') rfl (by decide) (by simp))
  · rename_i same
    exact absurd same (integerNumeral_ne i (c := 'b') rfl (by decide) (by simp))
  · simp only [unsigned_integerNumeral, wholeDigits?_toDigits, Option.bind_eq_bind,
      Option.bind_some, Nat.ofDigitChars_ten_toDigits, head?_integerNumeral]
    congr 1
    split <;> omega

theorem eq_drop_of_counted {width low high n : Nat} {cs rest : List Char}
    (read : counted width low high cs = some (n, rest)) : rest = cs.drop width := by
  simp only [counted] at read
  split at read
  · cases read
    rfl
  · cases read

theorem counted_of_sign (width low high : Nat) (rest : List Char) :
    counted (width + 1) low high ('-' :: rest) = none := by
  have sign : (('-' :: rest).take (width + 1)).all Char.isDigit = false := by simp
  simp only [counted, sign, Bool.false_eq_true, false_and, and_false, if_false]

theorem afterMark_of_all {mark : Char} (notDigit : mark.isDigit = false) {cs : List Char}
    (all : ∀ c ∈ cs, c.isDigit = true) : afterMark mark cs = none := by
  cases cs with
  | nil => rfl
  | cons c rest =>
    have differs : c ≠ mark := by
      rintro rfl
      exact head?_ne_of_all all notDigit rfl
    exact if_neg differs

theorem afterMark_of_counted (mark : Char) (notDigit : mark.isDigit = false)
    {cs rest : List Char} (all : ∀ c ∈ cs, c.isDigit = true) {width low high n : Nat}
    (read : counted width low high cs = some (n, rest)) : afterMark mark rest = none := by
  rw [eq_drop_of_counted read]
  exact afterMark_of_all notDigit fun c member => all c (List.mem_of_mem_drop member)

theorem date_integerNumeral (i : Int) : date (Text.integerNumeral i) = none := by
  rcases integerNumeral_shape i with all | ⟨digits, shape⟩
  · unfold date
    cases read : counted 4 0 9999 (Text.integerNumeral i) with
    | none => rfl
    | some part =>
      have none := afterMark_of_counted '-' rfl all read
      simp only [Option.bind_eq_bind, Option.bind_some, none, Option.bind_none]
  · rw [shape]
    simp only [date, counted_of_sign, Option.bind_eq_bind, Option.bind_none]

theorem clock_integerNumeral (i : Int) : clock (Text.integerNumeral i) = none := by
  rcases integerNumeral_shape i with all | ⟨digits, shape⟩
  · unfold clock
    cases read : counted 2 0 23 (Text.integerNumeral i) with
    | none => rfl
    | some part =>
      have none := afterMark_of_counted ':' rfl all read
      simp only [Option.bind_eq_bind, Option.bind_some, none, Option.bind_none]
  · rw [shape]
    simp only [clock, counted_of_sign, Option.bind_eq_bind, Option.bind_none]

theorem stampText?_integerNumeral (i : Int) : stampText? (Text.integerNumeral i) = none := by
  simp only [stampText?, date_integerNumeral, clock_integerNumeral, Option.bind_eq_bind,
    Option.bind_none]

theorem isReal_of_all {digits : List Char} (all : ∀ c ∈ digits, c.isDigit = true) :
    isReal digits = false := by
  have whole : digits.takeWhile (fun c => c.isDigit || c == '_') = digits :=
    List.takeWhile_eq_self_iff.2 fun c member => by rw [all c member, Bool.true_or]
  simp only [isReal, whole, List.drop_length, isExponent, Bool.and_false]

theorem real?_integerNumeral (i : Int) : real? (Text.integerNumeral i) = none := by
  have all := all_toDigits i.natAbs
  have notInfinite : Nat.toDigits 10 i.natAbs ≠ "inf".toList := fun same =>
    head?_ne_of_all all (c := 'i') rfl (congrArg List.head? same)
  have notNan : Nat.toDigits 10 i.natAbs ≠ "nan".toList := fun same =>
    head?_ne_of_all all (c := 'n') rfl (congrArg List.head? same)
  simp only [real?, unsigned_integerNumeral, notInfinite, notNan, isReal_of_all all, or_self,
    Bool.false_eq_true, if_false]

/-- A numeral is the number that it shows, or no value at all. -/
theorem bareValue?_integerNumeral (i : Int) :
    bareValue? (Text.integerNumeral i) = (within64? i).map .integer := by
  have notTrue : Text.integerNumeral i ≠ "true".toList :=
    integerNumeral_ne i (c := 't') rfl (by decide) (by decide)
  have notFalse : Text.integerNumeral i ≠ "false".toList :=
    integerNumeral_ne i (c := 'f') rfl (by decide) (by decide)
  simp only [bareValue?, notTrue, notFalse, if_false, stampText?_integerNumeral,
    integer?_integerNumeral, real?_integerNumeral, Option.map_none]
  cases within64? i <;> rfl

section

variable {c d : Char} (isKey : isKeyChar c = true)

include isKey in
theorem ne_of_isKeyChar (isMark : isKeyChar d = false) : c ≠ d := by
  rintro rfl
  rw [isMark] at isKey
  cases isKey

theorem withShortBreaks?_of_all {cs : List Char} (all : ∀ c ∈ cs, c ≠ '\r') :
    withShortBreaks? cs = some cs := by
  induction cs with
  | nil => rfl
  | cons c rest ih =>
    obtain ⟨here, later⟩ := List.forall_mem_cons.mp all
    rw [withShortBreaks?, ih later]
    · rfl
    · rintro _ rfl
      exact absurd rfl here
    · rintro rfl
      exact here rfl

theorem afterGap_cons (plain : isBlank c = false) (noBreak : c ≠ '\n') (noMark : c ≠ '#')
    (rest : List Char) : afterGap false (c :: rest) = some (c :: rest) := by
  simp only [afterGap, plain, noBreak, noMark, Bool.false_eq_true, or_self, if_false]

include isKey in
theorem isBlank_of_isKeyChar : isBlank c = false := by
  have space := ne_of_isKeyChar isKey (d := ' ') rfl
  have tab := ne_of_isKeyChar isKey (d := '\t') rfl
  simp only [isBlank, beq_eq_false_iff_ne.mpr space, beq_eq_false_iff_ne.mpr tab, Bool.or_self]

end

/-- A name of key characters is a key, up to the next mark other than a point. -/
theorem key_of_all {name : List Char} (nonempty : name ≠ [])
    (all : ∀ c ∈ name, isKeyChar c = true) (blanks : List Char)
    (blank : ∀ c ∈ blanks, isBlank c = true) {mark : Char} (isMark : isKeyChar mark = false)
    (printed : isBlank mark = false) (noPoint : mark ≠ '.') (room : Nat) (rest : List Char) :
    key (room + 1) (name ++ (blanks ++ mark :: rest)) =
      some ((String.ofList name, []), mark :: rest) := by
  have skipped : skipBlanks (blanks ++ mark :: rest) = mark :: rest := by
    rw [skipBlanks, List.dropWhile_append_of_pos blank, List.dropWhile_cons_of_neg (by simp [printed])]
  have ends : (blanks ++ mark :: rest).takeWhile isKeyChar = [] := by
    cases blanks with
    | nil => exact List.takeWhile_cons_of_neg (by simp [isMark])
    | cons c more =>
      refine List.takeWhile_cons_of_neg fun isKey => ?_
      have notBlank := isBlank_of_isKeyChar isKey
      rw [blank c List.mem_cons_self] at notBlank
      cases notBlank
  have taken : (name ++ (blanks ++ mark :: rest)).takeWhile isKeyChar = name := by
    rw [List.takeWhile_append_of_pos all, ends, List.append_nil]
  have part : keyPart (skipBlanks (name ++ (blanks ++ mark :: rest))) =
      some (String.ofList name, blanks ++ mark :: rest) := by
    cases name with
    | nil => exact absurd rfl nonempty
    | cons c more =>
      have isKey := all c List.mem_cons_self
      have same : skipBlanks (c :: more ++ (blanks ++ mark :: rest)) =
          c :: more ++ (blanks ++ mark :: rest) :=
        List.dropWhile_cons_of_neg (by simp [isBlank_of_isKeyChar isKey])
      rw [same]
      unfold keyPart
      split
      · rename_i quoted
        cases quoted
        cases isKey
      · rename_i quoted
        cases quoted
        cases isKey
      · simp only [taken, List.isEmpty_cons, Bool.false_eq_true, if_false, List.drop_left]
  rw [key, part]
  simp only [Option.bind_eq_bind, Option.bind_some, skipped]
  split
  · rename_i pointed
    cases pointed
    exact absurd rfl noPoint
  · rfl

theorem isKeyChar_of_mem_integerNumeral {i : Int} {c : Char} (member : c ∈ Text.integerNumeral i) :
    isKeyChar c = true := by
  rcases isDigit_or_eq_of_mem member with digit | rfl
  · simp only [isKeyChar, Char.isAlphanum, digit, Bool.or_true, Bool.true_or]
  · rfl

theorem endsBareValue_of_isKeyChar {c : Char} (isKey : isKeyChar c = true) :
    endsBareValue c = false := by
  have differs (mark : Char) (isMark : isKeyChar mark = false) : (c == mark) = false :=
    beq_eq_false_iff_ne.mpr (ne_of_isKeyChar isKey isMark)
  simp only [endsBareValue, isBlank_of_isKeyChar isKey, differs '\n' rfl,
    differs ',' rfl, differs ']' rfl, differs '\x7d' rfl,
    differs '#' rfl, Bool.or_self]

theorem integerNumeral_ne_nil (i : Int) : Text.integerNumeral i ≠ [] := by
  cases i with
  | ofNat n => exact Nat.toDigits_ne_nil
  | negSucc n => exact List.cons_ne_nil _ _

theorem bareText_integerNumeral (i : Int) :
    bareText (Text.integerNumeral i) = (Text.integerNumeral i, []) := by
  have whole : (Text.integerNumeral i).takeWhile (!endsBareValue ·) = Text.integerNumeral i := by
    refine List.takeWhile_eq_self_iff.mpr fun c member => ?_
    rw [endsBareValue_of_isKeyChar (isKeyChar_of_mem_integerNumeral member), Bool.not_false]
  simp only [bareText, whole, List.drop_length, date_integerNumeral]

theorem value_integerNumeral (i : Int) (steps room : Nat) :
    value (steps + 1) room (Text.integerNumeral i) =
      (within64? i).map fun i => (.integer i, []) := by
  unfold value
  split
  · rename_i same
    exact absurd same (integerNumeral_ne i (c := '[') rfl (by decide) List.mem_cons_self)
  · rename_i same
    exact absurd same (integerNumeral_ne i (c := '\x7b') rfl (by decide) List.mem_cons_self)
  · rename_i same
    exact absurd same (integerNumeral_ne i (c := '"') rfl (by decide) List.mem_cons_self)
  · rename_i same
    exact absurd same (integerNumeral_ne i (c := '\'') rfl (by decide) List.mem_cons_self)
  · simp only [bareText_integerNumeral, bareValue?_integerNumeral]
    cases within64? i <;> rfl

/-- A document that sets one key of one table to a whole number. -/
def wholeText (table name : List Char) (i : Int) : List Char :=
  '[' :: (table ++ ']' :: '\n' :: (name ++ ' ' :: '=' :: ' ' :: Text.integerNumeral i))

section

variable {table name : List Char} (named : table ≠ [])
  (keys : ∀ c ∈ table, isKeyChar c = true) (named' : name ≠ [])
  (keys' : ∀ c ∈ name, isKeyChar c = true)

include named keys in
theorem lines_header (steps : Nat) (rest : List Char) :
    lines (steps + 1) [] [] ('[' :: (table ++ ']' :: '\n' :: rest)) =
      lines steps [String.ofList table] [(String.ofList table, .table .header [])] rest := by
  have read : key deepest (table ++ ']' :: '\n' :: rest) =
      some ((String.ofList table, []), ']' :: '\n' :: rest) :=
    key_of_all named keys [] nofun rfl rfl (by decide) _ _
  obtain ⟨c, more, rfl⟩ := List.exists_cons_of_ne_nil named
  have notDouble : c ≠ '[' := ne_of_isKeyChar (keys c List.mem_cons_self) rfl
  rw [lines, afterGap_cons rfl (by decide) (by decide), Option.bind_eq_bind, Option.bind_some]
  split
  · rename_i nothing
    cases nothing
  · rename_i double
    cases double
    exact absurd rfl notDouble
  · rename_i header
    obtain ⟨-, rfl⟩ := List.cons.inj header
    rw [read]
    rfl
  · rename_i noHeader
    exact absurd rfl (noHeader _)

include named' keys' in
theorem lines_setting (steps : Nat) (i : Int) :
    lines (steps + 2) [String.ofList table] [(String.ofList table, .table .header [])]
        (name ++ ' ' :: '=' :: ' ' :: Text.integerNumeral i) =
      (within64? i).map fun i =>
        [(String.ofList table, .table .header [(String.ofList name, .value (.integer i))])] := by
  have read : key deepest (name ++ ' ' :: '=' :: ' ' :: Text.integerNumeral i) =
      some ((String.ofList name, []), '=' :: ' ' :: Text.integerNumeral i) :=
    key_of_all named' keys' [' '] (List.forall_mem_singleton.mpr rfl) rfl rfl (by decide) _ _
  have number : value (' ' :: Text.integerNumeral i).length deepest
      (skipBlanks (' ' :: Text.integerNumeral i)) =
        (within64? i).map fun i => (.integer i, []) := by
    obtain ⟨c, more, shape⟩ := List.exists_cons_of_ne_nil (integerNumeral_ne_nil i)
    have isKey : isKeyChar c = true :=
      isKeyChar_of_mem_integerNumeral (shape ▸ List.mem_cons_self)
    have skipped : skipBlanks (' ' :: Text.integerNumeral i) = Text.integerNumeral i := by
      rw [skipBlanks, List.dropWhile_cons_of_pos rfl, shape,
        List.dropWhile_cons_of_neg (by simp [isBlank_of_isKeyChar isKey])]
    rw [skipped, List.length_cons, value_integerNumeral]
  obtain ⟨c, more, rfl⟩ := List.exists_cons_of_ne_nil named'
  have isKey := keys' c List.mem_cons_self
  have noHeader : c ≠ '[' := ne_of_isKeyChar isKey rfl
  rw [lines, List.cons_append, afterGap_cons (isBlank_of_isKeyChar isKey) (ne_of_isKeyChar isKey rfl)
    (ne_of_isKeyChar isKey rfl), Option.bind_eq_bind, Option.bind_some]
  split
  · rename_i nothing
    cases nothing
  · rename_i header
    exact absurd (List.cons.inj header).1 noHeader
  · rename_i header
    exact absurd (List.cons.inj header).1 noHeader
  · rw [← List.cons_append, read]
    simp only [Option.bind_eq_bind, Option.bind_some, afterMark, if_true, number]
    cases within64? i with
    | none => rfl
    | some i =>
      have set : changeAt [String.ofList table] (setAt (.integer i) (String.ofList (c :: more)) [])
          [(String.ofList table, .table .header [])] = some [(String.ofList table,
            .table .header [(String.ofList (c :: more), .value (.integer i))])] := by
        simp only [changeAt, changeMember, if_true, onPath, setAt, setNew, Option.bind_eq_bind,
          Option.bind_some]
      simp only [Option.map_some, Option.bind_some, set]
      rfl

include keys keys' in
theorem withShortBreaks?_wholeText (i : Int) :
    withShortBreaks? (wholeText table name i) = some (wholeText table name i) := by
  have plain {c : Char} (isKey : isKeyChar c = true) : c ≠ '\r' := ne_of_isKeyChar isKey rfl
  refine withShortBreaks?_of_all ?_
  simp only [wholeText, List.forall_mem_cons, List.forall_mem_append]
  exact ⟨by decide, fun c member => plain (keys c member), by decide, by decide,
    fun c member => plain (keys' c member), by decide, by decide, by decide,
    fun c member => plain (isKeyChar_of_mem_integerNumeral member)⟩

include named keys named' keys' in
/-- The number stands in the document if it fits 64 bits with a sign, and otherwise there is no
document. -/
theorem read?_wholeText (i : Int) :
    read? (String.ofList (wholeText table name i)) = (within64? i).map fun i =>
      .object [(String.ofList table, .object [(String.ofList name, .integer i)])] := by
  obtain ⟨steps, enough⟩ : ∃ steps, (wholeText table name i).length = steps + 2 :=
    ⟨table.length + name.length + (Text.integerNumeral i).length + 4, by
      simp only [wholeText, List.length_cons, List.length_append]
      omega⟩
  rw [read?, String.toList_ofList, withShortBreaks?_wholeText keys keys', Option.bind_eq_bind,
    Option.bind_some, enough, wholeText, lines_header named keys, lines_setting named' keys']
  cases within64? i <;> rfl

end

end Toml

namespace Settings

/-- Nothing is loaded where the default file is malformed. -/
theorem load_of_malformed {files : String → Option String} {text : String}
    (file : files "config/default.toml" = some text)
    (malformed : Toml.read? (withoutMark text) = none) (environment : List (String × String)) :
    load files environment = .error (.malformed "config/default.toml") := by
  have layer : namedLayer files "config/default" = .error (.malformed "config/default.toml") := by
    have named : files ("config/default" ++ ".toml") = some text := file
    rw [namedLayer, named]
    simp only [fileLayer, malformed]
    rfl
  simp only [load, loadTree, fileNames, List.mapM_cons, layer]
  rfl

theorem keys : ∀ part ∈ parts, ∀ setting ∈ part.settings,
    (part.slot.name.toList ≠ [] ∧ part.slot.name.toList.all Toml.isKeyChar = true) ∧
      setting.slot.name.toList ≠ [] ∧ setting.slot.name.toList.all Toml.isKeyChar = true := by
  decide +kernel

/-- A default file with a whole number beyond 64 bits for a setting loads nothing, whatever the
other layers say. -/
theorem load_of_beyond {part : Part} (member : part ∈ parts)
    {setting : Setting part.inside part.slot.name} (among : setting ∈ part.settings) {i : Int}
    (beyond : Toml.within64? i = none) {files : String → Option String}
    (file : files "config/default.toml" = some (String.ofList
      (Toml.wholeText part.slot.name.toList setting.slot.name.toList i)))
    (environment : List (String × String)) :
    load files environment = .error (.malformed "config/default.toml") := by
  obtain ⟨⟨named, all⟩, named', all'⟩ := keys part member setting among
  refine load_of_malformed file ?_ environment
  have unmarked : withoutMark (String.ofList
      (Toml.wholeText part.slot.name.toList setting.slot.name.toList i)) = String.ofList
        (Toml.wholeText part.slot.name.toList setting.slot.name.toList i) := by
    simp only [withoutMark, String.toList_ofList, Toml.wholeText]
    exact if_neg (by decide)
  rw [unmarked, Toml.read?_wholeText named (List.all_eq_true.mp all) named'
    (List.all_eq_true.mp all'), beyond, Option.map_none]

end Settings

end QuoteGateway
