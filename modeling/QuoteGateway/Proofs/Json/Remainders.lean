import QuoteGateway.Proofs.Json.Spelling

/-!
# What is left of a text

A value is read or stepped over from the start of a text, and what is left is never longer than the
text. So an object has fewer members than characters, whatever the values of the members are.
-/

namespace QuoteGateway.Json

variable {α β : Type}

theorem bind_eq_ok_iff {first : Except Stop β} {f : β → Except Stop α} {a : α} :
    (first >>= f) = .ok a ↔ ∃ b, first = .ok b ∧ f b = .ok a := by
  cases first with
  | error stop => simp [bind, Except.bind]
  | ok b => simp [bind, Except.bind]

/-- Where there is a result, what it leaves has no more than `n` characters. -/
def Leaves (left : α → List Char) (n : Nat) (result : Except Stop α) : Prop :=
  ∀ a, result = .ok a → (left a).length ≤ n

section Leaves

variable {left : α → List Char} {left' : β → List Char} {n : Nat}

theorem leaves_ok {a : α} (h : (left a).length ≤ n) : Leaves left n (.ok a) := by
  rintro _ ⟨⟩
  exact h

theorem leaves_stopBefore (fault : Fault) (rest : List Char) :
    Leaves left n (stopBefore fault rest) := nofun

theorem leaves_stopWithin (fault : Fault) (rest : List Char) :
    Leaves left n (stopWithin fault rest) := nofun

theorem Leaves.bind {first : Except Stop β} {f : β → Except Stop α} (h : Leaves left' n first)
    (next : ∀ b, (left' b).length ≤ n → Leaves left n (f b)) : Leaves left n (first >>= f) := by
  intro a read
  obtain ⟨b, here, there⟩ := bind_eq_ok_iff.mp read
  exact next b (h b here) a there

theorem leaves_bind_of_forall {first : Except Stop β} {f : β → Except Stop α}
    (next : ∀ b, Leaves left n (f b)) : Leaves left n (first >>= f) := by
  intro a read
  obtain ⟨b, -, there⟩ := bind_eq_ok_iff.mp read
  exact next b a there

theorem Leaves.mono {result : Except Stop α} (h : Leaves left n result) {m : Nat} (le : n ≤ m) :
    Leaves left m result := fun a read => (h a read).trans le

end Leaves

theorem length_skipBlanks_le (cs : List Char) : (skipBlanks cs).length ≤ cs.length :=
  List.length_dropWhile_le _ _

theorem length_le_of_skipBlanks_eq {cs rest : List Char} {c : Char}
    (h : skipBlanks cs = c :: rest) : rest.length + 1 ≤ cs.length :=
  (congrArg List.length h).symm.trans_le (length_skipBlanks_le cs)

/-- Readers leave a text that is no longer than theirs. -/
def Shortens (reader : Reader α) : Prop := ∀ cs, Leaves Prod.snd cs.length (reader cs)

theorem leaves_afterWord (letters cs : List Char) :
    Leaves id cs.length (afterWord letters cs) := by
  induction letters generalizing cs with
  | nil => exact leaves_ok le_rfl
  | cons letter letters ih =>
    cases cs with
    | nil => exact leaves_stopBefore _ _
    | cons c rest =>
      rw [afterWord]
      split
      · exact (ih rest).mono (Nat.le_succ _)
      · exact leaves_stopWithin _ _

theorem length_span_snd_le (p : Char → Bool) (cs : List Char) :
    (cs.span p).2.length ≤ cs.length := by
  rw [List.span_eq_takeWhile_dropWhile]
  exact List.length_dropWhile_le _ _

theorem leaves_realBefore (negative : Bool) (significand : Nat) (exponent : Int)
    {rest : List Char} {n : Nat} (le : rest.length ≤ n) :
    Leaves Prod.snd n (realBefore negative significand exponent rest) := by
  unfold realBefore
  split
  · exact leaves_ok le
  · exact leaves_stopBefore _ _

theorem leaves_afterExponentMark (negative : Bool) (significand : Nat) (scale : Int)
    (cs : List Char) :
    Leaves Prod.snd cs.length (afterExponentMark negative significand scale cs) := by
  unfold afterExponentMark
  split
  rename_i downward afterSign signed
  have shorter : afterSign.length ≤ cs.length := by
    split at signed <;> cases signed <;> simp
  dsimp only
  split
  · exact leaves_stopBefore _ _
  · rename_i c tail
    split
    · exact leaves_stopWithin _ _
    · have rest := (length_span_snd_le Char.isDigit (c :: tail)).trans shorter
      split
      · split
        · exact leaves_stopBefore _ _
        · exact leaves_ok rest
      · exact leaves_realBefore _ _ _ rest

theorem leaves_afterPoint (negative : Bool) (significand : Nat) (scale : Int) (cs : List Char) :
    Leaves Prod.snd cs.length (afterPoint negative significand scale cs) := by
  have rest := length_span_snd_le Char.isDigit cs
  unfold afterPoint
  generalize cs.span Char.isDigit = parts at rest
  obtain ⟨digits, after⟩ := parts
  dsimp only at rest ⊢
  split
  · split
    · exact leaves_stopBefore _ _
    · exact leaves_stopWithin _ _
  · split
    · exact (leaves_afterExponentMark _ _ _ _).mono ((Nat.le_succ _).trans rest)
    · exact (leaves_afterExponentMark _ _ _ _).mono ((Nat.le_succ _).trans rest)
    · exact leaves_realBefore _ _ _ rest

theorem leaves_afterWhole (negative : Bool) (significand dropped : Nat) (cs : List Char) :
    Leaves Prod.snd cs.length (afterWhole negative significand dropped cs) := by
  unfold afterWhole
  split
  · exact (leaves_afterPoint _ _ _ _).mono (Nat.le_succ _)
  · exact (leaves_afterExponentMark _ _ _ _).mono (Nat.le_succ _)
  · exact (leaves_afterExponentMark _ _ _ _).mono (Nat.le_succ _)
  · split_ifs
    · exact leaves_realBefore _ _ _ le_rfl
    all_goals exact leaves_ok le_rfl

theorem leaves_numeral (cs : List Char) : Leaves Prod.snd cs.length (numeral cs) := by
  have unsigned (negative : Bool) (cs : List Char) :
      Leaves Prod.snd cs.length (unsignedNumeral negative cs) := by
    cases cs with
    | nil => exact leaves_stopBefore _ _
    | cons c rest =>
      unfold unsignedNumeral
      dsimp only
      split_ifs
      · exact leaves_stopWithin _ _
      · exact (leaves_afterWhole _ _ _ _).mono (Nat.le_succ _)
      · exact (leaves_afterWhole _ _ _ _).mono (length_span_snd_le _ _)
      · exact leaves_stopWithin _ _
  unfold numeral
  split
  · exact (unsigned true _).mono (Nat.le_succ _)
  · exact unsigned false cs

theorem leaves_wrongType (expected : String) (cs : List Char) (n : Nat) :
    Leaves (α := α × List Char) Prod.snd n (wrongType expected cs) :=
  fun read same => absurd same (wrongType_ne_ok expected cs read)

theorem leaves_valueStart (cs : List Char) : Leaves id cs.length (valueStart cs) := by
  have shorter := length_skipBlanks_le cs
  unfold valueStart
  split
  · exact leaves_stopBefore _ _
  · exact leaves_ok shorter

theorem shortens_numberAs (expected : String) (take : Numeral → Except Fault α) :
    Shortens (numberAs expected take) := by
  intro cs
  apply (leaves_valueStart cs).bind
  intro start le
  dsimp only
  split
  · apply ((leaves_numeral start).mono le).bind
    rintro ⟨number, after⟩ shorter
    dsimp only
    split
    · exact leaves_ok shorter
    · exact leaves_stopBefore _ _
  · exact leaves_wrongType _ _ _

theorem shortens_text : Shortens text := by
  rintro cs ⟨s, rest⟩ read
  obtain ⟨before, spelled, rfl, -, -⟩ := exists_spells_of_text read
  simp only [List.length_append, List.length_cons]
  omega

theorem leaves_afterText (skipped : Nat) (cs : List Char) :
    Leaves id cs.length (afterText skipped cs) := by
  induction cs generalizing skipped with
  | nil => exact leaves_stopBefore _ _
  | cons c rest ih =>
    have later (skipped : Nat) : Leaves id (rest.length + 1) (afterText skipped rest) :=
      (ih skipped).mono (Nat.le_succ _)
    cases skipped with
    | succ skipped => exact later skipped
    | zero =>
      unfold afterText
      split_ifs
      · exact leaves_ok (Nat.le_succ _)
      · exact leaves_bind_of_forall later
      · exact leaves_stopBefore _ _
      · exact later 0

theorem leaves_afterExponent (cs : List Char) : Leaves id cs.length (afterExponent cs) := by
  unfold afterExponent
  extract_lets digits
  have shorter : digits.length ≤ cs.length := by
    unfold digits
    split <;> simp
  clear_value digits
  split
  · exact leaves_stopBefore _ _
  · split
    · exact leaves_ok ((List.length_dropWhile_le _ _).trans ((Nat.le_succ _).trans shorter))
    · exact leaves_stopWithin _ _

theorem leaves_afterWholePart (cs : List Char) : Leaves id cs.length (afterWholePart cs) := by
  unfold afterWholePart
  split
  · rename_i rest
    extract_lets after
    have shorter : after.length ≤ rest.length + 1 :=
      (List.length_dropWhile_le _ _).trans (Nat.le_succ _)
    clear_value after
    split
    · exact leaves_stopWithin _ _
    · split
      · exact (leaves_afterExponent _).mono ((Nat.le_succ _).trans shorter)
      · exact (leaves_afterExponent _).mono ((Nat.le_succ _).trans shorter)
      · exact leaves_ok shorter
  · exact (leaves_afterExponent _).mono (Nat.le_succ _)
  · exact (leaves_afterExponent _).mono (Nat.le_succ _)
  · exact leaves_ok le_rfl

theorem leaves_afterNumber (cs : List Char) : Leaves id cs.length (afterNumber cs) := by
  cases cs with
  | nil => exact leaves_stopBefore _ _
  | cons c rest =>
    unfold afterNumber
    dsimp only
    split_ifs
    · exact leaves_stopWithin _ _
    · exact (leaves_afterWholePart _).mono (Nat.le_succ _)
    · exact (leaves_afterWholePart _).mono ((List.length_dropWhile_le _ _).trans (Nat.le_succ _))
    · exact leaves_stopWithin _ _

theorem leaves_afterKey (frame : Frame) (cs : List Char) :
    Leaves id cs.length (frame.afterKey cs) := by
  cases frame with
  | list => exact leaves_ok le_rfl
  | object =>
    unfold Frame.afterKey
    dsimp only
    split
    · exact leaves_stopBefore _ _
    · rename_i rest start
      have shorter := length_le_of_skipBlanks_eq start
      apply ((leaves_afterText 0 rest).mono (Nat.le_of_succ_le shorter)).bind
      intro after le
      split
      · exact leaves_stopBefore _ _
      · rename_i value colon
        exact leaves_ok ((Nat.le_of_succ_le (length_le_of_skipBlanks_eq colon)).trans le)
      · exact leaves_stopWithin _ _
    · exact leaves_stopWithin _ _

/-- The induction is on the steps, of which a value and the end of a frame take one each. -/
theorem leaves_afterValueIn (steps : Nat) :
    (∀ frames cs, Leaves id cs.length (afterValueIn steps frames cs)) ∧
      ∀ frames mayContinue cs, Leaves id cs.length (afterItemIn steps frames mayContinue cs) := by
  induction steps with
  | zero =>
    refine ⟨fun _ _ => ?_, fun frames _ _ => ?_⟩
    · rw [afterValueIn]
      exact leaves_stopBefore _ _
    · cases frames with
      | nil =>
        rw [afterItemIn]
        exact leaves_ok le_rfl
      | cons frame frames =>
        rw [afterItemIn]
        exact leaves_stopBefore _ _
  | succ steps ih =>
    obtain ⟨value, item⟩ := ih
    constructor
    · intro frames cs
      rw [afterValueIn]
      split
      · exact leaves_stopBefore _ _
      rename_i c rest start
      have shorter := length_le_of_skipBlanks_eq start
      have goesOn {first : Except Stop (List Char)} {m : Nat} (leaves : Leaves id m first)
          (le : m ≤ cs.length) : Leaves id cs.length
            (first >>= fun after => afterItemIn steps frames true after) :=
        (leaves.mono le).bind fun after le => (item frames true after).mono le
      have inside : rest.length ≤ cs.length := Nat.le_of_succ_le shorter
      split_ifs
      · exact goesOn (leaves_afterWord _ _) inside
      · exact goesOn (leaves_afterWord _ _) inside
      · exact goesOn (leaves_afterWord _ _) inside
      · exact goesOn (leaves_afterNumber _) inside
      · exact goesOn (leaves_afterNumber _) shorter
      · exact goesOn (leaves_afterText _ _) inside
      · exact (item _ _ _).mono inside
      · exact (item _ _ _).mono inside
      · exact leaves_stopWithin _ _
    · intro frames mayContinue cs
      cases frames with
      | nil =>
        rw [afterItemIn]
        exact leaves_ok le_rfl
      | cons frame frames =>
        rw [afterItemIn]
        split
        · exact leaves_stopBefore _ _
        rename_i c rest start
        have shorter := length_le_of_skipBlanks_eq start
        have inside : rest.length ≤ cs.length := Nat.le_of_succ_le shorter
        split_ifs
        · exact ((leaves_afterKey frame rest).mono inside).bind fun after le =>
            (value _ after).mono le
        · exact (item _ _ _).mono inside
        · exact leaves_stopWithin _ _
        · exact ((leaves_afterKey frame (c :: rest)).mono shorter).bind fun after le =>
            (value _ after).mono le

theorem shortens_skipValue : Shortens skipValue := by
  intro cs
  exact ((leaves_afterValueIn _).1 [] cs).bind fun rest le => leaves_ok le

end QuoteGateway.Json
