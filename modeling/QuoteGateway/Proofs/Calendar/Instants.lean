import QuoteGateway.Proofs.Calendar.DayNumbers
import QuoteGateway.Proofs.Calendar.Parts

/-!
# Instants as text

An instant in the years 0 to 9999 is written as the date and the time of day that it shows, with
three, six or nine digits of its fraction if it has one. What is written is read as the instant, to
the nanosecond. A leap second has the second 60.
-/

namespace QuoteGateway.Calendar

/-- So many nanoseconds as a fraction: nothing, or a point and three, six or nine digits. -/
def IsFraction (nanos : Nat) (fraction : List Char) : Prop :=
  nanos = 0 ∧ fraction = [] ∨ ∃ width ∈ [3, 6, 9], ∃ n < 10 ^ width,
    nanos = n * 10 ^ (9 - width) ∧ fraction = '.' :: padded width n

theorem isFraction_writeFraction {nanos : Nat} (below : nanos < nanosPerSecond) :
    IsFraction nanos (writeFraction nanos) := by
  unfold nanosPerSecond at below
  unfold writeFraction
  split_ifs with none thousandths millionths
  · exact .inl ⟨none, rfl⟩
  · exact .inr ⟨3, by decide, nanos / 1000000, by omega, by omega, rfl⟩
  · exact .inr ⟨6, by decide, nanos / 1000, by omega, by omega, rfl⟩
  · exact .inr ⟨9, by decide, nanos, below, (Nat.mul_one nanos).symm, rfl⟩

theorem fractionPart_append {nanos : Nat} {fraction : List Char} (h : IsFraction nanos fraction) :
    fractionPart (fraction ++ ['Z']) = .ok (nanos, ['Z']) := by
  rcases h with ⟨rfl, rfl⟩ | ⟨width, among, n, lt, rfl, rfl⟩
  · rfl
  · have bounds : 0 < width ∧ width ≤ 9 := by
      simp only [List.mem_cons, List.not_mem_nil, or_false] at among
      omega
    have read : digits (some 9) (padded width n ++ ['Z']) = .ok (n, ['Z']) :=
      digits_padded_of_le bounds.1 bounds.2 (by omega) lt (by simp)
    have taken : (padded width n ++ ['Z']).length - ['Z'].length = width := by
      rw [List.length_append, Nat.add_sub_cancel, length_padded bounds.1 lt]
    simp only [List.cons_append, fractionPart, read, bind, Except.bind, taken]
    rfl

namespace Instant

/-- The instant lies in a second of a day of the calendar. A leap second is the sixtieth after the
first of its minute. -/
structure Shows (t : Instant) (date : Date) (clock : Clock) : Prop where
  there : date.exists = true
  day : date.LiesAt (t.seconds / 86400)
  inRange : clock.InRange
  second : t.seconds % 86400 = clock.hour * 3600 + clock.minute * 60 + min clock.second 59
  leap : clock.second = 60 ↔ nanosPerSecond ≤ t.nanos

def clock (t : Instant) : Clock where
  hour := t.secondOfDay / 3600
  minute := t.secondOfDay / 60 % 60
  second := if nanosPerSecond ≤ t.nanos then t.secondOfDay % 60 + 1 else t.secondOfDay % 60

theorem shows_clock (t : Instant) : t.Shows t.date t.clock := by
  obtain ⟨there, number⟩ := Date.ofNumber_spec (t.seconds / secondsPerDay)
  have ending := t.leapAtEndOfMinute
  have ofDay : (t.secondOfDay : Int) = t.seconds % 86400 := by
    unfold secondOfDay secondsPerDay
    omega
  refine ⟨there, ?_, ?_, ?_, ?_⟩
  · exact (Date.liesAt_iff there _).mpr number.symm
  · simp only [clock, Clock.InRange]
    split_ifs <;> omega
  · simp only [clock]
    split_ifs <;> omega
  · simp only [clock]
    split_ifs <;> omega

variable {t : Instant} {date : Date} {clock : Clock} {fraction : List Char}

theorem Shows.secondsOf_eq (shows : t.Shows date clock) (fits : date.Fits) :
    secondsOf date clock = .ok t.seconds := by
  have number := (Date.liesAt_iff shows.there _).mp shows.day
  have second := shows.second
  have years := fits.1
  have known : leastYear ≤ date.year ∧ date.year ≤ greatestYear ∧ date.exists = true := by
    unfold leastYear greatestYear
    exact ⟨by omega, by omega, shows.there⟩
  rw [secondsOf, if_pos known, ← number]
  unfold secondsPerDay Clock.secondOfDay
  congr 1
  omega

/-- An instant is read from a date and a time of day that it shows, with its fraction. -/
theorem read_written (shows : t.Shows date clock) (fits : date.Fits)
    (exact : IsFraction (t.nanos % nanosPerSecond) fraction) :
    read (String.ofList (date.written ++ 'T' :: (clock.written ++ (fraction ++ ['Z'])))) =
      .ok t := by
  -- The second 60 stands for the billion nanoseconds that a leap second has above the others.
  have nanos : (if clock.second = 60 then nanosPerSecond + t.nanos % nanosPerSecond
      else t.nanos % nanosPerSecond) = t.nanos := by
    have bound := t.nanosBound
    simp only [shows.leap]
    unfold nanosPerSecond at bound ⊢
    split_ifs <;> omega
  have made : of? t.seconds t.nanos = some t := of?_eq_some_iff.mpr ⟨rfl, rfl⟩
  simp only [read, String.toList_ofList]
  rw [datePart_written fits fun _ => rfl, if_pos (Date.inRange_of_exists shows.there)]
  simp only [bind, Except.bind, true_or, if_true]
  rw [clockPart_written (Clock.fits_of_inRange shows.inRange) fun _ => rfl, if_pos shows.inRange]
  have zone : zonePart (skipWhite ['Z']) = .ok (0, []) := rfl
  simp only [fractionPart_append exact, zone, shows.secondsOf_eq fits, nanos, Int.sub_zero, made]
  rfl

/-- The text gives a date and a time of day that an instant shows, its fraction if it has one, and
the letter of universal time. -/
def IsText (t : Instant) (text : String) : Prop :=
  ∃ date clock fraction, t.Shows date clock ∧ date.Fits ∧
    IsFraction (t.nanos % nanosPerSecond) fraction ∧
      text.toList = date.written ++ 'T' :: (clock.written ++ (fraction ++ ['Z']))

theorem IsText.read {text : String} (h : t.IsText text) : Instant.read text = .ok t := by
  obtain ⟨date, clock, fraction, shows, fits, exact, letters⟩ := h
  rw [← String.ofList_toList (s := text), letters]
  exact read_written shows fits exact

theorem isText_write (years : 0 ≤ t.date.year ∧ t.date.year ≤ 9999) :
    t.IsText (String.ofList t.write) := by
  have shows := t.shows_clock
  obtain ⟨⟨-, month⟩, -, day⟩ := Date.inRange_of_exists shows.there
  have fits : t.date.Fits := ⟨years, by omega, by omega⟩
  have below : t.nanos % nanosPerSecond < nanosPerSecond := Nat.mod_lt _ (by decide)
  refine ⟨t.date, t.clock, _, shows, fits, isFraction_writeFraction below, ?_⟩
  simp only [String.toList_ofList, write, writeYear, if_pos years, Date.written, Clock.written,
    Instant.clock, List.append_assoc, List.cons_append]

end Instant

end QuoteGateway.Calendar
