import QuoteGateway.Feed
import QuoteGateway.Proofs.Calendar.Parts

/-!
# Stamps of fetched rates are seconds since 1970

A stamp of the feed is read as the number of seconds that lie between the beginning of 1970-01-01
and the time it names, with 86400 seconds for each day of the calendar. Stamps that name no time
are refused.
-/

namespace QuoteGateway

open Calendar

/-- What a stamp of the feed names, in numbers that have as many digits as the stamp has. -/
structure UpdatedStamp where
  date : Date
  clock : Clock
  dateFits : date.Fits
  clockFits : clock.Fits

namespace UpdatedStamp

def text (stamp : UpdatedStamp) : String :=
  String.ofList (stamp.date.written ++ ' ' :: stamp.clock.written)

/-- The calendar has the date, and the day has the time. Every minute may have a leap second. -/
def IsPossible (stamp : UpdatedStamp) : Prop := stamp.date.exists = true ∧ stamp.clock.InRange

instance (stamp : UpdatedStamp) : Decidable stamp.IsPossible := inferInstanceAs (Decidable (_ ∧ _))

/-- The stamp names a time that is no leap second. -/
def IsOrdinary (stamp : UpdatedStamp) : Prop := stamp.IsPossible ∧ stamp.clock.second ≤ 59

instance (stamp : UpdatedStamp) : Decidable stamp.IsOrdinary := inferInstanceAs (Decidable (_ ∧ _))

/-- The stamp names the time so many seconds after the beginning of 1970-01-01. -/
def LiesAt (stamp : UpdatedStamp) (seconds : Int) : Prop :=
  ∃ days, stamp.date.LiesAt days ∧
    seconds = days * 86400 + stamp.clock.hour * 3600 + stamp.clock.minute * 60 + stamp.clock.second

/-- The order of time, read off the numbers of two stamps. -/
def Before (stamp other : UpdatedStamp) : Prop :=
  stamp.date.Before other.date ∨ stamp.date = other.date ∧
    (stamp.clock.hour < other.clock.hour ∨ stamp.clock.hour = other.clock.hour ∧
      (stamp.clock.minute < other.clock.minute ∨ stamp.clock.minute = other.clock.minute ∧
        stamp.clock.second < other.clock.second))

def seconds (stamp : UpdatedStamp) : Int :=
  stamp.date.number * secondsPerDay + stamp.clock.secondOfDay

end UpdatedStamp

/-- How stamps of the feed are read. -/
structure ReadsStamps (read : String → Except Feed.Fault Int64) : Prop where
  counted : ∀ stamp : UpdatedStamp, stamp.IsOrdinary →
    ∃ seconds, read stamp.text = .ok seconds ∧ ∀ count, stamp.LiesAt count ↔ count = seconds.toInt
  increasing : ∀ stamp later : UpdatedStamp, stamp.IsOrdinary → later.IsOrdinary →
    stamp.Before later → ∃ seconds more, read stamp.text = .ok seconds ∧
      read later.text = .ok more ∧ seconds < more
  injective : ∀ stamp other : UpdatedStamp, stamp.IsOrdinary → other.IsOrdinary →
    read stamp.text = read other.text → stamp = other
  refused : ∀ stamp : UpdatedStamp, ¬ stamp.IsPossible →
    ∃ fault, read stamp.text = .error fault ∧ fault.failure.category = .provider Feed.provider
  leapSecond : ∀ stamp plain : UpdatedStamp, stamp.IsPossible → stamp.clock.second = 60 →
    plain.date = stamp.date → plain.clock = { stamp.clock with second := 59 } →
      ∃ seconds, read stamp.text = .ok seconds ∧ read plain.text = .ok seconds

namespace Calendar

theorem skipWhite_clock (clock : Clock) : skipWhite (' ' :: clock.written) = clock.written :=
  skipWhite_padded

theorem readUpdatedStamp_text (stamp : UpdatedStamp) :
    readUpdatedStamp stamp.text =
      if stamp.IsPossible then .ok stamp.seconds else .error .outOfRange := by
  have found : ∀ mark rest, id (mark :: rest : List Char) = mark :: rest := fun _ _ => rfl
  simp only [readUpdatedStamp, UpdatedStamp.text, String.toList_ofList]
  rw [datePart_written stamp.dateFits (found _)]
  by_cases date : stamp.date.InRange
  · rw [if_pos date]
    simp only [bind, Except.bind, skipWhite_clock]
    rw [← List.append_nil stamp.clock.written, clockPart_written stamp.clockFits (found _)]
    by_cases clock : stamp.clock.InRange
    · rw [if_pos clock]
      change secondsOf stamp.date stamp.clock = _
      have years : leastYear ≤ stamp.date.year ∧ stamp.date.year ≤ greatestYear := by
        have bounds := stamp.dateFits.1
        unfold leastYear greatestYear
        omega
      by_cases there : stamp.date.exists = true
      · rw [if_pos ⟨there, clock⟩, secondsOf, if_pos ⟨years.1, years.2, there⟩]
        rfl
      · rw [if_neg fun possible => there possible.1, secondsOf,
          if_neg fun within => there within.2.2]
    · rw [if_neg clock, if_neg fun possible => clock possible.2]
  · rw [if_neg date, if_neg fun possible => date (Date.inRange_of_exists possible.1)]
    rfl

end Calendar

namespace UpdatedStamp

variable {stamp other : UpdatedStamp}

theorem toInt_seconds (h : stamp.IsPossible) : (Int64.ofInt stamp.seconds).toInt = stamp.seconds := by
  have years := stamp.dateFits.1
  obtain ⟨starts, ends⟩ := Date.number_bounds h.1
  obtain ⟨hour, minute, second⟩ := h.2
  unfold daysBeforeYear epochDay at starts ends
  have day : stamp.clock.secondOfDay < 86400 := by
    unfold Clock.secondOfDay
    omega
  unfold seconds secondsPerDay
  rw [Int64.toInt_ofInt_of_le] <;> omega

theorem readStamp_text (h : stamp.IsPossible) :
    Feed.readStamp stamp.text = .ok (Int64.ofInt stamp.seconds) := by
  rw [Feed.readStamp, readUpdatedStamp_text, if_pos h]

theorem readStamp_text_of_not_possible (h : ¬ stamp.IsPossible) :
    Feed.readStamp stamp.text = .error (.badStamp stamp.text .outOfRange) := by
  rw [Feed.readStamp, readUpdatedStamp_text, if_neg h]

theorem secondOfDay_of_isOrdinary (h : stamp.IsOrdinary) : stamp.clock.secondOfDay =
    stamp.clock.hour * 3600 + stamp.clock.minute * 60 + stamp.clock.second := by
  rw [Clock.secondOfDay, Nat.min_eq_left h.2]

theorem liesAt_iff (h : stamp.IsOrdinary) (count : Int) :
    stamp.LiesAt count ↔ count = stamp.seconds := by
  unfold LiesAt seconds secondsPerDay
  simp only [Date.liesAt_iff h.1.1, exists_eq_left, secondOfDay_of_isOrdinary h]
  omega

theorem seconds_lt_seconds (h : stamp.IsOrdinary) (h' : other.IsOrdinary)
    (before : stamp.Before other) : stamp.seconds < other.seconds := by
  obtain ⟨hour, minute, -⟩ := h.1.2
  obtain ⟨-, minute', -⟩ := h'.1.2
  have second := h.2
  have second' := h'.2
  unfold seconds secondsPerDay
  rw [secondOfDay_of_isOrdinary h, secondOfDay_of_isOrdinary h']
  rcases before with earlier | ⟨sameDay, earlier⟩
  · have days := Date.number_lt_number h.1.1 h'.1.1 earlier
    omega
  · rw [sameDay]
    omega

theorem before_or_eq_or_before (stamp other : UpdatedStamp) :
    stamp.Before other ∨ stamp = other ∨ other.Before stamp := by
  obtain ⟨date, ⟨hour, minute, second⟩, -, -⟩ := stamp
  obtain ⟨date', ⟨hour', minute', second'⟩, -, -⟩ := other
  simp only [Before, mk.injEq, Clock.mk.injEq]
  rcases Date.before_or_eq_or_before date date' with earlier | rfl | later
  · exact .inl (.inl earlier)
  · simp only [true_and]
    omega
  · exact .inr (.inr (.inl later))

theorem eq_of_seconds_eq (h : stamp.IsOrdinary) (h' : other.IsOrdinary)
    (same : stamp.seconds = other.seconds) : stamp = other := by
  rcases before_or_eq_or_before stamp other with before | equal | after
  · exact absurd same (seconds_lt_seconds h h' before).ne
  · exact equal
  · exact absurd same (seconds_lt_seconds h' h after).ne'

end UpdatedStamp

/-- The stamps of fetched rates are read as the seconds since 1970-01-01, in the order of time and
no two as the same. Stamps that name no time fail as faults of the provider. A leap second is read
as the second before it. -/
theorem Feed.readsStamps_readStamp : ReadsStamps Feed.readStamp where
  counted stamp h := by
    refine ⟨Int64.ofInt stamp.seconds, UpdatedStamp.readStamp_text h.1, fun count => ?_⟩
    rw [UpdatedStamp.toInt_seconds h.1]
    exact UpdatedStamp.liesAt_iff h count
  increasing stamp later h h' before := by
    refine ⟨Int64.ofInt stamp.seconds, Int64.ofInt later.seconds, UpdatedStamp.readStamp_text h.1,
      UpdatedStamp.readStamp_text h'.1, ?_⟩
    rw [Int64.lt_iff_toInt_lt, UpdatedStamp.toInt_seconds h.1, UpdatedStamp.toInt_seconds h'.1]
    exact UpdatedStamp.seconds_lt_seconds h h' before
  injective stamp other h h' same := by
    rw [UpdatedStamp.readStamp_text h.1, UpdatedStamp.readStamp_text h'.1] at same
    have seconds := congrArg Int64.toInt (Except.ok.inj same)
    rw [UpdatedStamp.toInt_seconds h.1, UpdatedStamp.toInt_seconds h'.1] at seconds
    exact UpdatedStamp.eq_of_seconds_eq h h' seconds
  refused stamp h := ⟨_, UpdatedStamp.readStamp_text_of_not_possible h, rfl⟩
  leapSecond stamp plain h leap date clock := by
    have possible : plain.IsPossible := by
      rw [UpdatedStamp.IsPossible, date, clock]
      exact ⟨h.1, h.2.1, h.2.2.1, Nat.le_succ 59⟩
    have same : plain.seconds = stamp.seconds := by
      rw [UpdatedStamp.seconds, UpdatedStamp.seconds, date, clock, Clock.secondOfDay,
        Clock.secondOfDay, leap]
      rfl
    refine ⟨Int64.ofInt stamp.seconds, UpdatedStamp.readStamp_text h, ?_⟩
    rw [UpdatedStamp.readStamp_text possible, same]

/-- The last second of 1969 comes one before the count begins. -/
theorem Feed.readStamp_endOf1969 :
    ∃ seconds, Feed.readStamp "1969-12-31 23:59:59" = .ok seconds ∧ seconds.toInt = -1 := by
  let stamp : UpdatedStamp := ⟨⟨1969, 12, 31⟩, ⟨23, 59, 59⟩, by decide, by decide⟩
  have text : stamp.text = "1969-12-31 23:59:59" := by decide +kernel
  have ordinary : stamp.IsOrdinary := by decide
  have before : stamp.LiesAt (-1) := ⟨-1, by decide, by decide⟩
  obtain ⟨seconds, read, count⟩ := Feed.readsStamps_readStamp.counted stamp ordinary
  exact ⟨seconds, text ▸ read, ((count _).mp before).symm⟩

end QuoteGateway
