import QuoteGateway.Calendar.Day

/-!
# Instants

A point in universal time: whole seconds since 1970-01-01 and nanoseconds within the second.
A leap second is the second before it with a billion nanoseconds or more.
-/

namespace QuoteGateway.Calendar

def secondsPerDay : Int := 86400

/-- The first second of year -262143. -/
def earliestSecond : Int := -8334601228800

/-- The last second of year 262142. -/
def latestSecond : Int := 8210266876799

def nanosPerSecond : Nat := 1000000000

structure Instant where
  seconds : Int
  nanos : Nat
  inRange : earliestSecond ≤ seconds ∧ seconds ≤ latestSecond
  nanosBound : nanos < 2 * nanosPerSecond
  leapAtEndOfMinute : nanosPerSecond ≤ nanos → seconds % 60 = 59
deriving DecidableEq

def Instant.of? (seconds : Int) (nanos : Nat) : Option Instant :=
  if h : (earliestSecond ≤ seconds ∧ seconds ≤ latestSecond) ∧ nanos < 2 * nanosPerSecond ∧
      (nanosPerSecond ≤ nanos → seconds % 60 = 59) then
    some ⟨seconds, nanos, h.1, h.2.1, h.2.2⟩
  else none

def Instant.unixSeconds (t : Instant) : Int64 := Int64.ofInt t.seconds

def Instant.date (t : Instant) : Date := Date.ofNumber (t.seconds / secondsPerDay)

def Instant.secondOfDay (t : Instant) : Nat := (t.seconds % secondsPerDay).toNat

theorem Instant.of?_eq_some_iff {seconds : Int} {nanos : Nat} {t : Instant} :
    Instant.of? seconds nanos = some t ↔ t.seconds = seconds ∧ t.nanos = nanos := by
  unfold Instant.of?
  constructor
  · intro h
    split at h
    · cases h
      exact ⟨rfl, rfl⟩
    · cases h
  · rintro ⟨rfl, rfl⟩
    rw [dif_pos ⟨t.inRange, t.nanosBound, t.leapAtEndOfMinute⟩]

theorem Instant.toInt_unixSeconds (t : Instant) : t.unixSeconds.toInt = t.seconds := by
  have h := t.inRange
  unfold earliestSecond latestSecond at h
  rw [Instant.unixSeconds, Int64.toInt_ofInt_of_le] <;> omega

end QuoteGateway.Calendar
