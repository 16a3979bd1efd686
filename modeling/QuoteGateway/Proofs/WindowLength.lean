import QuoteGateway.Proofs.Admission
import QuoteGateway.Settings.Sections

/-!
# The length of the window

A longer window reaches further back and sees more of a log. What the gate lets pass under it
therefore passes under every shorter one. But the seconds of a window may be any number of 64 bits
without a sign, and those of its start have a sign: a window that would start before the first
second that they can count starts in the future instead, sees nothing and restrains nobody.
-/

namespace QuoteGateway

open Calendar (Instant)

theorem countSince_le_countSince {early late : Int} (h : early ≤ late) (seconds : List Int) :
    countSince late seconds ≤ countSince early seconds := by
  apply List.countP_mono_left
  intro s _ recent
  simp only [decide_eq_true_eq] at recent ⊢
  omega

/-- A window that has started sees every request of the running second. -/
theorem QuotaState.count_le_countSince (state : QuotaState) {oldest : Int} {second : Int64}
    (h : oldest ≤ second.toInt) : state.usages.count second ≤ countSince oldest state.seconds := by
  rw [countSince, seconds, List.countP_map, List.count]
  apply List.countP_mono_left
  intro t _ same
  obtain rfl : t = second := by simpa using same
  simpa using h

namespace RateLimitSettings

def withWindow (settings : RateLimitSettings) (seconds : UInt64) : RateLimitSettings :=
  { settings with windowSeconds := seconds }

theorem seconds_window (settings : RateLimitSettings) :
    settings.limit.window.seconds = settings.windowSeconds.toNat :=
  Duration.seconds_ofSeconds _

/-- What a window is there for, at an instant: it has started by then, it lets nothing pass that
a shorter one turns away, and a limited key that has used its quota up in the running second is
turned away. -/
structure Restrains (settings : RateLimitSettings) (now : Instant) : Prop where
  started : settings.limit.windowStart now ≤ now.unixSeconds
  shorter : ∀ seconds ≤ settings.windowSeconds, ∀ id exchanges state,
    Job.Course (Gate.authorize settings.limit id now) exchanges (.ok state) →
      Job.Course (Gate.authorize (settings.withWindow seconds).limit id now) exchanges (.ok state)
  full : ∀ id exchanges state, id ≠ "" →
    Job.Course (Gate.loadState id) exchanges (.ok state) → state.tier = .limited →
      settings.maxUsages.toNat ≤ state.usages.count now.unixSeconds →
        Job.Course (Gate.authorize settings.limit id now) exchanges
          (.error (.quotaExceeded id settings.maxUsages settings.windowSeconds.toNat))

variable {settings : RateLimitSettings} {now : Instant}

/-- A window of settings starts its length before now, unless that is too early to be counted. -/
theorem toInt_windowStart (h : (settings.windowSeconds.toNat : Int) ≤ 2 ^ 63 + now.seconds) :
    (settings.limit.windowStart now).toInt = now.seconds - settings.windowSeconds.toNat := by
  rw [← settings.seconds_window] at h ⊢
  exact settings.limit.toInt_windowStart_of_le now h

theorem lt_windowStart (h : 2 ^ 63 + now.seconds < settings.windowSeconds.toNat) :
    now.seconds < (settings.limit.windowStart now).toInt := by
  have range := now.inRange
  unfold Calendar.earliestSecond Calendar.latestSecond at range
  have bound := settings.windowSeconds.toNat_lt
  have wrapped : (now.seconds - settings.windowSeconds.toNat).bmod (2 ^ 64) =
      now.seconds - settings.windowSeconds.toNat + 2 ^ 64 := by
    rw [← Int.add_bmod_right]
    apply Int.bmod_eq_of_le
    · omega
    · omega
  rw [RateLimit.toInt_windowStart_eq_bmod, seconds_window, wrapped]
  omega

theorem windowStart_le (h : (settings.windowSeconds.toNat : Int) ≤ 2 ^ 63 + now.seconds) :
    (settings.limit.windowStart now).toInt ≤ now.unixSeconds.toInt := by
  rw [toInt_windowStart h, now.toInt_unixSeconds]
  omega

theorem windowStart_le_withWindow {seconds : UInt64} (le : seconds ≤ settings.windowSeconds)
    (h : (settings.windowSeconds.toNat : Int) ≤ 2 ^ 63 + now.seconds) :
    (settings.limit.windowStart now).toInt ≤
      ((settings.withWindow seconds).limit.windowStart now).toInt := by
  have shorter : seconds.toNat ≤ settings.windowSeconds.toNat := UInt64.le_iff_toNat_le.mp le
  have fits : ((settings.withWindow seconds).windowSeconds.toNat : Int) ≤ 2 ^ 63 + now.seconds := by
    simp only [withWindow]
    omega
  rw [toInt_windowStart h, toInt_windowStart fits]
  simp only [withWindow]
  omega

theorem exceeds_withWindow {seconds : UInt64} (le : seconds ≤ settings.windowSeconds)
    (h : (settings.windowSeconds.toNat : Int) ≤ 2 ^ 63 + now.seconds) {state : QuotaState}
    (admitted : state.exceeds settings.limit now = false) :
    state.exceeds (settings.withWindow seconds).limit now = false := by
  by_contra full
  rw [Bool.not_eq_false, state.exceeds_iff] at full
  have sees := countSince_le_countSince (windowStart_le_withWindow le h) state.seconds
  have exceeds : state.exceeds settings.limit now = true :=
    (state.exceeds_iff _ _).mpr ⟨full.1, full.2.trans sees⟩
  rw [admitted] at exceeds
  cases exceeds

/-- A longer window never loosens the quota, as long as it starts no earlier than the first second
that 64 bits can count. Beyond that it does. -/
theorem restrains_iff (settings : RateLimitSettings) (now : Instant) :
    settings.Restrains now ↔ (settings.windowSeconds.toNat : Int) ≤ 2 ^ 63 + now.seconds := by
  constructor
  · intro restrains
    by_contra long
    have future := lt_windowStart (not_le.mp long)
    have started := Int64.le_iff_toInt_le.mp restrains.started
    rw [now.toInt_unixSeconds] at started
    omega
  · intro fits
    constructor
    · exact Int64.le_iff_toInt_le.mpr (windowStart_le fits)
    · intro seconds le id exchanges state passed
      obtain ⟨named, load, admitted⟩ := Gate.course_authorize_ok.mp passed
      exact Gate.course_authorize_ok.mpr ⟨named, load, exceeds_withWindow le fits admitted⟩
    · intro id exchanges state named load limited used
      have sees := state.count_le_countSince (windowStart_le fits)
      have full : state.exceeds settings.limit now = true :=
        (state.exceeds_iff _ _).mpr ⟨limited, used.trans sees⟩
      rw [← settings.seconds_window]
      exact Gate.course_authorize_full named load full

def longest : RateLimitSettings := ⟨18446744073709551615, 1, 600, .strict⟩

def evening : Instant := ⟨1700000000, 500000000, by decide, by decide, by decide⟩

/-- A limited key that has used its quota up in the running second. -/
def usedUp : QuotaState := ⟨"key", .limited, [1700000000]⟩

/-- The longest window starts in the next second, and the key passes. -/
theorem not_restrains_longest :
    longest.limit.windowStart evening = evening.unixSeconds + 1 ∧
      Job.Course (Gate.authorize longest.limit "key" evening)
        [⟨.cache (.read (CacheKey.ofApiKey "key")), .ok (some usedUp.document.compact)⟩]
        (.ok usedUp) ∧
      ¬longest.Restrains evening := by
  have passes := Gate.course_authorize_ok.mpr
    ⟨by decide, Gate.course_loadState_kept "key" usedUp,
      (by decide : usedUp.exceeds longest.limit evening = false)⟩
  refine ⟨by decide, passes, fun restrains => ?_⟩
  have turnedAway := restrains.full "key" _ usedUp (by decide)
    (Gate.course_loadState_kept "key" usedUp) rfl (by decide)
  obtain ⟨-, same⟩ := Dialogue.Course.unique passes turnedAway (rfl : _ ++ [] = _ ++ [])
  cases same

end RateLimitSettings

end QuoteGateway
