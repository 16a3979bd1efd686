import Mathlib.Algebra.Group.Int.Defs
import Mathlib.Algebra.Group.Nat.Defs
import Mathlib.Data.List.Count
import QuoteGateway.Quota

/-!
# Counting in usage logs

The seconds of a log as integers, and how many of them are at or after a given one. Recording a
request drops nothing that a window from its own start on can still see.
-/

namespace QuoteGateway

/-- How many seconds of a list are at or after a given one. -/
def countSince (oldest : Int) (seconds : List Int) : Nat :=
  seconds.countP fun s => oldest ≤ s

theorem countSince_append (oldest : Int) (before later : List Int) :
    countSince oldest (before ++ later) = countSince oldest before + countSince oldest later :=
  List.countP_append

theorem countSince_eq_zero {oldest : Int} {seconds : List Int} (h : ∀ s ∈ seconds, s < oldest) :
    countSince oldest seconds = 0 := by
  rw [countSince, List.countP_eq_zero]
  intro s hs
  have earlier := h s hs
  simp only [decide_eq_true_eq]
  omega

/-- The start of a window is counted in 64 bits with a sign and wraps around. -/
theorem RateLimit.toInt_windowStart_eq_bmod (limit : RateLimit) (now : Calendar.Instant) :
    (limit.windowStart now).toInt = (now.seconds - limit.window.seconds).bmod (2 ^ 64) := by
  rw [windowStart, Int64.toInt_sub, now.toInt_unixSeconds, Int64.toInt_ofNat']
  exact Int.sub_bmod_bmod

/-- The window starts its length before now, if that is no earlier than the first second that
64 bits can count. -/
theorem RateLimit.toInt_windowStart_of_le (limit : RateLimit) (now : Calendar.Instant)
    (h : (limit.window.seconds : Int) ≤ 2 ^ 63 + now.seconds) :
    (limit.windowStart now).toInt = now.seconds - limit.window.seconds := by
  have range := now.inRange
  unfold Calendar.earliestSecond Calendar.latestSecond at range
  rw [toInt_windowStart_eq_bmod]
  apply Int.bmod_eq_of_le
  · omega
  · omega

/-- The window starts its length before now, unless its seconds are beyond 62 bits. -/
theorem RateLimit.toInt_windowStart (limit : RateLimit) (now : Calendar.Instant)
    (h : limit.window.seconds ≤ 2 ^ 62) :
    (limit.windowStart now).toInt = now.seconds - limit.window.seconds := by
  have range := now.inRange
  unfold Calendar.earliestSecond at range
  apply limit.toInt_windowStart_of_le
  omega

namespace QuotaState

/-- The seconds of a log. -/
def seconds (state : QuotaState) : List Int := state.usages.map Int64.toInt

theorem usagesSince_eq (state : QuotaState) (start : Int64) :
    state.usagesSince start = countSince start.toInt state.seconds := by
  rw [usagesSince, countSince, seconds, List.countP_map]
  apply List.countP_congr
  intro t _
  simp [Int64.le_iff_toInt_le]

/-- A limited key is refused once its log has too many requests in the window. -/
def exceeds (state : QuotaState) (limit : RateLimit) (now : Calendar.Instant) : Bool :=
  state.tier.isLimited && !state.isWithin (limit.windowStart now) limit.maxUsages

theorem exceeds_iff (state : QuotaState) (limit : RateLimit) (now : Calendar.Instant) :
    state.exceeds limit now = true ↔ state.tier = .limited ∧
      limit.maxUsages.toNat ≤ countSince (limit.windowStart now).toInt state.seconds := by
  have tier : state.tier.isLimited = true ↔ state.tier = .limited := by
    cases state.tier <;> simp [Tier.isLimited]
  rw [exceeds, Bool.and_eq_true, tier, isWithin, usagesSince_eq]
  simp

/-- Within its own window, a recorded request adds one to the log and takes nothing from it. -/
theorem countSince_record (state : QuotaState) (second start : Int64) {oldest : Int}
    (h : start.toInt ≤ oldest) :
    countSince oldest (state.record second start).seconds =
      countSince oldest (state.seconds ++ [second.toInt]) := by
  rw [seconds, usages_record, List.map_append, countSince_append, countSince_append]
  congr 1
  rw [countSince, countSince, seconds, List.countP_map, List.countP_map, List.countP_filter]
  apply List.countP_congr
  intro t _
  simp only [Function.comp_apply, Bool.and_eq_true, decide_eq_true_eq, Int64.le_iff_toInt_le,
    and_iff_left_iff_imp]
  intro recent
  omega

end QuotaState

end QuoteGateway
