import QuoteGateway.Quota

/-!
# Pruning goes unseen

A log that is pruned whenever a request is recorded soon differs from one that keeps every request.
But as long as no window starts before an earlier one, whatever was dropped lies before all windows
to come: in each of them the two logs hold the same requests, and no request can tell which of the
two it is counted by.
-/

namespace QuoteGateway

/-- A request that is counted by a log: its second, the start of its window, and whether it is
recorded once so many earlier ones were found in its window. -/
structure Visit where
  second : Int64
  start : Int64
  isRecorded : Nat → Bool

/-- What a request finds in a log: how many earlier ones its window holds, and whether it is
allowed. -/
structure Finding where
  count : Nat
  isWithin : Bool
deriving DecidableEq

/-- How requests are put into a log, each by its second and the start of its window. -/
abbrev Recording := QuotaState → Int64 → Int64 → QuotaState

theorem max_seconds_le_iff {first second t : Int64} :
    max first second ≤ t ↔ first ≤ t ∧ second ≤ t := by
  change (if first ≤ second then second else first) ≤ t ↔ first ≤ t ∧ second ≤ t
  simp only [Int64.le_iff_toInt_le]
  split <;> omega

namespace QuotaState

/-- The state with one more request. Nothing is dropped, wherever the window starts. -/
def keep (state : QuotaState) (now _start : Int64) : QuotaState :=
  { state with usages := state.usages ++ [now] }

def visited (recording : Recording) (log : QuotaState) (visit : Visit) : QuotaState :=
  if visit.isRecorded (log.usagesSince visit.start) then recording log visit.second visit.start
  else log

def findings (recording : Recording) (maxUsages : UInt64) (log : QuotaState) :
    List Visit → List Finding
  | [] => []
  | visit :: visits =>
    ⟨log.usagesSince visit.start, log.isWithin visit.start maxUsages⟩ ::
      findings recording maxUsages (log.visited recording visit) visits

theorem record_eq_keep (log : QuotaState) (now start : Int64) :
    log.record now start = (log.prune start).keep now start := rfl

theorem prune_prune (log : QuotaState) (first second : Int64) :
    (log.prune first).prune second = log.prune (max first second) := by
  simp only [prune, List.filter_filter, mk.injEq, true_and]
  apply List.filter_congr
  intro t _
  simp only [max_seconds_le_iff, Bool.decide_and]
  exact Bool.and_comm _ _

theorem prune_prune_of_le (log : QuotaState) {first second : Int64} (h : first ≤ second) :
    (log.prune first).prune second = log.prune second := by
  rw [prune_prune]
  congr 1
  exact if_pos h

theorem prune_prune_self (log : QuotaState) (start : Int64) :
    (log.prune start).prune start = log.prune start :=
  log.prune_prune_of_le (Int64.le_refl start)

theorem count_usages_prune (log : QuotaState) (start t : Int64) :
    (log.prune start).usages.count t = if start ≤ t then log.usages.count t else 0 := by
  rw [usages_prune]
  split
  · rename_i kept
    exact List.count_filter (decide_eq_true kept)
  · rename_i dropped
    rw [List.count_eq_zero, List.mem_filter]
    rintro ⟨-, kept⟩
    exact dropped (of_decide_eq_true kept)

theorem usagesSince_prune (log : QuotaState) (start : Int64) :
    (log.prune start).usagesSince start = log.usagesSince start := by
  simp only [usagesSince, usages_prune, List.countP_filter, Bool.and_self]

/-- What is dropped before a request is added would be dropped after it just as well. -/
theorem prune_keep_prune (log : QuotaState) (now start : Int64) :
    ((log.prune start).keep now start).prune start = (log.keep now start).prune start := by
  simp only [prune, keep, List.filter_append, List.filter_filter, Bool.and_self]

/-- Two logs hold the same requests at or after a second, in the same order. -/
def AgreesFrom (start : Int64) (log whole : QuotaState) : Prop :=
  log.prune start = whole.prune start

namespace AgreesFrom

variable {start : Int64} {log whole : QuotaState}

theorem later (agrees : AgreesFrom start log whole) {second : Int64} (h : start ≤ second) :
    AgreesFrom second log whole := by
  rw [AgreesFrom, ← log.prune_prune_of_le h, agrees, prune_prune_of_le _ h]

theorem usagesSince_eq (agrees : AgreesFrom start log whole) :
    log.usagesSince start = whole.usagesSince start := by
  rw [← log.usagesSince_prune, agrees, usagesSince_prune]

theorem record (agrees : AgreesFrom start log whole) (now : Int64) :
    AgreesFrom start (log.record now start) (whole.keep now start) := by
  rw [AgreesFrom, record_eq_keep, agrees, prune_keep_prune]

theorem visited (visit : Visit) (agrees : AgreesFrom visit.start log whole) :
    AgreesFrom visit.start (log.visited QuotaState.record visit) (whole.visited keep visit) := by
  unfold QuotaState.visited
  rw [agrees.usagesSince_eq]
  split
  · exact agrees.record visit.second
  · exact agrees

end AgreesFrom

/-- Two logs that agree from the start of every window to come cannot be told apart. -/
theorem findings_record_eq (maxUsages : UInt64) {log whole : QuotaState} {visits : List Visit}
    (agree : ∀ visit ∈ visits, AgreesFrom visit.start log whole)
    (forward : visits.Pairwise fun visit later => visit.start ≤ later.start) :
    log.findings record maxUsages visits = whole.findings keep maxUsages visits := by
  -- The logs drift apart in what they hold, so all that is carried along is that they agree in the
  -- windows to come. No later window needs what is dropped at the start of this one.
  induction visits generalizing log whole with
  | nil => rfl
  | cons visit visits ih =>
    have here := agree visit List.mem_cons_self
    obtain ⟨later, forward⟩ := List.pairwise_cons.mp forward
    have rest := ih (fun next member => (here.visited visit).later (later next member)) forward
    rw [findings, findings, isWithin, isWithin, here.usagesSince_eq, rest]

/-- A log is pruned whenever a request is recorded. Pruning leaves the requests from the start on,
each as many times as before and in the same order. To prune once more changes nothing, and with
another start it is as if the log had been pruned at the later of the two. -/
structure PrunesCleanly (log : QuotaState) (start : Int64) : Prop where
  recorded : ∀ now, log.record now start = (log.prune start).keep now start
  order : (log.prune start).usages.Sublist log.usages
  times : ∀ t, (log.prune start).usages.count t = if start ≤ t then log.usages.count t else 0
  again : (log.prune start).prune start = log.prune start
  further : ∀ second, (log.prune start).prune second = log.prune (max start second)

/-- As long as no window starts before an earlier one, every request counts as many earlier ones
and gets the same answer as if the log had never been pruned, whatever the log holds at first and
whichever requests are recorded. -/
theorem pruning_unseen {visits : List Visit}
    (forward : visits.Pairwise fun visit later => visit.start ≤ later.start) (log : QuotaState)
    (maxUsages : UInt64) :
    log.findings record maxUsages visits = log.findings keep maxUsages visits ∧
      ∀ (reached : QuotaState) (start : Int64), reached.PrunesCleanly start := by
  constructor
  · exact findings_record_eq maxUsages (fun _ _ => rfl) forward
  · intro reached start
    constructor
    · exact fun now => reached.record_eq_keep now start
    · exact List.filter_sublist
    · exact reached.count_usages_prune start
    · exact reached.prune_prune_self start
    · exact reached.prune_prune start

def jumbled : QuotaState := ⟨"key", .limited, [950, 100, 2000, 950, 100, 990]⟩

/-- Requests that are recorded if they are allowed, the last one after the future second of the log
has left the window. -/
def threeAMinute : List Visit :=
  [(1000, 940), (1011, 951), (1012, 952), (1080, 1020), (2070, 2010)].map fun (second, start) =>
    ⟨second, start, fun count => count < 3⟩

/-- The pruned log has forgotten all but the last request, and yet the same ones were allowed. -/
theorem pruning_unseen_jumbled :
    jumbled.findings record 3 threeAMinute = jumbled.findings keep 3 threeAMinute ∧
      (jumbled.findings keep 3 threeAMinute).map Finding.isWithin =
        [false, true, false, true, true] ∧
      (threeAMinute.foldl (visited record) jumbled).usages = [2070] ∧
      (threeAMinute.foldl (visited keep) jumbled).usages =
        [950, 100, 2000, 950, 100, 990, 1011, 1080, 2070] := by
  have forward : threeAMinute.Pairwise fun visit later => visit.start ≤ later.start := by decide
  exact ⟨(pruning_unseen forward jumbled 3).1, by decide, by decide, by decide⟩

end QuotaState

end QuoteGateway
