import Boron.Lib.Calendar

namespace Boron.Backup
open LocalTime Calendar

inductive Frequency
  | manual
  | hourly
  | daily
  | weekly
  | monthly
  deriving DecidableEq

structure Monthday where
  day : Nat
  positive : 1 ≤ day
  atMost : day ≤ 31

/-- The options of a policy that the scheduler reads. -/
structure Options where
  zone : TimeZone
  scheduleHour : Option (Fin 24)
  scheduleMinute : Option (Fin 60)
  scheduleWeekday : Option (Fin 7)
  scheduleMonthday : Option Monthday
  accounts : List String
  excludedAccounts : List String
  destinationIds : List Nat

structure SnapshotPolicy where
  id : Nat
  destinationId : Nat
  options : Options
  frequency : Frequency
  enabled : Bool
  lastQueuedAt : Option Int
  createdAt : Int

namespace SnapshotPolicy
variable (policy : SnapshotPolicy)

def minuteOffset : Int := (policy.options.scheduleMinute.getD 0).val * minute

/-- The time of the day, `schedule_hour` and `schedule_minute`. -/
def timeOfDay : Int := (policy.options.scheduleHour.getD 2).val * hour + policy.minuteOffset

def scheduleWeekday : Int := (policy.options.scheduleWeekday.getD 0).val

def scheduleMonthday : Int := (policy.options.scheduleMonthday.elim 1 Monthday.day : Nat)

end SnapshotPolicy

/-- `replace(hour, minute, second=0, microsecond=0)` -/
def replaceTime (policy : SnapshotPolicy) (wall : Int) : Int := wall / day * day + policy.timeOfDay

/-- `replace(day, hour, minute, second=0, microsecond=0)` in a month. -/
def replaceDay (policy : SnapshotPolicy) (month : Int) : Int :=
  (monthStart month + min policy.scheduleMonthday (monthLength month) - 1) * day + policy.timeOfDay

def stepBack (time candidate : LocalTime) (period : Int) : LocalTime :=
  if time.wall < candidate.wall then { wall := candidate.wall - period, fold := false } else candidate

/-- The latest local time of the schedule, as `scheduled_boundary` computes it. -/
def scheduledCandidate (policy : SnapshotPolicy) (time : LocalTime) : Option LocalTime :=
  match policy.frequency with
  | .manual => none
  | .hourly =>
    some (stepBack time { time with wall := time.wall / hour * hour + policy.minuteOffset } hour)
  | .daily => some (stepBack time { time with wall := replaceTime policy time.wall } day)
  | .weekly =>
    let days := (weekday (time.wall / day) - policy.scheduleWeekday) % 7
    some (stepBack time { wall := replaceTime policy (time.wall - days * day), fold := false } (7 * day))
  | .monthly =>
    let month := monthOf (time.wall / day)
    let candidate : LocalTime := { time with wall := replaceDay policy month }
    if time.wall < candidate.wall then
      some { wall := replaceDay policy (monthOf (monthStart month - 1)), fold := false }
    else some candidate

def scheduledBoundary (policy : SnapshotPolicy) (now : Int) : Option Int :=
  (scheduledCandidate policy (policy.options.zone.fromUtc now)).map policy.options.zone.toUtc

def scheduledDue (policy : SnapshotPolicy) (now : Int) : Bool :=
  match scheduledBoundary policy now with
  | none => false
  | some boundary => policy.enabled && policy.createdAt ≤ boundary &&
      policy.lastQueuedAt.all fun last => last < boundary

structure SnapshotDestination where
  id : Nat
  ready : Bool
  enabled : Bool

/-- An account, and whether a snapshot, a restore or a backup of it is pending or running. -/
structure Account where
  id : Nat
  username : String
  active : Bool
  busy : Bool

/-- The rows that queueing reads. -/
structure Surroundings where
  destinations : List SnapshotDestination
  accounts : List Account

structure SnapshotRun where
  policyId : Nat
  destinationId : Nat
  accountId : Nat
  scheduled : Bool

def SnapshotPolicy.targets (policy : SnapshotPolicy) : List Nat :=
  if policy.options.destinationIds = [] then [policy.destinationId] else policy.options.destinationIds

def usable (around : Surroundings) (destinationId : Nat) : Bool :=
  (around.destinations.find? (·.id = destinationId)).any fun row => row.ready && row.enabled

def SnapshotPolicy.selects (policy : SnapshotPolicy) (account : Account) : Bool :=
  account.active && (policy.options.accounts.isEmpty || account.username ∈ policy.options.accounts) &&
    account.username ∉ policy.options.excludedAccounts

def newRuns (policy : SnapshotPolicy) (around : Surroundings) (scheduled : Bool) : List SnapshotRun :=
  ((around.accounts.filter policy.selects).filter fun account => ¬ account.busy).flatMap fun account =>
    policy.targets.map fun destinationId =>
      { policyId := policy.id, destinationId, accountId := account.id, scheduled }

/-- The end of `_queue_policy`, once a scheduled call is found due. `finished` is
the clock at the end of the transaction. -/
def queueRuns (policy : SnapshotPolicy) (around : Surroundings) (scheduled : Bool) (finished : Int) :
    Except String (SnapshotPolicy × List SnapshotRun) :=
  if policy.targets.all (usable around) then
    let runs := newRuns policy around scheduled
    .ok (if runs = [] then policy else { policy with lastQueuedAt := some finished }, runs)
  else .error "Every backup destination must be ready and enabled"

def queuePolicy (policy : SnapshotPolicy) (around : Surroundings) (scheduled : Bool) (now finished : Int) :
    Except String (SnapshotPolicy × List SnapshotRun) :=
  if scheduled ∧ scheduledDue policy now = false then .ok (policy, [])
  else queueRuns policy around scheduled finished

end Boron.Backup

namespace Boron.Backup
open LocalTime Calendar

variable {policy : SnapshotPolicy}

/-- The local time of the schedule in each hour, day, week or month. -/
def SnapshotPolicy.nominal (policy : SnapshotPolicy) (period : Int) : Int :=
  match policy.frequency with
  | .manual => period
  | .hourly => period * hour + policy.minuteOffset
  | .daily => period * day + policy.timeOfDay
  | .weekly => (7 * period + policy.scheduleWeekday - 2) * day + policy.timeOfDay
  | .monthly => replaceDay policy period

theorem minuteOffset_bounds (policy : SnapshotPolicy) : 0 ≤ policy.minuteOffset ∧ policy.minuteOffset < hour := by
  unfold SnapshotPolicy.minuteOffset LocalTime.minute hour
  omega

theorem timeOfDay_bounds (policy : SnapshotPolicy) : 0 ≤ policy.timeOfDay ∧ policy.timeOfDay < day := by
  have minutes := minuteOffset_bounds policy
  unfold hour at minutes
  unfold SnapshotPolicy.timeOfDay hour day
  omega

theorem scheduleMonthday_pos (policy : SnapshotPolicy) : 1 ≤ policy.scheduleMonthday := by
  unfold SnapshotPolicy.scheduleMonthday
  cases policy.options.scheduleMonthday with
  | none => decide
  | some chosen => exact Int.ofNat_le.mpr chosen.positive

theorem replaceDay_bounds (policy : SnapshotPolicy) (month : Int) :
    monthStart month * day ≤ replaceDay policy month ∧ replaceDay policy month < monthStart (month + 1) * day := by
  have time := timeOfDay_bounds policy
  have length := monthLength_bounds month
  have chosen := scheduleMonthday_pos policy
  have total : monthLength month = monthStart (month + 1) - monthStart month := rfl
  unfold replaceDay
  unfold day at *
  omega

theorem nominal_lt (policy : SnapshotPolicy) {first second : Int} (order : first < second) :
    policy.nominal first < policy.nominal second := by
  refine strictMono_int_of_lt_succ (fun period => ?_) order
  unfold SnapshotPolicy.nominal
  cases policy.frequency with
  | manual => exact Int.lt_succ period
  | hourly => simp only [hour]; omega
  | daily => simp only [day]; omega
  | weekly => simp only [day]; omega
  | monthly => exact lt_of_lt_of_le (replaceDay_bounds policy period).2 (replaceDay_bounds policy (period + 1)).1

/-- The period a local time falls in: its schedule has come, the next one has not. -/
def SnapshotPolicy.Within (policy : SnapshotPolicy) (wall period : Int) : Prop :=
  policy.nominal period ≤ wall ∧ wall < policy.nominal (period + 1)

/-- A candidate of the current period that is still ahead gives way to the one
before it. -/
theorem stepBack_within {time candidate : LocalTime} {length period : Int}
    (scheduled : candidate.wall = policy.nominal period)
    (previous : policy.nominal (period - 1) = candidate.wall - length)
    (started : policy.nominal (period - 1) ≤ time.wall) (ends : time.wall < policy.nominal (period + 1)) :
    ∃ period, (stepBack time candidate length).wall = policy.nominal period ∧ policy.Within time.wall period := by
  unfold stepBack
  by_cases ahead : time.wall < candidate.wall
  · rw [if_pos ahead]
    refine ⟨period - 1, previous.symm, started, ?_⟩
    rw [Int.sub_add_cancel, ← scheduled]
    exact ahead
  · rw [if_neg ahead]
    exact ⟨period, scheduled, scheduled ▸ not_lt.mp ahead, ends⟩

variable {time candidate : LocalTime}

theorem hourly_within (frequency : policy.frequency = .hourly) (found : scheduledCandidate policy time = some candidate) :
    ∃ period, candidate.wall = policy.nominal period ∧ policy.Within time.wall period := by
  have minutes := minuteOffset_bounds policy
  simp only [scheduledCandidate, frequency, Option.some.injEq] at found
  rw [← found]
  refine @stepBack_within _ _ _ _ (time.wall / hour) (by simp only [SnapshotPolicy.nominal, frequency]) ?_ ?_ ?_
  all_goals
    simp only [SnapshotPolicy.nominal, frequency]
    unfold hour at *
    omega

theorem daily_within (frequency : policy.frequency = .daily) (found : scheduledCandidate policy time = some candidate) :
    ∃ period, candidate.wall = policy.nominal period ∧ policy.Within time.wall period := by
  have ofDay := timeOfDay_bounds policy
  simp only [scheduledCandidate, frequency, Option.some.injEq] at found
  rw [← found]
  refine @stepBack_within _ _ _ _ (time.wall / day) (by simp only [SnapshotPolicy.nominal, frequency, replaceTime])
    ?_ ?_ ?_
  all_goals
    simp only [SnapshotPolicy.nominal, frequency, replaceTime]
    unfold day at *
    omega

theorem weekly_within (frequency : policy.frequency = .weekly) (found : scheduledCandidate policy time = some candidate) :
    ∃ period, candidate.wall = policy.nominal period ∧ policy.Within time.wall period := by
  have ofDay := timeOfDay_bounds policy
  simp only [scheduledCandidate, frequency, Option.some.injEq] at found
  rw [← found]
  refine @stepBack_within _ _ _ _ ((time.wall / day + 2 - policy.scheduleWeekday) / 7) ?_ ?_ ?_ ?_
  all_goals
    simp only [SnapshotPolicy.nominal, frequency, replaceTime, weekday]
    unfold day at *
    omega

theorem monthly_within (frequency : policy.frequency = .monthly) (found : scheduledCandidate policy time = some candidate) :
    ∃ period, candidate.wall = policy.nominal period ∧ policy.Within time.wall period := by
  obtain ⟨after, before⟩ := monthOf_spec (time.wall / day)
  have later := replaceDay_bounds policy (monthOf (time.wall / day) + 1)
  have earlier := replaceDay_bounds policy (monthOf (time.wall / day) - 1)
  simp only [scheduledCandidate, frequency] at found
  simp only [SnapshotPolicy.Within, SnapshotPolicy.nominal, frequency]
  generalize monthOf (time.wall / day) = month at *
  have previous : monthOf (monthStart month - 1) = month - 1 := by
    have step := monthStart_succ (month - 1)
    rw [Int.sub_add_cancel] at step
    refine monthOf_eq ?_ ?_
    · omega
    · rw [Int.sub_add_cancel]
      omega
  rw [previous] at found
  split at found
  · rename_i ahead
    cases found
    refine ⟨month - 1, rfl, ?_, ?_⟩
    · have ended := earlier.2
      rw [Int.sub_add_cancel] at ended
      unfold day at *
      omega
    · rw [Int.sub_add_cancel]
      exact ahead
  · rename_i reached
    cases found
    refine ⟨month, rfl, not_lt.mp reached, ?_⟩
    unfold day at *
    omega

theorem scheduledCandidate_within (found : scheduledCandidate policy time = some candidate) :
    ∃ period, candidate.wall = policy.nominal period ∧ policy.Within time.wall period := by
  cases frequency : policy.frequency with
  | manual =>
    simp only [scheduledCandidate, frequency] at found
    cases found
  | hourly => exact hourly_within frequency found
  | daily => exact daily_within frequency found
  | weekly => exact weekly_within frequency found
  | monthly => exact monthly_within frequency found

theorem within_iff {wall period other : Int} (within : policy.Within wall period) :
    policy.nominal other ≤ wall ↔ other ≤ period := by
  constructor
  · intro reached
    by_contra later
    have next : period + 1 ≤ other := by omega
    rcases Int.lt_or_eq_of_le next with beyond | same
    · have := nominal_lt policy beyond
      have := within.2
      omega
    · rw [← same] at reached
      exact absurd within.2 (not_lt.mpr reached)
  · intro earlier
    rcases Int.lt_or_eq_of_le earlier with before | same
    · exact le_trans (le_of_lt (nominal_lt policy before)) within.1
    · rw [same]
      exact within.1

end Boron.Backup
