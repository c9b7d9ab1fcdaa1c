import Boron.Backup.Schedule
import Boron.Lib.Sys

namespace Boron.Backup
open List LocalTime

def SnapshotPolicy.instant (policy : SnapshotPolicy) (period : Int) : Int :=
  policy.options.zone.toUtc { wall := policy.nominal period, fold := false }

/-- At `now` the clock on the wall has passed exactly the scheduled times whose
instant has come, and on its second pass the last of them did not come twice. -/
def PassedOnce (policy : SnapshotPolicy) (now : Int) : Prop :=
  (∀ period, policy.nominal period ≤ (policy.options.zone.fromUtc now).wall ↔ policy.instant period ≤ now) ∧
    ((policy.options.zone.fromUtc now).fold → ∀ period, policy.Within (policy.options.zone.fromUtc now).wall period →
      policy.options.zone.toUtc { wall := policy.nominal period, fold := true } = policy.instant period)

/-- A run of the scheduler: the policy, the clock, and the local times whose
period a call has queued, the newest first. -/
structure Scheduler where
  policy : SnapshotPolicy
  clock : Int
  queued : List Int

/-- A scheduled call: the clock when it looks and when it is finished. -/
structure Tick where
  now : Int
  finished : Int
  around : Surroundings

def scheduledWall (policy : SnapshotPolicy) (now : Int) : Option Int :=
  (scheduledCandidate policy (policy.options.zone.fromUtc now)).map LocalTime.wall

def Scheduler.tick (tick : Tick) (s : Scheduler) : Scheduler :=
  match queuePolicy s.policy tick.around true tick.now tick.finished with
  | .error _ => { s with clock := tick.finished }
  | .ok (policy, runs) =>
    { policy, clock := tick.finished
      queued := if runs = [] then s.queued else (scheduledWall s.policy tick.now).toList ++ s.queued }

/-- Every destination can be used, and the selected accounts are there and idle. -/
structure Free (policy : SnapshotPolicy) (around : Surroundings) : Prop where
  usable : policy.targets.all (usable around)
  selected : ∃ account ∈ around.accounts, policy.selects account
  idle : ∀ account ∈ around.accounts, policy.selects account → account.busy = false

/-- Calls in the order of time, with everything free. -/
structure Timely (s : Scheduler) (tick : Tick) : Prop where
  after : s.clock ≤ tick.now
  within : tick.now ≤ tick.finished
  free : Free s.policy tick.around

/-- The clock passes each scheduled time once, and none while the call runs. -/
def Regular (s : Scheduler) (tick : Tick) : Prop :=
  Timely s tick ∧ PassedOnce s.policy tick.now ∧
    ∀ period, s.policy.instant period ≤ tick.finished → s.policy.instant period ≤ tick.now

variable {policy : SnapshotPolicy} {now : Int} {around : Surroundings}

theorem candidate_fold {time candidate : LocalTime} (found : scheduledCandidate policy time = some candidate)
    (folded : candidate.fold = true) : time.fold = true := by
  unfold scheduledCandidate at found
  cases frequency : policy.frequency with
  | manual =>
    rw [frequency] at found
    cases found
  | hourly | daily =>
    rw [frequency] at found
    cases found
    unfold stepBack at folded
    split at folded
    · cases folded
    · exact folded
  | weekly =>
    rw [frequency] at found
    cases found
    unfold stepBack at folded
    split at folded <;> cases folded
  | monthly =>
    rw [frequency] at found
    dsimp only at found
    split at found
    · cases found
      cases folded
    · cases found
      exact folded

theorem boundary_cases (boundary : Int) (found : scheduledBoundary policy now = some boundary)
    (passed : PassedOnce policy now) : ∃ period, scheduledWall policy now = some (policy.nominal period) ∧
      boundary = policy.instant period ∧ ∀ other, policy.instant other ≤ now ↔ other ≤ period := by
  obtain ⟨candidate, computed, rfl⟩ := Option.map_eq_some_iff.mp found
  obtain ⟨period, scheduled, within⟩ := scheduledCandidate_within computed
  refine ⟨period, ?_, ?_, fun other => ?_⟩
  · rw [scheduledWall, computed, Option.map_some, scheduled]
  · have shape : candidate = { wall := policy.nominal period, fold := candidate.fold } := by rw [← scheduled]
    rw [shape]
    cases folded : candidate.fold with
    | false => rfl
    | true => exact passed.2 (candidate_fold computed folded) period within
  · rw [← passed.1 other]
    exact within_iff within

theorem boundary_not_after {boundary : Int} (found : scheduledBoundary policy now = some boundary)
    (passed : PassedOnce policy now) : boundary ≤ now := by
  obtain ⟨period, -, rfl, reached⟩ := boundary_cases boundary found passed
  exact (reached period).mpr le_rfl

theorem boundary_monotone {later boundary next : Int} (order : now ≤ later)
    (found : scheduledBoundary policy now = some boundary) (foundNext : scheduledBoundary policy later = some next)
    (passed : PassedOnce policy now) (passedNext : PassedOnce policy later) : boundary ≤ next := by
  obtain ⟨period, -, rfl, reached⟩ := boundary_cases boundary found passed
  obtain ⟨other, -, rfl, reachedNext⟩ := boundary_cases next foundNext passedNext
  have first := (reached period).mpr le_rfl
  have earlier : period ≤ other := (reachedNext period).mp (le_trans first order)
  by_cases same : other ≤ period
  · rw [le_antisymm earlier same]
  · have ahead : now < policy.instant other := by
      by_contra notAhead
      exact same ((reached other).mp (not_lt.mp notAhead))
    omega

theorem newRuns_ne_nil (free : Free policy around) (scheduled : Bool) : newRuns policy around scheduled ≠ [] := by
  obtain ⟨account, listed, selected⟩ := free.selected
  have idle := free.idle account listed selected
  have kept : account ∈ (around.accounts.filter policy.selects).filter fun account => ¬ account.busy := by
    simp [listed, selected, idle]
  have targeted : policy.targets ≠ [] := by
    unfold SnapshotPolicy.targets
    split
    · exact cons_ne_nil _ _
    · assumption
  obtain ⟨target, rest, shape⟩ := exists_cons_of_ne_nil targeted
  intro empty
  have none := flatMap_eq_nil_iff.mp empty account kept
  rw [shape, map_cons] at none
  cases none

theorem tick_due {s : Scheduler} {tick : Tick} (timely : Timely s tick) {wall : Int}
    (found : scheduledWall s.policy tick.now = some wall) (due : scheduledDue s.policy tick.now = true) :
    s.tick tick = { policy := { s.policy with lastQueuedAt := some tick.finished }, clock := tick.finished
                    queued := wall :: s.queued } := by
  have runs := newRuns_ne_nil timely.free true
  have queues : queuePolicy s.policy tick.around true tick.now tick.finished =
      .ok ({ s.policy with lastQueuedAt := some tick.finished }, newRuns s.policy tick.around true) := by
    rw [queuePolicy, if_neg (by simp [due]), queueRuns, if_pos timely.free.usable]
    simp only [runs, if_false]
  rw [Scheduler.tick, queues]
  dsimp only
  rw [if_neg runs, found]
  rfl

theorem tick_not_due {s : Scheduler} {tick : Tick} (waits : scheduledDue s.policy tick.now = false) :
    s.tick tick = { s with clock := tick.finished } := by
  rw [Scheduler.tick, queuePolicy, if_pos ⟨rfl, waits⟩]
  rfl

/-- The periods up to the last one that was queued are those whose schedule had
come when its call was finished. -/
def Latest (policy : SnapshotPolicy) (clock last : Int) (queued : List Int) : Prop :=
  last ≤ clock ∧ ∃ period, queued.head? = some (policy.nominal period) ∧
    ∀ other, policy.instant other ≤ last ↔ other ≤ period

structure Steady (policy : SnapshotPolicy) (s : Scheduler) : Prop where
  unchanged : ∃ last, s.policy = { policy with lastQueuedAt := last }
  descending : s.queued.Pairwise (· > ·)
  fresh : s.policy.lastQueuedAt = none → s.queued = []
  latest : ∀ last, s.policy.lastQueuedAt = some last → Latest policy s.clock last s.queued

theorem scheduledDue_iff : scheduledDue policy now = true ↔ ∃ boundary, scheduledBoundary policy now = some boundary ∧
    policy.enabled ∧ policy.createdAt ≤ boundary ∧ ∀ last, policy.lastQueuedAt = some last → last < boundary := by
  unfold scheduledDue
  cases scheduledBoundary policy now with
  | none => simp
  | some boundary =>
    simp only [Bool.and_eq_true, decide_eq_true_eq, Option.all_eq_true, Option.some.injEq, exists_eq_left', and_assoc]

section
variable {s : Scheduler} {tick : Tick}

section
variable (steady : Steady policy s)
include steady

theorem Steady.same : s.policy.nominal = policy.nominal ∧
    s.policy.instant = policy.instant ∧ s.policy.createdAt = policy.createdAt ∧ s.policy.enabled = policy.enabled := by
  obtain ⟨last, unchanged⟩ := steady.unchanged
  rw [unchanged]
  exact ⟨rfl, rfl, rfl, rfl⟩

section
variable (regular : Regular s tick)
include regular

theorem Steady.queue (due : scheduledDue s.policy tick.now = true) : Steady policy (s.tick tick) := by
  obtain ⟨timely, passed, brief⟩ := regular
  obtain ⟨nominal, instants, -, -⟩ := steady.same
  obtain ⟨boundary, found, -, -, newer⟩ := scheduledDue_iff.mp due
  obtain ⟨period, wall, rfl, reached⟩ := boundary_cases boundary found passed
  rw [nominal] at wall
  rw [instants] at newer reached brief
  rw [tick_due timely wall due]
  obtain ⟨last, unchanged⟩ := steady.unchanged
  refine ⟨⟨some tick.finished, by rw [unchanged]⟩, ?_, nofun, ?_⟩
  · refine pairwise_cons.mpr ⟨fun queued member => ?_, steady.descending⟩
    cases before : s.policy.lastQueuedAt with
    | none =>
      rw [steady.fresh before] at member
      cases member
    | some last =>
      obtain ⟨-, newest, head, upTo⟩ := steady.latest last before
      have ahead : newest < period := by
        have missed := newer last before
        by_contra behind
        have done := (upTo period).mpr (not_lt.mp behind)
        omega
      have below : queued ≤ policy.nominal newest := by
        obtain ⟨rest, shape⟩ := head?_eq_some_iff.mp head
        have order := steady.descending
        rw [shape] at member order
        rcases mem_cons.mp member with rfl | member
        · exact le_rfl
        · exact le_of_lt ((pairwise_cons.mp order).1 queued member)
      exact lt_of_le_of_lt below (nominal_lt policy ahead)
  · rintro _ ⟨⟩
    refine ⟨le_rfl, period, rfl, fun other => ⟨fun finished => ?_, fun earlier => ?_⟩⟩
    · exact (reached other).mp (brief other finished)
    · exact le_trans ((reached other).mpr earlier) timely.within

theorem Steady.wait (waits : scheduledDue s.policy tick.now = false) : Steady policy (s.tick tick) := by
  rw [tick_not_due waits]
  refine ⟨steady.unchanged, steady.descending, steady.fresh, fun last before => ?_⟩
  obtain ⟨bound, upTo⟩ := steady.latest last before
  have after := regular.1.after
  have within := regular.1.within
  exact ⟨by show last ≤ tick.finished; omega, upTo⟩

theorem Steady.step : Steady policy (s.tick tick) := by
  cases due : scheduledDue s.policy tick.now with
  | true => exact steady.queue regular due
  | false => exact steady.wait regular due

/-- After a call, the period it looked at is queued. -/
theorem Steady.covered (enabled : policy.enabled) {boundary : Int}
    (found : scheduledBoundary s.policy tick.now = some boundary) (created : policy.createdAt ≤ boundary) :
    ∃ wall ∈ (s.tick tick).queued, scheduledWall s.policy tick.now = some wall := by
  obtain ⟨timely, passed, -⟩ := regular
  obtain ⟨nominal, instants, sameCreated, sameEnabled⟩ := steady.same
  obtain ⟨period, wall, rfl, reached⟩ := boundary_cases boundary found passed
  refine ⟨_, ?_, wall⟩
  cases due : scheduledDue s.policy tick.now with
  | true =>
    rw [tick_due timely wall due]
    exact mem_cons_self
  | false =>
    rw [tick_not_due due]
    have reachedLast : ∃ last, s.policy.lastQueuedAt = some last ∧ s.policy.instant period ≤ last := by
      by_contra none
      have isDue : scheduledDue s.policy tick.now = true := by
        refine scheduledDue_iff.mpr ⟨_, found, sameEnabled ▸ enabled, sameCreated ▸ created, fun last before => ?_⟩
        by_contra behind
        exact none ⟨last, before, not_lt.mp behind⟩
      rw [isDue] at due
      cases due
    obtain ⟨last, before, past⟩ := reachedLast
    obtain ⟨bound, newest, head, upTo⟩ := steady.latest last before
    rw [instants] at past reached
    rw [nominal]
    have atLeast : period ≤ newest := (upTo period).mp past
    have atMost : newest ≤ period := by
      have queuedBefore := (upTo newest).mpr le_rfl
      have after := timely.after
      exact (reached newest).mp (by omega)
    rw [le_antisymm atLeast atMost]
    obtain ⟨rest, shape⟩ := head?_eq_some_iff.mp head
    rw [shape]
    exact mem_cons_self

end

end

end

def SnapshotPolicy.scheduler (policy : SnapshotPolicy) (clock : Int) : Scheduler :=
  { policy := { policy with lastQueuedAt := none }, clock, queued := [] }

/-- Where the clock on the wall passes every scheduled time once, the boundary is
never ahead and never goes back, and each period a call falls in is queued once. -/
theorem schedule_queues_once (policy : SnapshotPolicy) :
    (∀ now boundary, PassedOnce policy now → scheduledBoundary policy now = some boundary → boundary ≤ now) ∧
    (∀ now later boundary next, PassedOnce policy now → PassedOnce policy later → now ≤ later →
      scheduledBoundary policy now = some boundary → scheduledBoundary policy later = some next → boundary ≤ next) ∧
    ∀ clock s, Sys.Reaches Scheduler.tick Regular (policy.scheduler clock) s → s.queued.Nodup ∧
      ∀ tick boundary, Regular s tick → policy.enabled → scheduledBoundary policy tick.now = some boundary →
        policy.createdAt ≤ boundary → ∃ wall ∈ (s.tick tick).queued, scheduledWall policy tick.now = some wall := by
  refine ⟨fun now boundary passed found => boundary_not_after found passed,
    fun now later boundary next passed passedNext order found foundNext =>
      boundary_monotone order found foundNext passed passedNext, fun clock s reached => ?_⟩
  have initial : Steady policy (policy.scheduler clock) := ⟨⟨none, rfl⟩, List.Pairwise.nil, fun _ => rfl, nofun⟩
  have steady : Steady policy s := reached.invariant initial fun s tick regular steady => steady.step regular
  refine ⟨steady.descending.imp fun ahead => (ne_of_lt ahead).symm, fun tick boundary regular enabled found created => ?_⟩
  obtain ⟨last, unchanged⟩ := steady.unchanged
  have sameBoundary : scheduledBoundary s.policy tick.now = scheduledBoundary policy tick.now := by
    rw [unchanged]
    rfl
  have sameWall : scheduledWall s.policy tick.now = scheduledWall policy tick.now := by
    rw [unchanged]
    rfl
  rw [← sameWall]
  exact steady.covered regular enabled (sameBoundary.trans found) created

theorem passedOnce_fixed {policy : SnapshotPolicy} (fixed : policy.options.zone.transitions = []) (now : Int) :
    PassedOnce policy now := by
  have offset (time : LocalTime) : policy.options.zone.utcOffset time = policy.options.zone.standard := by
    rw [TimeZone.utcOffset, fixed]
    rfl
  have wall : (policy.options.zone.fromUtc now).wall = now + policy.options.zone.standard := by
    rw [TimeZone.fromUtc, TimeZone.regimeAt, fixed]
    rfl
  refine ⟨fun period => ?_, fun _ period _ => ?_⟩
  · rw [wall, SnapshotPolicy.instant, TimeZone.toUtc, offset]
    constructor <;> intro order <;> simp only at * <;> omega
  · rw [SnapshotPolicy.instant, TimeZone.toUtc, TimeZone.toUtc, offset, offset]

def november : Int := Calendar.monthStart (2026 * 12 + 8) * day

def nightly (zone : TimeZone) : SnapshotPolicy :=
  { id := 1, destinationId := 1, frequency := .daily, enabled := true, lastQueuedAt := none, createdAt := 0
    options := { zone, scheduleHour := some ⟨1, by decide⟩, scheduleMinute := some ⟨30, by decide⟩, scheduleWeekday := none
                 scheduleMonthday := none, accounts := [], excludedAccounts := [], destinationIds := [] } }

def oneAccount : Surroundings :=
  { destinations := [{ id := 1, ready := true, enabled := true }]
    accounts := [{ id := 1, username := "alice", active := true, busy := false }] }

def tickAt (now : Int) : Tick := { now, finished := now, around := oneAccount }

theorem oneAccount_free (zone : TimeZone) (last : Option Int) :
    Free { nightly zone with lastQueuedAt := last } oneAccount :=
  ⟨by rfl, ⟨_, mem_singleton_self _, by rfl⟩, fun account member _ => by
    rw [mem_singleton.mp member]⟩

def utc : TimeZone := { standard := 0, transitions := [], ordered := List.Pairwise.nil }

theorem schedule_queues_once_utc : ∃ wall ∈ (((nightly utc).scheduler 0).tick (tickAt november)).queued,
    scheduledWall (nightly utc) november = some wall := by
  refine ((schedule_queues_once (nightly utc)).2.2 0 _ .start).2 (tickAt november) (november - 81000000000) ?_ rfl
    (by decide) (by decide)
  exact ⟨⟨by decide, le_rfl, oneAccount_free utc none⟩, passedOnce_fixed rfl _, fun _ done => done⟩

/-- The clock is set back at two o'clock in the morning of the first of November. -/
def eastern : TimeZone :=
  { standard := -5 * hour, ordered := by decide
    transitions := [(november - 237 * day - 17 * hour, -4 * hour), (november + 6 * hour, -5 * hour)] }

/-- Twenty to two, and twenty to two again. -/
def setBackNight : Scheduler :=
  (((nightly eastern).scheduler 0).tick (tickAt (november + 5 * hour + 40 * minute))).tick
    (tickAt (november + 6 * hour + 40 * minute))

/-- When the clock is set back over the schedule, one night is queued twice. -/
theorem set_back_night_queued_twice :
    Sys.Reaches Scheduler.tick Timely ((nightly eastern).scheduler 0) setBackNight ∧ ¬ setBackNight.queued.Nodup := by
  refine ⟨.next _ (.next _ .start ?_) ?_, by decide⟩
  · exact ⟨by decide, le_rfl, oneAccount_free eastern none⟩
  · exact ⟨by decide, le_rfl, oneAccount_free eastern (some (november + 5 * hour + 40 * minute))⟩

end Boron.Backup
