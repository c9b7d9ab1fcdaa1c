import Boron.Usage.Alerts
import Mathlib.Data.List.Induction

namespace Boron.UsageAlerts
open List Rows
variable (percent : Nat → Nat → Rat)

def Check.seen (check : Check) (accountId : Nat) (resource : Resource) : List Reading :=
  if check.account.id = accountId then check.readings.filter fun reading => decide (reading.resource = resource) else []

/-- What a reading makes of the threshold alerted so far: below 80 percent there is none. -/
def alertedStep (before : Option Nat) (reading : Reading) : Option Nat :=
  match reading.tracked with
  | none => before
  | some limit => (highestCrossed (percent reading.current limit)).map fun crossed => max crossed (before.getD 0)

/-- The threshold alerted since the usage was last below 80 percent of its limit. -/
def alertedSince (history : List Check) (accountId : Nat) (resource : Resource) : Option Nat :=
  (history.flatMap fun check => check.seen accountId resource).foldl (alertedStep percent) none

/-- The threshold of the alert that is due: the highest one crossed, if it is above the alerted one. -/
def rising (before : Option Nat) (reading : Reading) : Option Nat :=
  (reading.crossed percent).filter fun crossed => before.all fun alerted => decide (alerted < crossed)

def created (history : List Check) (check : Check) : List UsageAlert :=
  (checkUsageAlerts percent check (alertsAfter percent history)).alerts.drop (alertsAfter percent history).length

/-- What a check owes, given the checks before it. -/
structure Lawful (history : List Check) (check : Check) : Prop where
  single : ∀ resource,
    (activeAlerts check.account.id resource (checkUsageAlerts percent check (alertsAfter percent history)).alerts).length ≤ 1
  creates : ∀ reading ∈ check.readings,
    ((created percent history check).filter fun alert => decide (alert.resource = reading.resource)).map
        UsageAlert.thresholdPct =
      (rising percent (alertedSince percent history check.account.id reading.resource) reading).toList
  owner : ∀ alert ∈ created percent history check, alert.accountId = check.account.id
  remains : ∀ reading ∈ check.readings, activeAlerts check.account.id reading.resource
      (checkUsageAlerts percent check (alertsAfter percent history)).alerts ≠ [] →
    ∃ limit, reading.limit = some limit ∧ limit ≠ 0 ∧ 80 ≤ percent reading.current limit
  suspends : check.row.autoSuspendAt100 = true → check.account.status = .active →
    (∃ reading ∈ check.readings, ∃ limit, reading.limit = some limit ∧ limit ≠ 0 ∧ 100 ≤ percent reading.current limit) →
    (checkUsageAlerts percent check (alertsAfter percent history)).suspends = true

def StillTracked (history : List Check) (check : Check) : Prop :=
  ∀ reading ∈ check.readings, reading.tracked = none →
    activeAlerts check.account.id reading.resource (alertsAfter percent history) = []

def UsageAlert.stamp (alert : UsageAlert) : Nat × Nat × Resource × Nat :=
  (alert.id, alert.accountId, alert.resource, alert.thresholdPct)

section
variable {accountId otherId : Nat} {resource other : Resource} {alerts : List UsageAlert} {existing : UsageAlert}
  {before crossed : Option Nat}

theorem mem_activeAlerts {alert : UsageAlert} :
    alert ∈ activeAlerts accountId resource alerts ↔ alert ∈ alerts ∧ alert.Active accountId resource := by
  unfold activeAlerts
  simp

theorem resolve_self (active : activeAlerts accountId resource alerts = [existing]) :
    activeAlerts accountId resource (resolve (some existing) alerts) = [] := by
  refine eq_nil_iff_forall_not_mem.mpr fun alert member => ?_
  obtain ⟨kept, still⟩ := mem_activeAlerts.mp member
  obtain ⟨old, stored, same⟩ := mem_map.mp kept
  split at same
  · subst same
    exact absurd still.2.2 (by simp)
  · next different =>
    subst same
    have found : old ∈ activeAlerts accountId resource alerts := mem_activeAlerts.mpr ⟨stored, still⟩
    rw [active, mem_singleton] at found
    exact different (congrArg UsageAlert.id found)

theorem resolve_others (ids : Rows.Unique UsageAlert.id alerts) (stored : existing ∈ alerts)
    (active : existing.Active accountId resource) (apart : (otherId, other) ≠ (accountId, resource)) :
    activeAlerts otherId other (resolve (some existing) alerts) = activeAlerts otherId other alerts := by
  have hidden : ¬existing.Active otherId other := by
    intro again
    exact apart (Prod.ext (again.1.symm.trans active.1) (again.2.1.symm.trans active.2.1))
  have same : ∀ alert ∈ alerts, alert.id = existing.id → alert = existing := fun alert member equal =>
    inj_on_of_nodup_map ids member stored equal
  unfold activeAlerts resolve change
  rw [filter_map]
  have kept : alerts.filter ((fun alert => decide (alert.Active otherId other)) ∘
      fun alert => if alert.id = existing.id then { alert with resolved := true } else alert) =
      alerts.filter fun alert => decide (alert.Active otherId other) := by
    refine filter_congr fun alert member => ?_
    simp only [Function.comp_apply]
    split
    · next equal =>
      rw [same alert member equal, decide_eq_false hidden]
      simp [UsageAlert.Active]
    · rfl
  rw [kept]
  refine (map_congr_left fun alert member => ?_).trans (map_id _)
  obtain ⟨inside, still⟩ := mem_filter.mp member
  refine if_neg fun equal => hidden ?_
  rw [← same alert inside equal]
  exact of_decide_eq_true still

theorem single_of_thresholds (thresholds : (activeAlerts accountId resource alerts).map UsageAlert.thresholdPct = before.toList) :
    (before = none ∧ activeAlerts accountId resource alerts = []) ∨
      ∃ existing, before = some existing.thresholdPct ∧ activeAlerts accountId resource alerts = [existing] := by
  cases before with
  | none => exact .inl ⟨rfl, map_eq_nil_iff.mp thresholds⟩
  | some threshold =>
    obtain ⟨existing, listed, same⟩ := map_eq_singleton_iff.mp thresholds
    exact .inr ⟨existing, by rw [same], listed⟩

theorem activeAlerts_append (alert : UsageAlert) : activeAlerts accountId resource (alerts ++ [alert]) =
      activeAlerts accountId resource alerts ++ if alert.Active accountId resource then [alert] else [] := by
  unfold activeAlerts
  rw [filter_append, filter_singleton]
  simp

theorem checkResource_self
    (thresholds : (activeAlerts accountId resource alerts).map UsageAlert.thresholdPct = before.toList) :
    (activeAlerts accountId resource (checkResource accountId resource crossed alerts).1).map UsageAlert.thresholdPct =
        (crossed.map fun crossed => max crossed (before.getD 0)).toList ∧
      (checkResource accountId resource crossed alerts).2.map UsageAlert.thresholdPct =
        crossed.filter fun crossed => before.all fun alerted => decide (alerted < crossed) := by
  unfold checkResource
  rcases single_of_thresholds thresholds with ⟨rfl, empty⟩ | ⟨existing, rfl, active⟩
  · cases crossed with
    | none => simp [empty, resolve]
    | some crossed => simp [empty, resolve, activeAlerts_append, UsageAlert.Active, Option.filter]
  · have gone := resolve_self active
    cases crossed with
    | none => simp [active, gone]
    | some crossed =>
      by_cases low : crossed ≤ existing.thresholdPct
      · have high : ¬existing.thresholdPct < crossed := by omega
        simp [active, low, high, Option.filter]
      · have high : existing.thresholdPct < crossed := by omega
        have top : max crossed existing.thresholdPct = crossed := by omega
        simp [active, gone, low, high, top, activeAlerts_append, UsageAlert.Active, Option.filter]

theorem checkResource_others (ids : Rows.Unique UsageAlert.id alerts) (apart : (otherId, other) ≠ (accountId, resource)) :
    activeAlerts otherId other (checkResource accountId resource crossed alerts).1 = activeAlerts otherId other alerts := by
  have resolved : activeAlerts otherId other (resolve (activeAlerts accountId resource alerts).getLast? alerts) =
      activeAlerts otherId other alerts := by
    cases found : (activeAlerts accountId resource alerts).getLast? with
    | none => rfl
    | some existing =>
      obtain ⟨stored, active⟩ := mem_activeAlerts.mp (List.mem_of_getLast? found)
      exact resolve_others ids stored active apart
  unfold checkResource
  cases crossed with
  | none => exact resolved
  | some crossed =>
    dsimp only
    split
    · rfl
    · have elsewhere : ¬(accountId = otherId ∧ resource = other) := by
        rintro ⟨rfl, rfl⟩
        exact apart rfl
      rw [activeAlerts_append, resolved, if_neg fun active => elsewhere ⟨active.1, active.2.1⟩, append_nil]

theorem resolve_stamps (existing : Option UsageAlert) (alerts : List UsageAlert) :
    (resolve existing alerts).map UsageAlert.stamp = alerts.map UsageAlert.stamp := by
  cases existing with
  | none => rfl
  | some existing =>
    simp only [resolve, change, map_map]
    refine map_congr_left fun alert _ => ?_
    simp only [Function.comp_apply]
    split <;> rfl

theorem checkResource_stamps : (checkResource accountId resource crossed alerts).1.map UsageAlert.stamp =
      alerts.map UsageAlert.stamp ++ (checkResource accountId resource crossed alerts).2.toList.map UsageAlert.stamp := by
  unfold checkResource
  cases crossed with
  | none => simp [resolve_stamps]
  | some crossed =>
    dsimp only
    split
    · simp
    · simp [resolve_stamps]

theorem checkResource_unique (ids : Rows.Unique UsageAlert.id alerts) :
    Rows.Unique UsageAlert.id (checkResource accountId resource crossed alerts).1 := by
  have kept (existing : Option UsageAlert) : (resolve existing alerts).map UsageAlert.id = alerts.map UsageAlert.id := by
    have stamps := congrArg (map Prod.fst) (resolve_stamps existing alerts)
    simpa [UsageAlert.stamp, Function.comp_def] using stamps
  have unique (existing : Option UsageAlert) : Rows.Unique UsageAlert.id (resolve existing alerts) := by
    unfold Rows.Unique
    rw [kept]
    exact ids
  unfold checkResource
  cases crossed with
  | none => exact unique _
  | some crossed =>
    dsimp only
    split
    · exact ids
    · refine unique_append (unique _) fun other member => ?_
      have named := mem_map_of_mem (f := UsageAlert.id) member
      rw [kept] at named
      obtain ⟨old, stored, same⟩ := mem_map.mp named
      have fresh : old.id < Rows.next UsageAlert.id alerts := lt_next stored
      dsimp only
      omega

theorem checkResource_created {alert : UsageAlert} (made : (checkResource accountId resource crossed alerts).2 = some alert) :
    alert.accountId = accountId ∧ alert.resource = resource := by
  unfold checkResource at made
  cases crossed with
  | none => cases made
  | some crossed =>
    dsimp only at made
    split at made
    · cases made
    · cases made
      exact ⟨rfl, rfl⟩

end

section
variable {percent : Nat → Nat → Rat} {check : Check} {before : Outcome} {reading : Reading} {otherId : Nat}
  {other : Resource} {prior : Option Nat}

theorem visit_others (ids : Rows.Unique UsageAlert.id before.alerts)
    (apart : (otherId, other) ≠ (check.account.id, reading.resource)) :
    activeAlerts otherId other (visit percent check before reading).alerts = activeAlerts otherId other before.alerts := by
  unfold visit
  cases reading.tracked with
  | none => rfl
  | some limit => exact checkResource_others ids apart

theorem visit_unique (ids : Rows.Unique UsageAlert.id before.alerts) :
    Rows.Unique UsageAlert.id (visit percent check before reading).alerts := by
  unfold visit
  cases reading.tracked with
  | none => exact ids
  | some limit => exact checkResource_unique ids

theorem visit_self
    (thresholds : (activeAlerts check.account.id reading.resource before.alerts).map UsageAlert.thresholdPct = prior.toList) :
    (activeAlerts check.account.id reading.resource (visit percent check before reading).alerts).map
        UsageAlert.thresholdPct = (alertedStep percent prior reading).toList := by
  unfold visit alertedStep
  cases reading.tracked with
  | none => exact thresholds
  | some limit => exact (checkResource_self thresholds).1

theorem visit_created
    (thresholds : (activeAlerts check.account.id reading.resource before.alerts).map UsageAlert.thresholdPct = prior.toList) :
    ∃ created : Option UsageAlert, (visit percent check before reading).newAlerts = before.newAlerts ++ created.toList ∧
      (visit percent check before reading).alerts.map UsageAlert.stamp =
        before.alerts.map UsageAlert.stamp ++ created.toList.map UsageAlert.stamp ∧
      created.map UsageAlert.thresholdPct = rising percent prior reading ∧
      ∀ alert ∈ created, alert.accountId = check.account.id ∧ alert.resource = reading.resource := by
  unfold visit rising Reading.crossed
  cases reading.tracked with
  | none => exact ⟨none, by simp⟩
  | some limit =>
    refine ⟨_, rfl, checkResource_stamps, (checkResource_self thresholds).2, fun alert made => ?_⟩
    exact checkResource_created made

theorem visit_suspends : (visit percent check before reading).suspends =
    (before.suspends || (decide (reading.crossed percent = some 100) && check.row.autoSuspendAt100 &&
      decide (check.account.status = .active))) := by
  unfold visit Reading.crossed
  cases reading.tracked with
  | none => simp
  | some limit => rfl

end

/-- What the turns over some readings, which are of different resources, leave. -/
structure Visited (percent : Nat → Nat → Rat) (check : Check) (prior : Resource → Option Nat) (readings : List Reading)
    (before after : Outcome) : Prop where
  ids : Rows.Unique UsageAlert.id after.alerts
  others : ∀ otherId other, (otherId = check.account.id → ∀ reading ∈ readings, reading.resource ≠ other) →
    activeAlerts otherId other after.alerts = activeAlerts otherId other before.alerts
  thresholds : ∀ reading ∈ readings,
    (activeAlerts check.account.id reading.resource after.alerts).map UsageAlert.thresholdPct =
      (alertedStep percent (prior reading.resource) reading).toList
  created : ∃ created, after.newAlerts = before.newAlerts ++ created ∧
    after.alerts.map UsageAlert.stamp = before.alerts.map UsageAlert.stamp ++ created.map UsageAlert.stamp ∧
    (∀ alert ∈ created, alert.accountId = check.account.id ∧ ∃ reading ∈ readings, alert.resource = reading.resource) ∧
    ∀ reading ∈ readings, (created.filter fun alert => decide (alert.resource = reading.resource)).map UsageAlert.thresholdPct =
      (rising percent (prior reading.resource) reading).toList
  suspends : after.suspends = (before.suspends || readings.any fun reading =>
    decide (reading.crossed percent = some 100) && check.row.autoSuspendAt100 && decide (check.account.status = .active))

variable {percent}

theorem visited {check : Check} {prior : Resource → Option Nat} {readings : List Reading} {before : Outcome}
    (apart : (readings.map Reading.resource).Nodup) (ids : Rows.Unique UsageAlert.id before.alerts)
    (thresholds : ∀ reading ∈ readings,
      (activeAlerts check.account.id reading.resource before.alerts).map UsageAlert.thresholdPct =
        (prior reading.resource).toList) :
    Visited percent check prior readings before (readings.foldl (visit percent check) before) := by
  induction readings generalizing before with
  | nil => exact ⟨ids, fun _ _ _ => rfl, fun _ member => absurd member not_mem_nil, ⟨[], by simp⟩, by simp⟩
  | cons first rest ih =>
    obtain ⟨absent, distinct⟩ := nodup_cons.mp apart
    have different : ∀ reading ∈ rest, reading.resource ≠ first.resource := fun reading member same =>
      absent (same ▸ mem_map_of_mem member)
    have start := thresholds first mem_cons_self
    have own := @visit_self percent _ _ _ _ start
    obtain ⟨made, listed, stamps, due, owner⟩ := @visit_created percent _ _ _ _ start
    have aside : ∀ reading ∈ rest, (check.account.id, reading.resource) ≠ (check.account.id, first.resource) :=
      fun reading member same => different reading member (Prod.mk.inj same).2
    have left : ∀ reading ∈ rest,
        (activeAlerts check.account.id reading.resource (visit percent check before first).alerts).map
          UsageAlert.thresholdPct = (prior reading.resource).toList := by
      intro reading member
      rw [visit_others ids (aside reading member)]
      exact thresholds reading (mem_cons_of_mem first member)
    have later := ih distinct (visit_unique ids) left
    obtain ⟨more, listed', stamps', owner', due'⟩ := later.created
    rw [foldl_cons]
    refine ⟨later.ids, fun otherId other away => ?_, fun reading member => ?_, ⟨made.toList ++ more, ?_, ?_, ?_, ?_⟩, ?_⟩
    · rw [later.others otherId other fun same reading member => away same reading (mem_cons_of_mem first member)]
      refine visit_others ids fun same => ?_
      obtain ⟨account, resource⟩ := Prod.mk.inj same
      exact away account first mem_cons_self resource.symm
    · rcases mem_cons.mp member with rfl | member
      · rw [later.others _ _ fun _ other inside => different other inside]
        exact own
      · exact later.thresholds reading member
    · rw [listed', listed, append_assoc]
    · rw [stamps', stamps, map_append, append_assoc]
    · intro alert member
      rcases mem_append.mp member with inside | inside
      · obtain ⟨account, resource⟩ := owner alert (by simpa using inside)
        exact ⟨account, first, mem_cons_self, resource⟩
      · obtain ⟨account, reading, listed, resource⟩ := owner' alert inside
        exact ⟨account, reading, mem_cons_of_mem first listed, resource⟩
    · intro reading member
      rw [filter_append, map_append]
      rcases mem_cons.mp member with rfl | member
      · have none_later : (more.filter fun alert => decide (alert.resource = reading.resource)) = [] := by
          refine filter_eq_nil_iff.mpr fun alert inside same => ?_
          obtain ⟨_, other, listed, resource⟩ := owner' alert inside
          exact different other listed (resource.symm.trans (of_decide_eq_true same))
        have all : (made.toList.filter fun alert => decide (alert.resource = reading.resource)) = made.toList :=
          filter_eq_self.mpr fun alert inside => decide_eq_true (owner alert (by simpa using inside)).2
        rw [none_later, all, map_nil, append_nil, ← due]
        cases made <;> rfl
      · have none_first : (made.toList.filter fun alert => decide (alert.resource = reading.resource)) = [] := by
          refine filter_eq_nil_iff.mpr fun alert inside same => ?_
          obtain ⟨_, resource⟩ := owner alert (by simpa using inside)
          exact different reading member ((of_decide_eq_true same).symm.trans resource)
        rw [none_first, map_nil, nil_append]
        exact due' reading member
    · rw [later.suspends, visit_suspends, any_cons, Bool.or_assoc]

theorem readings_distinct (check : Check) : (check.readings.map Reading.resource).Nodup := by
  have names : check.readings.map Reading.resource =
      [.disk, .bandwidth, .databases, .emailAccounts, .subdomains] := rfl
  rw [names]
  decide

theorem exists_reading (check : Check) (resource : Resource) : ∃ reading ∈ check.readings, reading.resource = resource := by
  have listed : resource ∈ check.readings.map Reading.resource := by cases resource <;> simp [Check.readings, resourceUsage]
  exact mem_map.mp listed

variable {reading : Reading}

theorem seen_of_mem {check : Check} (member : reading ∈ check.readings) :
    check.seen check.account.id reading.resource = [reading] := by
  unfold Check.seen
  rw [if_pos rfl]
  exact filter_key (readings_distinct check) member

theorem alertedSince_append (history : List Check) (check : Check) (accountId : Nat) (resource : Resource) :
    alertedSince percent (history ++ [check]) accountId resource =
      (check.seen accountId resource).foldl (alertedStep percent) (alertedSince percent history accountId resource) := by
  unfold alertedSince
  rw [flatMap_append, foldl_append, flatMap_singleton]

theorem alertsAfter_append (history : List Check) (check : Check) :
    alertsAfter percent (history ++ [check]) = (checkUsageAlerts percent check (alertsAfter percent history)).alerts := by
  unfold alertsAfter
  rw [foldl_append, foldl_cons, foldl_nil]

/-- The alerts that are not resolved are the thresholds alerted since the usage was last low. -/
structure Kept (percent : Nat → Nat → Rat) (history : List Check) : Prop where
  ids : Rows.Unique UsageAlert.id (alertsAfter percent history)
  thresholds : ∀ accountId resource,
    (activeAlerts accountId resource (alertsAfter percent history)).map UsageAlert.thresholdPct =
      (alertedSince percent history accountId resource).toList

theorem Kept.visited {history : List Check} (kept : Kept percent history) (check : Check) :
    Visited percent check (alertedSince percent history check.account.id) check.readings
      { alerts := alertsAfter percent history } (checkUsageAlerts percent check (alertsAfter percent history)) :=
  UsageAlerts.visited (readings_distinct check) kept.ids fun _ _ => kept.thresholds _ _

theorem kept (history : List Check) : Kept percent history := by
  induction history using reverseRecOn with
  | nil => exact ⟨nodup_nil, fun _ _ => rfl⟩
  | append_singleton history check ih =>
    have turn := ih.visited check
    refine ⟨by rw [alertsAfter_append]; exact turn.ids, fun accountId resource => ?_⟩
    rw [alertsAfter_append, alertedSince_append]
    by_cases own : accountId = check.account.id
    · obtain ⟨reading, member, rfl⟩ := exists_reading check resource
      rw [own, seen_of_mem member]
      exact turn.thresholds reading member
    · have unseen : check.seen accountId resource = [] := if_neg fun same => own same.symm
      rw [unseen, turn.others accountId resource fun same => absurd same own]
      exact ih.thresholds accountId resource

theorem le_of_highestCrossed {pct : Rat} {threshold : Nat} (crossed : highestCrossed pct = some threshold) : 80 ≤ pct := by
  have listed := List.mem_of_find?_eq_some crossed
  have reached : (threshold : Rat) ≤ pct := by simpa using List.find?_some crossed
  have least : 80 ≤ threshold := by
    simp only [thresholds, mem_cons, not_mem_nil, or_false] at listed
    omega
  have cast : (80 : Rat) ≤ (threshold : Rat) := by exact_mod_cast least
  exact cast.trans reached

theorem highestCrossed_full {pct : Rat} (full : 100 ≤ pct) : highestCrossed pct = some 100 := by
  have reached : ((100 : Nat) : Rat) ≤ pct := by exact_mod_cast full
  exact List.find?_cons_of_pos (decide_eq_true reached)

theorem tracked_eq_some {limit : Nat} : reading.tracked = some limit ↔ reading.limit = some limit ∧ limit ≠ 0 := by
  unfold Reading.tracked
  simp

theorem alertedStep_untracked {before : Option Nat} (untracked : reading.tracked = none) :
    alertedStep percent before reading = before := by
  unfold alertedStep
  rw [untracked]

theorem alertedStep_none {before : Option Nat} {limit : Nat} (tracked : reading.tracked = some limit)
    (low : highestCrossed (percent reading.current limit) = none) : alertedStep percent before reading = none := by
  unfold alertedStep
  rw [tracked]
  dsimp only
  rw [low, Option.map_none]

/-- A check is right exactly if no resource has lost its limit under an alert. -/
theorem lawful_iff (history : List Check) (check : Check) :
    Lawful percent history check ↔ StillTracked percent history check := by
  have before : Kept percent history := kept history
  have turn := before.visited check
  have after : Kept percent (history ++ [check]) := kept (history ++ [check])
  constructor
  · intro lawful reading member untracked
    by_contra active
    have same := turn.thresholds reading member
    rw [alertedStep_untracked untracked, ← before.thresholds] at same
    have still : activeAlerts check.account.id reading.resource
        (checkUsageAlerts percent check (alertsAfter percent history)).alerts ≠ [] := by
      intro empty
      rw [empty] at same
      exact active (map_eq_nil_iff.mp same.symm)
    obtain ⟨limit, given, positive, _⟩ := lawful.remains reading member still
    rw [tracked_eq_some.mpr ⟨given, positive⟩] at untracked
    cases untracked
  · intro tracked
    obtain ⟨made, listed, stamps, owner, due⟩ := turn.created
    have rows : (created percent history check).map UsageAlert.stamp = made.map UsageAlert.stamp := by
      unfold created
      rw [map_drop, stamps]
      exact drop_left' (length_map _)
    refine ⟨fun resource => ?_, fun reading member => ?_, fun alert member => ?_, fun reading member active => ?_, ?_⟩
    · have thresholds := after.thresholds check.account.id resource
      rw [alertsAfter_append] at thresholds
      have lengths := congrArg length thresholds
      rw [length_map] at lengths
      rw [lengths]
      exact Option.length_toList_le
    · have agree := congrArg (fun rows => (rows.filter fun stamp => decide (stamp.2.2.1 = reading.resource)).map
        fun stamp => stamp.2.2.2) rows
      simp only [filter_map, map_map] at agree
      exact agree.trans (due reading member)
    · have inside : alert.stamp ∈ made.map UsageAlert.stamp := rows ▸ mem_map_of_mem member
      obtain ⟨other, stored, same⟩ := mem_map.mp inside
      have account : other.accountId = alert.accountId := congrArg (fun stamp => stamp.2.1) same
      exact account.symm.trans (owner other stored).1
    · cases limited : reading.tracked with
      | none =>
        have none_before : (alertedSince percent history check.account.id reading.resource).toList = [] := by
          rw [← before.thresholds, tracked reading member limited, map_nil]
        have thresholds := turn.thresholds reading member
        rw [alertedStep_untracked limited, none_before] at thresholds
        exact absurd (map_eq_nil_iff.mp thresholds) active
      | some limit =>
        obtain ⟨given, positive⟩ := tracked_eq_some.mp limited
        refine ⟨limit, given, positive, ?_⟩
        cases crossed : highestCrossed (percent reading.current limit) with
        | none =>
          have thresholds := turn.thresholds reading member
          rw [alertedStep_none limited crossed, Option.toList_none] at thresholds
          exact absurd (map_eq_nil_iff.mp thresholds) active
        | some threshold => exact le_of_highestCrossed crossed
    · rintro auto active ⟨reading, member, limit, given, positive, full⟩
      have crossed : reading.crossed percent = some 100 := by
        unfold Reading.crossed
        rw [tracked_eq_some.mpr ⟨given, positive⟩]
        exact highestCrossed_full full
      rw [turn.suspends, Bool.false_or]
      refine any_eq_true.mpr ⟨reading, member, ?_⟩
      simp [crossed, auto, active]

def exactPercent (current limit : Nat) : Rat := current / limit * 100

def fullCheck : Check where
  account := { id := 1, username := "alice", status := .active, quotaHardMb := none }
  limits := some { databaseLimit := some 10 }
  usage := { diskTotalBytes := none, bandwidthMonthToDateBytes := 0, databaseCount := 9, emailAccountCount := 0,
             subdomainCount := 0 }

end Boron.UsageAlerts
