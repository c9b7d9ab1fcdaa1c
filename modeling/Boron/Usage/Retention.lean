import Mathlib.Data.List.Sort
import Boron.Lib.Calendar
import Boron.Lib.Durable
import Boron.Lib.Tally
import Boron.Lib.Rows

namespace Boron.Usage
open LocalTime Checks

structure UsageSnapshot where
  id : Nat
  accountId : Nat
  takenAt : Int
  diskHomeBytes : Nat
  diskMailBytes : Nat
  diskDbBytes : Nat
  inodeCount : Nat
  processCount : Nat
  deriving DecidableEq

structure UsageMonthlyAggregate where
  id : Nat
  accountId : Nat
  month : Int
  sampleCount : Nat
  diskPeakBytes : Nat
  inodePeak : Nat
  processPeak : Nat

/-- The fields of `RetentionSettings` that the usage tables depend on. -/
structure RetentionSettings where
  usageRawDays : Nat
  usageMonthlyDays : Nat
  investigationHold : Bool

/-- `written` and `cutoffs` are not stored: all samples ever taken, and the months
before which a pruning has begun to delete aggregates. -/
structure UsageStore where
  snapshots : List UsageSnapshot
  aggregates : List UsageMonthlyAggregate
  settings : RetentionSettings
  written : List UsageSnapshot
  cutoffs : List Int

abbrev Retention := Durable.Prog UsageStore String

def monthAt (instant : Int) : Int := Calendar.monthOf (instant / day)

def UsageSnapshot.diskBytes (sample : UsageSnapshot) : Nat :=
  sample.diskHomeBytes + sample.diskMailBytes + sample.diskDbBytes

def UsageSnapshot.key (sample : UsageSnapshot) : Nat × Int := (sample.accountId, monthAt sample.takenAt)

def UsageMonthlyAggregate.key (row : UsageMonthlyAggregate) : Nat × Int := (row.accountId, row.month)

def newId (ids : List Nat) : Nat := ids.foldr max 0 + 1

def UsageMonthlyAggregate.absorb (row : UsageMonthlyAggregate) (samples : List UsageSnapshot) : UsageMonthlyAggregate :=
  { row with
    sampleCount := row.sampleCount + samples.length
    diskPeakBytes := (samples.map UsageSnapshot.diskBytes).foldl max row.diskPeakBytes
    inodePeak := (samples.map UsageSnapshot.inodeCount).foldl max row.inodePeak
    processPeak := (samples.map UsageSnapshot.processCount).foldl max row.processPeak }

def emptyAggregate (rows : List UsageMonthlyAggregate) (key : Nat × Int) : UsageMonthlyAggregate :=
  { id := newId (rows.map UsageMonthlyAggregate.id), accountId := key.1, month := key.2, sampleCount := 0
    diskPeakBytes := 0, inodePeak := 0, processPeak := 0 }

/-- Add a group to the row of its account and month, which is added when there is none. -/
def absorbGroup (rows : List UsageMonthlyAggregate) (group : (Nat × Int) × List UsageSnapshot) :
    List UsageMonthlyAggregate :=
  match rows.find? fun row => row.key = group.1 with
  | none => rows ++ [(emptyAggregate rows group.1).absorb group.2]
  | some _ => rows.map fun row => if row.key = group.1 then row.absorb group.2 else row

def firstRows {α : Type} (id : α → Nat) (rows : List α) (selected : α → Bool) (limit : Nat) : List α :=
  ((rows.filter selected).insertionSort fun a b => id a ≤ id b).take limit

def UsageStore.expired (s : UsageStore) (cutoff : Int) (batchSize : Nat) : List UsageSnapshot :=
  firstRows UsageSnapshot.id s.snapshots (fun sample => sample.takenAt < cutoff) batchSize

/-- One batch of `_aggregate_usage`, in one transaction. -/
def aggregateBatch (cutoff : Int) (batchSize : Nat) : Sys UsageStore String Nat := ⟨fun s =>
  let rows := s.expired cutoff batchSize
  (.ok rows.length, { s with
    snapshots := s.snapshots.filter fun sample => ¬ sample.id ∈ rows.map UsageSnapshot.id
    aggregates := (Tally.grouped UsageSnapshot.key rows).foldl absorbGroup s.aggregates })⟩

def UsageStore.outdated (s : UsageStore) (cutoff : Int) (batchSize : Nat) : List UsageMonthlyAggregate :=
  firstRows UsageMonthlyAggregate.id s.aggregates (fun row => row.month < cutoff) batchSize

/-- One batch of `_drain` over the monthly aggregates. -/
def drainBatch (cutoff : Int) (batchSize : Nat) : Sys UsageStore String Nat := ⟨fun s =>
  let rows := s.outdated cutoff batchSize
  (.ok rows.length, { s with
    aggregates := s.aggregates.filter fun row => ¬ row.id ∈ rows.map UsageMonthlyAggregate.id
    cutoffs := cutoff :: s.cutoffs })⟩

variable (cuts : Nat → Durable.Cut)

/-- At most so many batches, up to the first one that is not full. -/
def batches (batch : Sys UsageStore String Nat) (batchSize : Nat) : Nat → Retention Unit
  | 0 => pure ()
  | left + 1 => do
    let count ← Durable.step cuts batch
    if count < batchSize then pure () else batches batch batchSize left

structure PruneParams where
  batchSize : Int
  maxBatches : Int

/-- `prune`, as far as it touches the usage tables. -/
def prune (now : Int) (params : PruneParams) : Retention Unit := do
  let batchSize := (max 1 (min params.batchSize 100)).toNat
  let maxBatches := (max 1 (min params.maxBatches 100)).toNat
  let s ← Durable.get
  if s.settings.investigationHold then pure ()
  else do
    batches cuts (aggregateBatch (now - s.settings.usageRawDays * day) batchSize) batchSize maxBatches
    batches cuts (drainBatch (monthAt (now - s.settings.usageMonthlyDays * day)) batchSize) batchSize maxBatches

/-- A number of days within its own limits; one that is not given stays. -/
def daysWithin (minimum : Int) (given : Option Int) (days : Nat) (message : String) : Except String Nat :=
  match given with
  | none => .ok days
  | some value => if minimum ≤ value ∧ value ≤ 3650 then .ok value.toNat else .error message

structure SettingsParams where
  usageRawDays : Option Int
  usageMonthlyDays : Option Int
  investigationHold : Option Bool

def setSettings (params : SettingsParams) : Sys UsageStore String Unit := do
  let s ← Sys.get
  let usageRawDays ← Sys.ofExcept (daysWithin 30 params.usageRawDays s.settings.usageRawDays
    "usage_raw_days must be between 30 and 3650 days")
  let usageMonthlyDays ← Sys.ofExcept (daysWithin 365 params.usageMonthlyDays s.settings.usageMonthlyDays
    "usage_monthly_days must be between 365 and 3650 days")
  let investigationHold := params.investigationHold.getD s.settings.investigationHold
  Sys.modify fun s => { s with settings := { usageRawDays, usageMonthlyDays, investigationHold } }

/-- `refresh_snapshot`: a new sample, with the next id. -/
def refreshSnapshot (sample : UsageSnapshot) : Sys UsageStore String Unit := Sys.modify fun s =>
  let row := { sample with id := newId (s.snapshots.map UsageSnapshot.id) }
  { s with snapshots := s.snapshots ++ [row], written := row :: s.written }

end Boron.Usage

namespace Boron.Usage
open LocalTime

/-- A number of samples and the peaks over them. -/
@[ext]
structure Totals where
  count : Nat
  disk : Nat
  inode : Nat
  process : Nat
  deriving DecidableEq

instance : Add Totals where
  add a b := { count := a.count + b.count, disk := max a.disk b.disk, inode := max a.inode b.inode
               process := max a.process b.process }

instance : Zero Totals where
  zero := { count := 0, disk := 0, inode := 0, process := 0 }

instance : AddCommMonoid Totals where
  add_assoc a b c := Totals.ext (Nat.add_assoc _ _ _) (Nat.max_assoc _ _ _) (Nat.max_assoc _ _ _) (Nat.max_assoc _ _ _)
  zero_add a := Totals.ext (Nat.zero_add _) (Nat.zero_max _) (Nat.zero_max _) (Nat.zero_max _)
  add_zero a := Totals.ext (Nat.add_zero _) (Nat.max_zero _) (Nat.max_zero _) (Nat.max_zero _)
  add_comm a b := Totals.ext (Nat.add_comm _ _) (Nat.max_comm _ _) (Nat.max_comm _ _) (Nat.max_comm _ _)
  nsmul := nsmulRec

def UsageSnapshot.totals (sample : UsageSnapshot) : Totals :=
  { count := 1, disk := sample.diskBytes, inode := sample.inodeCount, process := sample.processCount }

def UsageMonthlyAggregate.totals (row : UsageMonthlyAggregate) : Totals :=
  { count := row.sampleCount, disk := row.diskPeakBytes, inode := row.inodePeak, process := row.processPeak }

def folded (samples : List UsageSnapshot) (key : Nat × Int) : Totals :=
  Tally.total UsageSnapshot.key UsageSnapshot.totals samples key

def stored (rows : List UsageMonthlyAggregate) (key : Nat × Int) : Totals :=
  ((rows.find? fun row => row.key = key).map UsageMonthlyAggregate.totals).getD 0

theorem absorb_totals (row : UsageMonthlyAggregate) (samples : List UsageSnapshot) :
    (row.absorb samples).totals = row.totals + (samples.map UsageSnapshot.totals).sum := by
  induction samples generalizing row with
  | nil => exact (add_zero _).symm
  | cons sample samples ih =>
    have first : row.absorb (sample :: samples) = (row.absorb [sample]).absorb samples := by
      simp only [UsageMonthlyAggregate.absorb, List.length_cons, List.length_nil, List.map_cons, List.foldl_cons,
        List.map_nil, List.foldl_nil]
      congr 1
      omega
    have single : (row.absorb [sample]).totals = row.totals + sample.totals := rfl
    rw [first, ih, single, List.map_cons, List.sum_cons, add_assoc]

theorem absorb_key (row : UsageMonthlyAggregate) (samples : List UsageSnapshot) :
    (row.absorb samples).key = row.key := rfl

theorem stored_absorbGroup (rows : List UsageMonthlyAggregate) (group : (Nat × Int) × List UsageSnapshot)
    (key : Nat × Int) : stored (absorbGroup rows group) key =
      stored rows key + if group.1 = key then (group.2.map UsageSnapshot.totals).sum else 0 := by
  unfold absorbGroup
  cases found : rows.find? fun row => row.key = group.1 with
  | none =>
    have fresh : ((emptyAggregate rows group.1).absorb group.2).totals = (group.2.map UsageSnapshot.totals).sum := by
      rw [absorb_totals]
      exact zero_add _
    unfold stored
    rw [List.find?_append]
    by_cases same : group.1 = key
    · rw [← same, found, Option.none_or, List.find?_singleton, if_pos (by exact decide_eq_true rfl), if_pos rfl,
        Option.map_some, Option.getD_some, fresh]
      exact (zero_add _).symm
    · have misses : ¬ decide (((emptyAggregate rows group.1).absorb group.2).key = key) = true := by
        rw [absorb_key, decide_eq_true_eq]
        exact same
      rw [List.find?_singleton, if_neg misses, Option.or_none, if_neg same, add_zero]
  | some row =>
    unfold stored
    have sameKeys : ((fun row => decide (row.key = key)) ∘ fun row : UsageMonthlyAggregate =>
        if row.key = group.1 then row.absorb group.2 else row) = fun row => decide (row.key = key) := by
      funext row
      simp only [Function.comp_apply]
      split
      · rw [absorb_key]
      · rfl
    rw [List.find?_map, sameKeys]
    by_cases same : group.1 = key
    · rw [← same, found, if_pos rfl]
      have hit : row.key = group.1 := by simpa using List.find?_some found
      rw [Option.map_some, Option.map_some, Option.map_some, Option.getD_some, Option.getD_some, if_pos hit, absorb_totals]
    · rw [if_neg same, add_zero]
      cases held : rows.find? fun row => row.key = key with
      | none => rfl
      | some other =>
        have hit : other.key = key := by simpa using List.find?_some held
        rw [Option.map_some, Option.map_some, if_neg (fun wrong => same (wrong.symm.trans hit))]
        rfl

theorem newId_fresh (ids : List Nat) : newId ids ∉ ids := by
  have above (id : Nat) (member : id ∈ ids) : id ≤ ids.foldr max 0 := by
    induction ids with
    | nil => cases member
    | cons first rest ih =>
      rw [List.foldr_cons]
      rcases List.mem_cons.mp member with rfl | member
      · exact Nat.le_max_left _ _
      · have bound := ih member
        omega
  intro member
  have bound := above _ member
  unfold newId at bound
  omega

section
variable {α : Type} {id : α → Nat} {rows : List α} {selected : α → Bool} {limit : Nat}

theorem mem_firstRows {row : α} (member : row ∈ firstRows id rows selected limit) : row ∈ rows ∧ selected row := by
  have sorted := List.mem_of_mem_take member
  rw [List.mem_insertionSort, List.mem_filter] at sorted
  exact sorted

theorem mem_firstRows_of_id (unique : Rows.Unique id rows) {row : α} (listed : row ∈ rows)
    (sameId : id row ∈ (firstRows id rows selected limit).map id) : row ∈ firstRows id rows selected limit := by
  obtain ⟨other, member, same⟩ := List.mem_map.mp sameId
  have equal : other = row := List.inj_on_of_nodup_map unique (mem_firstRows member).1 listed same
  rwa [equal] at member

theorem firstRows_perm [DecidableEq α] (unique : Rows.Unique id rows) :
    (rows.filter fun row => id row ∈ (firstRows id rows selected limit).map id).Perm
      (firstRows id rows selected limit) := by
  have distinct : rows.Nodup := unique.of_map id
  have sorted : ((rows.filter selected).insertionSort fun a b => id a ≤ id b).Nodup :=
    (List.perm_insertionSort _ _).nodup_iff.mpr (distinct.filter selected)
  refine (List.perm_ext_iff_of_nodup (distinct.filter _) (sorted.sublist (List.take_sublist _ _))).mpr fun row => ?_
  rw [List.mem_filter, decide_eq_true_eq]
  constructor
  · rintro ⟨listed, sameId⟩
    exact mem_firstRows_of_id unique listed sameId
  · intro member
    exact ⟨(mem_firstRows member).1, List.mem_map_of_mem member⟩

end

/-- Of each month that no pruning has begun to delete, the aggregate and the
samples still there make up the fold over all samples ever taken. -/
structure Conserved (s : UsageStore) : Prop where
  sampleIds : Rows.Unique UsageSnapshot.id s.snapshots
  aggregateIds : Rows.Unique UsageMonthlyAggregate.id s.aggregates
  whole : ∀ key, (∀ cutoff ∈ s.cutoffs, cutoff ≤ key.2) →
    stored s.aggregates key + folded s.snapshots key = folded s.written key

end Boron.Usage

namespace Boron.Usage
open LocalTime

variable {s : UsageStore} {rows : List UsageMonthlyAggregate}

theorem absorbGroup_unique (unique : Rows.Unique UsageMonthlyAggregate.id rows)
    (group : (Nat × Int) × List UsageSnapshot) :
    Rows.Unique UsageMonthlyAggregate.id (absorbGroup rows group) := by
  unfold absorbGroup
  cases rows.find? fun row => row.key = group.1 with
  | none =>
    unfold Rows.Unique
    rw [List.map_append]
    refine List.Nodup.append unique (List.nodup_singleton _) fun id member same => ?_
    rw [List.map_singleton, List.mem_singleton] at same
    exact newId_fresh _ (same ▸ member)
  | some row =>
    have sameIds : (rows.map fun row => if row.key = group.1 then row.absorb group.2 else row).map
        UsageMonthlyAggregate.id = rows.map UsageMonthlyAggregate.id := by
      rw [List.map_map]
      refine List.map_congr_left fun row _ => ?_
      simp only [Function.comp_apply]
      split <;> rfl
    rw [Rows.Unique, sameIds]
    exact unique

theorem absorbGroups_unique (unique : Rows.Unique UsageMonthlyAggregate.id rows)
    (groups : List ((Nat × Int) × List UsageSnapshot)) :
    Rows.Unique UsageMonthlyAggregate.id (groups.foldl absorbGroup rows) := by
  induction groups generalizing rows with
  | nil => exact unique
  | cons group groups ih => exact ih (absorbGroup_unique unique group)

theorem aggregateBatch_conserved (cutoff : Int) (batchSize : Nat) :
    Sys.Keeps (Sys.Stays Conserved) (aggregateBatch cutoff batchSize) := by
  intro s conserved
  refine ⟨conserved.sampleIds.sublist (List.filter_sublist.map _), absorbGroups_unique conserved.aggregateIds _,
    fun key recent => ?_⟩
  have added : stored ((Tally.grouped UsageSnapshot.key (s.expired cutoff batchSize)).foldl absorbGroup s.aggregates) key =
      stored s.aggregates key + folded (s.expired cutoff batchSize) key := by
    rw [Tally.foldl_merge UsageSnapshot.totals stored absorbGroup stored_absorbGroup, Tally.gathered_grouped]
    rfl
  have taken : folded (s.snapshots.filter fun sample => sample.id ∈ (s.expired cutoff batchSize).map UsageSnapshot.id) key =
      folded (s.expired cutoff batchSize) key :=
    Tally.total_perm _ _ (firstRows_perm conserved.sampleIds) key
  have parts : folded (s.snapshots.filter fun sample => sample.id ∈ (s.expired cutoff batchSize).map UsageSnapshot.id) key +
      folded (s.snapshots.filter fun sample => ¬ sample.id ∈ (s.expired cutoff batchSize).map UsageSnapshot.id) key =
        folded s.snapshots key := by
    simpa only [folded, decide_not] using Tally.total_filter UsageSnapshot.key UsageSnapshot.totals
      (fun sample => sample.id ∈ (s.expired cutoff batchSize).map UsageSnapshot.id) s.snapshots key
  have before := conserved.whole key recent
  rw [← parts, taken, ← add_assoc, ← added] at before
  exact before

theorem find_filter_kept {keep : UsageMonthlyAggregate → Bool} {key : Nat × Int}
    (kept : ∀ row ∈ rows, row.key = key → keep row) :
    (rows.filter keep).find? (fun row => row.key = key) = rows.find? fun row => row.key = key := by
  induction rows with
  | nil => rfl
  | cons row rows ih =>
    have rest := ih fun other member => kept other (List.mem_cons_of_mem row member)
    by_cases same : row.key = key
    · rw [List.filter_cons_of_pos (kept row List.mem_cons_self same), List.find?_cons_of_pos (by simpa using same),
        List.find?_cons_of_pos (by simpa using same)]
    · rw [List.find?_cons_of_neg (by simpa using same), ← rest]
      cases keeps : keep row with
      | true => rw [List.filter_cons_of_pos keeps, List.find?_cons_of_neg (by simpa using same)]
      | false => rw [List.filter_cons_of_neg (by simp [keeps])]

theorem drainBatch_conserved (cutoff : Int) (batchSize : Nat) :
    Sys.Keeps (Sys.Stays Conserved) (drainBatch cutoff batchSize) := by
  intro s conserved
  refine ⟨conserved.sampleIds, conserved.aggregateIds.sublist (List.filter_sublist.map _), fun key recent => ?_⟩
  have recentBefore : ∀ other ∈ s.cutoffs, other ≤ key.2 := fun other member =>
    recent other (List.mem_cons_of_mem cutoff member)
  have reached : cutoff ≤ key.2 := recent cutoff List.mem_cons_self
  have kept : stored (s.aggregates.filter fun row => ¬ row.id ∈ (s.outdated cutoff batchSize).map UsageMonthlyAggregate.id)
      key = stored s.aggregates key := by
    refine congrArg (fun found => (Option.map UsageMonthlyAggregate.totals found).getD 0) (find_filter_kept ?_)
    intro row member same
    by_contra deleted
    have listed : row.id ∈ (s.outdated cutoff batchSize).map UsageMonthlyAggregate.id := by simpa using deleted
    have old := (mem_firstRows (mem_firstRows_of_id conserved.aggregateIds member listed)).2
    have month : row.month = key.2 := congrArg Prod.snd same
    simp only [decide_eq_true_eq] at old
    omega
  have before := conserved.whole key recentBefore
  rw [← kept] at before
  exact before

variable (cuts : Nat → Durable.Cut)

theorem batches_conserved {batch : Sys UsageStore String Nat} (keeps : Sys.Keeps (Sys.Stays Conserved) batch)
    (batchSize left : Nat) : Sys.Keeps (Durable.Across (Sys.Stays Conserved)) (batches cuts batch batchSize left) := by
  induction left with
  | zero => exact Sys.Keeps.pure ()
  | succ left ih =>
    refine (Durable.step_keeps cuts keeps).bind fun count => ?_
    split
    · exact Sys.Keeps.pure ()
    · exact ih

theorem prune_conserved (now : Int) (params : PruneParams) :
    Sys.Keeps (Durable.Across (Sys.Stays Conserved)) (prune cuts now params) := by
  refine Durable.get_keeps.bind fun s => ?_
  split
  · exact Sys.Keeps.pure ()
  · exact (batches_conserved cuts (aggregateBatch_conserved _ _) _ _).bind fun _ =>
      batches_conserved cuts (drainBatch_conserved _ _) _ _

theorem setSettings_conserved (params : SettingsParams) : Sys.Keeps (Sys.Stays Conserved) (setSettings params) := by
  refine Sys.Keeps.get.bind fun s => (Sys.Keeps.ofExcept _).bind fun _ => (Sys.Keeps.ofExcept _).bind fun _ =>
    Sys.Keeps.modify fun s conserved => ?_
  exact ⟨conserved.sampleIds, conserved.aggregateIds, conserved.whole⟩

theorem refreshSnapshot_conserved (sample : UsageSnapshot) :
    Sys.Keeps (Sys.Stays Conserved) (refreshSnapshot sample) := by
  refine Sys.Keeps.modify fun s conserved => ⟨?_, conserved.aggregateIds, fun key recent => ?_⟩
  · unfold Rows.Unique
    rw [List.map_append]
    refine List.Nodup.append conserved.sampleIds (List.nodup_singleton _) fun id member same => ?_
    rw [List.map_singleton, List.mem_singleton] at same
    exact newId_fresh _ (same ▸ member)
  · have before := conserved.whole key recent
    unfold folded at before ⊢
    rw [Tally.total_append, Tally.total_cons, Tally.total_cons, ← before, Tally.total_nil, add_zero, ← add_assoc]
    exact add_comm _ _

/-- A step of a run; the machine may stop within any of them. -/
inductive Operation
  | refreshSnapshot (sample : UsageSnapshot)
  | setSettings (params : SettingsParams)
  | prune (now : Int) (params : PruneParams)

def Operation.step : Operation → Durable.Machine UsageStore → Durable.Machine UsageStore
  | .refreshSnapshot sample, m => ((Durable.step cuts (Usage.refreshSnapshot sample)).run m).2
  | .setSettings params, m => ((Durable.step cuts (Usage.setSettings params)).run m).2
  | .prune now params, m => ((Usage.prune cuts now params).run m).2

theorem Operation.conserved (operation : Operation) {m : Durable.Machine UsageStore} (conserved : Conserved m.store) :
    Conserved (operation.step cuts m).store := by
  cases operation with
  | refreshSnapshot sample => exact Durable.step_keeps cuts (refreshSnapshot_conserved sample) m conserved
  | setSettings params => exact Durable.step_keeps cuts (setSettings_conserved params) m conserved
  | prune now params => exact prune_conserved cuts now params m conserved

def UsageStore.start (snapshots : List UsageSnapshot) (settings : RetentionSettings) : Durable.Machine UsageStore :=
  { store := { snapshots, aggregates := [], settings, written := snapshots, cutoffs := [] }, steps := 0 }

/-- After any number of prunings, for every account and month that no pruning has
begun to delete, the aggregate and the samples still there make up all samples. -/
theorem usage_conserved (snapshots : List UsageSnapshot) (settings : RetentionSettings)
    (unique : Rows.Unique UsageSnapshot.id snapshots) {m : Durable.Machine UsageStore}
    (reached : Sys.Reaches (Operation.step cuts) (fun _ _ => True) (UsageStore.start snapshots settings) m)
    (key : Nat × Int) (recent : ∀ cutoff ∈ m.store.cutoffs, cutoff ≤ key.2) :
    stored m.store.aggregates key + folded m.store.snapshots key = folded m.store.written key := by
  have initial : Conserved (UsageStore.start snapshots settings).store :=
    ⟨unique, List.nodup_nil, fun key _ => zero_add _⟩
  have conserved : Conserved m.store := reached.invariant (I := fun m => Conserved m.store) initial
    fun _ operation _ conserved => operation.conserved cuts conserved
  exact conserved.whole key recent

def noCuts : Nat → Durable.Cut := fun _ => .none

def oldSample : UsageSnapshot :=
  { id := 1, accountId := 1, takenAt := 0, diskHomeBytes := 5, diskMailBytes := 0, diskDbBytes := 0, inodeCount := 3
    processCount := 1 }

def shortest : RetentionSettings := { usageRawDays := 30, usageMonthlyDays := 365, investigationHold := false }

def prunedAfter (days : Int) : Durable.Machine UsageStore :=
  (Operation.prune (days * day) { batchSize := 50, maxBatches := 20 }).step noCuts (UsageStore.start [oldSample] shortest)

theorem usage_conserved_after_forty_days : stored (prunedAfter 40).store.aggregates (1, 0) +
    folded (prunedAfter 40).store.snapshots (1, 0) = folded (prunedAfter 40).store.written (1, 0) :=
  usage_conserved noCuts [oldSample] shortest (by decide) (.next _ .start trivial) (1, 0) (by decide)

/-- After two years the aggregate is gone as well. -/
theorem old_month_deleted : stored (prunedAfter 730).store.aggregates (1, 0) +
    folded (prunedAfter 730).store.snapshots (1, 0) ≠ folded (prunedAfter 730).store.written (1, 0) := by
  decide

end Boron.Usage
