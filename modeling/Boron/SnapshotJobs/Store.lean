import Mathlib.Data.List.Sort
import Boron.Lib.Rows

namespace Boron.SnapshotJobs

inductive RunStatus
  | pending
  | running
  | completed
  | failed
  | cancelled
  | expired
  deriving DecidableEq

def RunStatus.isActive : RunStatus → Bool
  | .pending | .running => true
  | _ => false

inductive DownloadStatus
  | pending
  | running
  | ready
  | failed
  | expired
  deriving DecidableEq

def DownloadStatus.isActive : DownloadStatus → Bool
  | .pending | .running => true
  | _ => false

/-- The retention settings of a policy, as a run copies them. -/
structure Options where
  retentionCount : Option Int
  retentionDaily : Option Int
  retentionWeekly : Option Int
  retentionMonthly : Option Int

/-- The columns of a run that are written once, when it is queued. -/
structure Job where
  policyId : Nat
  destinationId : Nat
  accountId : Nat
  options : Options

structure SnapshotRun where
  id : Nat
  job : Job
  status : RunStatus
  snapshotId : Option Nat
  cancelRequested : Bool
  pinned : Bool

structure SnapshotDownload where
  id : Nat
  runId : Nat
  accountId : Nat
  status : DownloadStatus
  sizeBytes : Option Nat
  expiresAt : Option Nat

/-- A parsed time: its instant, and the calendar fields in the zone it was written in. -/
structure Stamp where
  instant : Int
  year : Int
  month : Int
  day : Int
  isoYear : Int
  isoWeek : Int

/-- A recovery point, with the account and the policy of its tags. -/
structure Snapshot where
  id : Nat
  destinationId : Nat
  accountId : Nat
  policyId : Nat
  time : Option Stamp

inductive LockName
  | account (id : Nat)
  | repository (id : Nat)
  | download (id : Nat)
  | downloadStaging
  deriving DecidableEq

/-- The database, the repositories and the lock files. A repository lists what was `saved`
and is not `forgotten`. The last four are not stored: which worker has begun which run, which
was reported as cancelled before its start, which has saved a recovery point, and what a
worker has forgotten without having marked its runs yet. -/
structure Store where
  runs : List SnapshotRun
  downloads : List SnapshotDownload
  saved : List Snapshot
  forgotten : List Nat
  locks : LockName → Option Nat
  begun : List (Nat × Nat)
  cancelledEarly : List Nat
  backedUp : List Nat
  taking : Nat → List Nat

def Store.run (store : Store) (id : Nat) : Option SnapshotRun := Rows.byKey SnapshotRun.id store.runs id

def Store.download (store : Store) (id : Nat) : Option SnapshotDownload :=
  Rows.byKey SnapshotDownload.id store.downloads id

def Store.update (id : Nat) (f : SnapshotRun → SnapshotRun) (store : Store) : Store :=
  { store with runs := Rows.change SnapshotRun.id id f store.runs }

def Store.updateDownload (id : Nat) (f : SnapshotDownload → SnapshotDownload) (store : Store) : Store :=
  { store with downloads := Rows.change SnapshotDownload.id id f store.downloads }

def Store.acquire (i : Nat) (name : LockName) (store : Store) : Store :=
  { store with locks := fun other => if other = name then some i else store.locks other }

/-- The end of a `with`, or of the process: every lock of `i` is free again. -/
def Store.release (i : Nat) (store : Store) : Store :=
  { store with
    locks := fun name => if store.locks name = some i then none else store.locks name
    taking := fun j => if j = i then [] else store.taking j }

def newRun (runs : List SnapshotRun) (job : Job) : SnapshotRun :=
  { id := Rows.next SnapshotRun.id runs, job, status := .pending, snapshotId := none
    cancelRequested := false, pinned := false }

def Store.queueRun (job : Job) (store : Store) : Store :=
  { store with runs := store.runs ++ [newRun store.runs job] }

def Store.isBusy (store : Store) (accountId : Nat) : Bool :=
  store.runs.any fun run => run.job.accountId = accountId && run.status.isActive

/-- The loop of `_queue_policy` over the selected accounts; `busy` are those with an active
restore or an older job. -/
def Store.queuePolicy (policyId : Nat) (options : Options) (destinationIds : List Nat) (busy : Nat → Bool) :
    List Nat → Store → Store
  | [], store => store
  | accountId :: rest, store =>
    if store.isBusy accountId || busy accountId then queuePolicy policyId options destinationIds busy rest store
    else
      let queued := destinationIds.foldl
        (fun store destinationId => store.queueRun { policyId, destinationId, accountId, options }) store
      queuePolicy policyId options destinationIds busy rest queued

def Store.cancelRun (id : Nat) (store : Store) : Store :=
  match store.run id with
  | none => store
  | some row => match row.status with
    | .pending =>
      let cancelled := store.update id fun row => { row with status := .cancelled, cancelRequested := true }
      { cancelled with cancelledEarly := id :: cancelled.cancelledEarly }
    | .running => store.update id fun row => { row with cancelRequested := true }
    | _ => store

def Store.retryRun (id : Nat) (store : Store) : Store :=
  match store.run id with
  | none => store
  | some source =>
    if (source.status = .failed || source.status = .cancelled) && !store.isBusy source.job.accountId then
      store.queueRun source.job
    else store

/-- `storage.backup`: restic draws an identifier that no recovery point has had. -/
def Store.backup (id : Nat) (job : Job) (time : Option Stamp) (store : Store) : Store :=
  let snapshot : Snapshot :=
    { id := Rows.next Snapshot.id store.saved, destinationId := job.destinationId
      accountId := job.accountId, policyId := job.policyId, time }
  { store with saved := store.saved ++ [snapshot], backedUp := id :: store.backedUp }

/-- `storage.snapshots` of the account, less those of other policies. -/
def Store.items (job : Job) (store : Store) : List Snapshot :=
  store.saved.filter fun item =>
    item.destinationId = job.destinationId && item.accountId = job.accountId && !store.forgotten.contains item.id
      && item.policyId = job.policyId

/-- The pinned recovery points of the account at the destination, and those that an active
download of the account reads. -/
def Store.protected_ (job : Job) (store : Store) : List Nat :=
  let pinned := store.runs.filter fun run =>
    run.job.accountId = job.accountId && run.job.destinationId = job.destinationId && run.pinned
  let downloads := store.downloads.filter fun download =>
    download.accountId = job.accountId && download.status.isActive
  let downloaded := store.runs.filter fun run => downloads.any fun download => download.runId = run.id
  pinned.filterMap SnapshotRun.snapshotId ++ downloaded.filterMap SnapshotRun.snapshotId

/-- `storage.forget` by worker `i`. -/
def Store.forget (i : Nat) (obsolete : List Nat) (store : Store) : Store :=
  { store with
    forgotten := obsolete ++ store.forgotten
    taking := fun j => if j = i then obsolete else store.taking j }

/-- The runs whose recovery point is gone, marked by worker `i`. -/
def Store.expire (i : Nat) (job : Job) (obsolete : List Nat) (store : Store) : Store :=
  { store with
    runs := store.runs.map fun run =>
      if run.job.accountId = job.accountId && run.job.destinationId = job.destinationId
          && run.snapshotId.any obsolete.contains then { run with status := .expired } else run
    taking := fun j => if j = i then [] else store.taking j }

def downloadFreeReserve : Nat := 2 * 1024 * 1024 * 1024

def downloadAccountMinBudget : Nat := 2 * 1024 * 1024 * 1024

def downloadMinReservation : Nat := 512 * 1024 * 1024

/-- `account_budget`. -/
def allowance (quotaHardMb : Nat → Nat) (accountId : Nat) : Nat :=
  max downloadAccountMinBudget (quotaHardMb accountId * 1024 * 1024)

def total : List SnapshotDownload → Nat
  | [] => 0
  | download :: rest => download.sizeBytes.getD 0 + total rest

/-- `ready_bytes`, over the ready downloads of the account that satisfy `counted`. -/
def Store.readyBytes (store : Store) (accountId : Nat) (counted : SnapshotDownload → Bool) : Nat :=
  total (store.downloads.filter fun download =>
    download.accountId = accountId && download.status = .ready && counted download)

def Store.reservedBytes (store : Store) : Nat :=
  total (store.downloads.filter fun download => download.status.isActive)

/-- What `queue_download` sets aside for a recovery point of an estimated size. -/
def projected (estimate : Nat) : Nat := max (estimate * 2 + 64 * 1024 * 1024) downloadMinReservation

/-- The admission session of `queue_download`; a refused request leaves the store. -/
def Store.reserve (quotaHardMb : Nat → Nat) (accountId runId estimate free : Nat) (store : Store) : Store :=
  let reserved := store.reservedBytes + projected estimate + downloadFreeReserve
  if store.downloads.any fun download => download.runId = runId && download.accountId = accountId
      && (download.status.isActive || download.status = .ready) then store
  else if store.downloads.any fun download => download.accountId = accountId && download.status.isActive then store
  else if allowance quotaHardMb accountId < store.readyBytes accountId (fun _ => true) + estimate then store
  else if free < reserved then store
  else
    let row : SnapshotDownload :=
      { id := Rows.next SnapshotDownload.id store.downloads, runId, accountId, status := .pending
        sizeBytes := some (projected estimate), expiresAt := none }
    { store with downloads := store.downloads ++ [row] }

/-- `cleanup_downloads`; `missing` are the downloads whose file is gone. -/
def SnapshotDownload.cleaned (now : Nat) (missing : Nat → Bool) (row : SnapshotDownload) : SnapshotDownload :=
  if row.status = .ready then
    if missing row.id then { row with status := .failed }
    else match row.expiresAt with
      | none => row
      | some expires => if now < expires then row else { row with status := .expired }
  else row

def Store.cleanupDownloads (now : Nat) (missing : Nat → Bool) (store : Store) : Store :=
  { store with downloads := store.downloads.map (SnapshotDownload.cleaned now missing) }

end Boron.SnapshotJobs

namespace Boron.SnapshotJobs

/-- Where an unreadable time stands: the first instant of year 1, a Monday. -/
def Stamp.min : Stamp :=
  { instant := -62135596800000000, year := 1, month := 1, day := 1, isoYear := 1, isoWeek := 1 }

def Snapshot.stamp (item : Snapshot) : Stamp := item.time.getD Stamp.min

def newestFirst (items : List Snapshot) : List Snapshot :=
  items.insertionSort fun a b => b.stamp.instant ≤ a.stamp.instant

def Stamp.dayBucket (moment : Stamp) : List Int := [moment.year, moment.month, moment.day]

def Stamp.weekBucket (moment : Stamp) : List Int := [moment.isoYear, moment.isoWeek]

def Stamp.monthBucket (moment : Stamp) : List Int := [moment.year, moment.month]

/-- The newest recovery point of each of the first `count` buckets. -/
def tier (bucket : Stamp → List Int) (count : Int) : List (List Int) → List Snapshot → List Nat
  | _, [] => []
  | buckets, item :: rest =>
    if buckets.contains (bucket item.stamp) then tier bucket count buckets rest
    else if count ≤ buckets.length + 1 then [item.id]
    else item.id :: tier bucket count (bucket item.stamp :: buckets) rest

def tierIds (bucket : Stamp → List Int) (count : Int) (ordered : List Snapshot) : List Nat :=
  if count ≤ 0 then [] else tier bucket count [] ordered

def retainedSnapshotIds (items : List Snapshot) (options : Options) (protected_ : List Nat) : List Nat :=
  match newestFirst items with
  | [] => []
  | newest :: older =>
    let ordered := newest :: older
    (ordered.take (max 1 (options.retentionCount.getD 7)).toNat).map Snapshot.id
      ++ tierIds Stamp.dayBucket (options.retentionDaily.getD 0) ordered
      ++ tierIds Stamp.weekBucket (options.retentionWeekly.getD 0) ordered
      ++ tierIds Stamp.monthBucket (options.retentionMonthly.getD 0) ordered
      ++ [newest.id] ++ protected_

/-- What a run forgets after its own recovery point is saved. -/
def obsoleteIds (items : List Snapshot) (options : Options) (protected_ : List Nat) : List Nat :=
  let keep := retainedSnapshotIds items options protected_
  (items.filter fun item => !keep.contains item.id).map Snapshot.id

theorem protected_retained {items : List Snapshot} {options : Options} {protected_ : List Nat} {id : Nat}
    (some_ : items ≠ []) (member : id ∈ protected_) : id ∈ retainedSnapshotIds items options protected_ := by
  unfold retainedSnapshotIds
  cases sorted : newestFirst items with
  | nil =>
    have perm := List.perm_insertionSort (fun a b : Snapshot => b.stamp.instant ≤ a.stamp.instant) items
    unfold newestFirst at sorted
    rw [sorted] at perm
    exact absurd perm.symm.eq_nil some_
  | cons newest older => exact List.mem_append_right _ member

theorem obsolete_listed {items : List Snapshot} {options : Options} {protected_ : List Nat} {id : Nat}
    (member : id ∈ obsoleteIds items options protected_) : (∃ item ∈ items, item.id = id) ∧ id ∉ protected_ := by
  obtain ⟨item, inside, same⟩ := List.mem_map.mp member
  obtain ⟨listed, dropped⟩ := List.mem_filter.mp inside
  refine ⟨⟨item, listed, same⟩, fun kept => ?_⟩
  subst same
  have retained : item.id ∈ retainedSnapshotIds items options protected_ :=
    protected_retained (List.ne_nil_of_mem listed) kept
  simp [retained] at dropped

end Boron.SnapshotJobs
