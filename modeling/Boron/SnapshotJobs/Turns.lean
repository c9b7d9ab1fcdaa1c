import Boron.SnapshotJobs.Store
import Boron.Lib.Tasks

namespace Boron.SnapshotJobs

inductive Call
  | queuePolicy (policyId : Nat) (options : Options) (destinationIds accountIds : List Nat) (busy : Nat → Bool)
  | executeRun (id : Nat)
  | cancelRun (id : Nat)
  | retryRun (id : Nat)
  | setRunPin (id : Nat) (pinned : Bool)
  | queueDownload (accountId runId : Nat)
  | executeDownload (id : Nat)
  | cleanupDownloads
  | recoverRuns

/-- What a turn finds outside: the call that begins, whether the process stops or the step
raises, the clock, the lost files, the time a repository records, a measured size, the free
staging space. -/
structure Moment where
  call : Call
  stops : Bool
  raises : Bool
  now : Nat
  missing : Nat → Bool
  time : Option Stamp
  size : Nat
  free : Nat

/-- Where `execute_run` stands. -/
inductive RunPhase
  | lockAccount
  | lockRepository
  | check
  | cancelEarly
  | verify
  | start
  | prepare
  | checkPrepared
  | cancelPrepared
  | save
  | checkSaved (snapshot : Nat)
  | cancelSaved (snapshot : Nat)
  | record (snapshot : Nat)
  | list
  | protect (items : List Snapshot)
  | forget (obsolete : List Nat)
  | expire (obsolete : List Nat)
  | safety
  | leave
  | complete
  | fail

/-- The worker has found its run pending, and has not written its start yet. -/
def RunPhase.isEarly : RunPhase → Bool
  | .cancelEarly | .verify | .start => true
  | _ => false

/-- The worker has started its run, and has not written its end yet. -/
def RunPhase.isLate : RunPhase → Bool
  | .prepare | .checkPrepared | .cancelPrepared | .save | .checkSaved _ | .cancelSaved _ | .record _ | .list
  | .protect _ | .forget _ | .expire _ | .safety | .complete => true
  | _ => false

def RunPhase.isLocked : RunPhase → Bool
  | .lockAccount | .complete | .fail => false
  | _ => true

inductive QueuePhase
  | cleanup
  | read
  | measure
  | reserve (estimate : Nat)

/-- Where `execute_download` stands. -/
inductive DownloadPhase
  | lockDownload
  | lockStaging
  | lockRepository
  | check
  | checkRun
  | start
  | build
  | reserve (size : Nat)
  | publish (size : Nat)
  | notify
  | leave
  | fail

inductive RecoverPhase
  | runs (rows : List SnapshotRun)
  | check (row : SnapshotRun) (rest : List SnapshotRun)
  | interrupt (row : SnapshotRun) (rest : List SnapshotRun)
  | leave (rest : List SnapshotRun)
  | readDownloads
  | downloads (items : List SnapshotDownload)
  | cleanup

inductive Task
  | idle
  | run (id : Nat) (job : Job) (phase : RunPhase)
  | pin (id : Nat) (pinned : Bool)
  | queue (accountId runId : Nat) (phase : QueuePhase)
  | download (id runId accountId : Nat) (phase : DownloadPhase)
  | recover (phase : RecoverPhase)

/-- An error leaves the `with` blocks first; the workers have an `except` around them. -/
def Task.raised : Task → Task
  | .run _ _ .fail => .idle
  | .run id job _ => .run id job .fail
  | .download _ _ _ .fail => .idle
  | .download id runId accountId _ => .download id runId accountId .fail
  | _ => .idle

def lockTurn (i : Nat) (name : LockName) (waiting granted : Task) (store : Store) : Task × Store :=
  match store.locks name with
  | none => (granted, store.acquire i name)
  | some _ => (waiting, store)

def callTurn (moment : Moment) (store : Store) : Task × Store :=
  match moment.call with
  | .queuePolicy policyId options destinationIds accountIds busy =>
    (.idle, store.queuePolicy policyId options destinationIds busy accountIds)
  | .executeRun id => match store.run id with
    | none => (.idle, store)
    | some row => (.run id row.job .lockAccount, store)
  | .cancelRun id => (.idle, store.cancelRun id)
  | .retryRun id => (.idle, store.retryRun id)
  | .setRunPin id pinned => match store.run id with
    | none => (.idle, store)
    | some row => if row.status = .completed ∨ row.status = .expired then (.pin id pinned, store) else (.idle, store)
  | .queueDownload accountId runId => (.queue accountId runId .cleanup, store)
  | .executeDownload id => match store.download id with
    | none => (.idle, store)
    | some row => (.download id row.runId row.accountId .lockDownload, store)
  | .cleanupDownloads => (.idle, store.cleanupDownloads moment.now moment.missing)
  | .recoverRuns => (.recover (.runs (store.runs.filter fun row => row.status.isActive)), store)

def runTurn (moment : Moment) (i id : Nat) (job : Job) (phase : RunPhase) (store : Store) : Task × Store :=
  match phase with
  | .lockAccount => lockTurn i (.account job.accountId) (.run id job .lockAccount) (.run id job .lockRepository) store
  | .lockRepository =>
    lockTurn i (.repository job.destinationId) (.run id job .lockRepository) (.run id job .check) store
  | .check => match store.run id with
    | none => (.run id job .fail, store.release i)
    | some row =>
      if row.status ≠ .pending then (.run id job .leave, store)
      else if row.cancelRequested then (.run id job .cancelEarly, store)
      else (.run id job .verify, store)
  | .cancelEarly => (.run id job .leave, store.update id fun row => { row with status := .cancelled })
  -- The account is active and its websites are paused.
  | .verify => (.run id job .start, store)
  | .start =>
    let started := store.update id fun row => { row with status := .running }
    (.run id job .prepare, { started with begun := (i, id) :: started.begun })
  | .prepare => (.run id job .checkPrepared, store)
  | .checkPrepared => match store.run id with
    | none => (.run id job .fail, store.release i)
    | some row => if row.cancelRequested then (.run id job .cancelPrepared, store) else (.run id job .save, store)
  | .cancelPrepared => (.run id job .leave, store.update id fun row => { row with status := .cancelled })
  | .save => (.run id job (.checkSaved (Rows.next Snapshot.id store.saved)), store.backup id job moment.time)
  | .checkSaved snapshot => match store.run id with
    | none => (.run id job .fail, store.release i)
    | some row =>
      if row.cancelRequested then (.run id job (.cancelSaved snapshot), store) else (.run id job (.record snapshot), store)
  | .cancelSaved snapshot =>
    (.run id job .leave, store.update id fun row => { row with status := .cancelled, snapshotId := some snapshot })
  | .record snapshot => (.run id job .list, store.update id fun row => { row with snapshotId := some snapshot })
  | .list => (.run id job (.protect (store.items job)), store)
  | .protect items =>
    let obsolete := obsoleteIds items job.options (store.protected_ job)
    if obsolete = [] then (.run id job .safety, store) else (.run id job (.forget obsolete), store)
  | .forget obsolete => (.run id job (.expire obsolete), store.forget i obsolete)
  | .expire obsolete => (.run id job .safety, store.expire i job obsolete)
  | .safety => (.run id job .complete, store.release i)
  | .leave => (.idle, store.release i)
  -- The account lock is free again when the last status is written.
  | .complete => (.idle, store.update id fun row => { row with status := .completed })
  | .fail => (.idle, store.update id fun row => { row with status := .failed })

def queueTurn (quotaHardMb : Nat → Nat) (moment : Moment) (accountId runId : Nat) (phase : QueuePhase)
    (store : Store) : Task × Store :=
  match phase with
  | .cleanup => (.queue accountId runId .read, store.cleanupDownloads moment.now moment.missing)
  | .read => match store.run runId with
    | none => (.idle, store)
    | some row =>
      if row.job.accountId = accountId ∧ row.status = .completed ∧ row.snapshotId.isSome = true then
        (.queue accountId runId .measure, store)
      else (.idle, store)
  | .measure => (.queue accountId runId (.reserve moment.size), store)
  | .reserve estimate => (.idle, store.reserve quotaHardMb accountId runId estimate moment.free)

def downloadTurn (quotaHardMb : Nat → Nat) (moment : Moment) (i id runId accountId : Nat) (phase : DownloadPhase)
    (store : Store) : Task × Store :=
  let go := Task.download id runId accountId
  match phase with
  | .lockDownload => lockTurn i (.download id) (go .lockDownload) (go .lockStaging) store
  | .lockStaging => lockTurn i .downloadStaging (go .lockStaging) (go .lockRepository) store
  | .lockRepository => match store.run runId with
    | none => (go .fail, store.release i)
    | some row => lockTurn i (.repository row.job.destinationId) (go .lockRepository) (go .check) store
  | .check => match store.download id with
    | none => (go .fail, store.release i)
    | some row => if row.status = .pending then (go .checkRun, store) else (go .leave, store)
  | .checkRun => match store.run runId, store.download id with
    | some run, some row =>
      if run.status = .completed ∧ run.snapshotId.isSome = true ∧ row.sizeBytes.getD 0 ≠ 0
          ∧ row.sizeBytes.getD 0 + downloadFreeReserve ≤ moment.free then (go .start, store)
      else (go .fail, store.release i)
    | _, _ => (go .fail, store.release i)
  | .start => (go .build, store.updateDownload id fun row => { row with status := .running })
  | .build => (go (.reserve moment.size), store)
  | .reserve size =>
    if allowance quotaHardMb accountId < store.readyBytes accountId (fun row => row.id ≠ id) + size then
      (go .fail, store.release i)
    else (go (.publish size), store)
  | .publish size =>
    (go .notify, store.updateDownload id fun row =>
      { row with status := .ready, sizeBytes := some size, expiresAt := some (moment.now + 24 * 60 * 60) })
  | .notify => (go .leave, store)
  | .leave => (.idle, store.release i)
  | .fail => (.idle, store.updateDownload id fun row => { row with status := .failed, sizeBytes := none })

def recoverTurn (moment : Moment) (i : Nat) (phase : RecoverPhase) (store : Store) : Task × Store :=
  match phase with
  | .runs [] => (.recover .readDownloads, store)
  | .runs (row :: rest) =>
    -- A pending run is submitted to the executor again.
    if row.status = .pending then (.recover (.runs rest), store)
    else match store.locks (.account row.job.accountId) with
      | none => (.recover (.check row rest), store.acquire i (.account row.job.accountId))
      | some _ => (.recover (.runs rest), store)
  | .check row rest => match store.run row.id with
    | none => (.idle, store.release i)
    | some current =>
      if current.status = .running then (.recover (.interrupt row rest), store) else (.recover (.leave rest), store)
  | .interrupt row rest => (.recover (.leave rest), store.update row.id fun row => { row with status := .failed })
  | .leave rest => (.recover (.runs rest), store.release i)
  | .readDownloads => (.recover (.downloads (store.downloads.filter fun row => row.status.isActive)), store)
  | .downloads [] => (.recover .cleanup, store)
  | .downloads (item :: rest) =>
    if item.status = .pending then (.recover (.downloads rest), store)
    else (.recover (.downloads rest), store.updateDownload item.id fun row => { row with status := .failed })
  | .cleanup => (.idle, store.cleanupDownloads moment.now moment.missing)

def advance (quotaHardMb : Nat → Nat) (i : Nat) (moment : Moment) (task : Task) (store : Store) : Task × Store :=
  if moment.stops then (.idle, store.release i)
  else if moment.raises then (task.raised, store.release i)
  else match task with
    | .idle => callTurn moment store
    | .run id job phase => runTurn moment i id job phase store
    | .pin id pinned => (.idle, store.update id fun row => { row with pinned })
    | .queue accountId runId phase => queueTurn quotaHardMb moment accountId runId phase store
    | .download id runId accountId phase => downloadTurn quotaHardMb moment i id runId accountId phase store
    | .recover phase => recoverTurn moment i phase store

abbrev Panel := Tasks.Server Nat Task Store

/-- A panel whose backup tables are empty and whose workers are idle. -/
def Panel.fresh : Panel :=
  { store :=
      { runs := [], downloads := [], saved := [], forgotten := [], locks := fun _ => none
        begun := [], cancelledEarly := [], backedUp := [], taking := fun _ => [] }
    task := fun _ => .idle }

end Boron.SnapshotJobs
