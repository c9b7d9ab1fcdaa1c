import Boron.SnapshotJobs.Runs

namespace Boron.SnapshotJobs

variable {quotaHardMb : Nat → Nat} {server later : Panel}

/-- While nothing disturbs the runs at work, every run only goes on. -/
theorem rows_onward (holds : Tasks.Holds Sound (Relies True) server)
    (reached : Reaches quotaHardMb Undisturbed server later) :
    ∀ id row, server.store.run id = some row → ∃ row', later.store.run id = some row' ∧ Onward True row row' := by
  induction reached with
  | start => exact fun id row found => ⟨row, found, Onward.refl row⟩
  | @next mid who before permitted ih =>
    intro id row found
    obtain ⟨between, found', onward⟩ := ih id row found
    have held := reaches_holds (fun _ _ _ allowed => allowed) holds before
    have turned : Turned True who.1 _ mid.store (advance quotaHardMb who.1 who.2 (mid.task who.1) mid.store) :=
      advance_turned held.shared (held.relied who.1) fun _ id member => permitted id member who.1
    obtain ⟨row', found'', further, _⟩ := turned.leaves.rows id between found'
    exact ⟨row', found'', further.job.trans onward.job, fun begun => further.begun (onward.begun begun),
      fun requested => further.cancelled (onward.cancelled requested),
      fun calm => Nat.le_trans (onward.rank calm) (further.rank calm)⟩

theorem ended_rank {row row' : SnapshotRun} (rank : row.status.rank ≤ row'.status.rank) (ended : row.status.isActive = false) :
    row'.status.isActive = false ∧ (row.status ≠ .completed → row'.status ≠ .completed) := by
  cases status : row.status <;> cases status' : row'.status <;> simp_all [RunStatus.rank, RunStatus.isActive]

/-- A run is begun by one worker, and one that was cancelled before its start saves nothing,
in every interleaving. An ended run stays ended, and only a run that completed is completed,
while no cancellation, recovery, retention or other worker's failure writes the status of a
run whose worker is at work on it. -/
theorem run_lifecycle (quotaHardMb : Nat → Nat) :
    (∀ server, Reaches quotaHardMb (fun _ _ => True) Panel.fresh server →
      (server.store.begun.map Prod.snd).Nodup ∧ ∀ id ∈ server.store.cancelledEarly, id ∉ server.store.backedUp) ∧
    ∀ server, Reaches quotaHardMb Undisturbed Panel.fresh server →
      ∀ later, Reaches quotaHardMb Undisturbed server later →
        ∀ id row row', server.store.run id = some row → later.store.run id = some row' →
          row.status.isActive = false →
            row'.status.isActive = false ∧ (row.status ≠ .completed → row'.status ≠ .completed) := by
  constructor
  · intro server reached
    have holds : Tasks.Holds Sound (Relies False) server := reaches_holds (fun never => never.elim) fresh_holds reached
    exact ⟨holds.shared.once, fun id member => (holds.shared.cancelled id member).1⟩
  · intro server reached later afterwards id row row' found found' ended
    have holds : Tasks.Holds Sound (Relies True) server := reaches_holds (fun _ _ _ allowed => allowed) fresh_holds reached
    obtain ⟨same, now, onward⟩ := rows_onward holds afterwards id row found
    rw [found'] at now
    cases now
    exact ended_rank (onward.rank trivial) ended

def Moment.calling (call : Call) : Moment :=
  { call, stops := false, raises := false, now := 0, missing := fun _ => false, time := none, size := 1
    free := 8 * 1024 * 1024 * 1024 }

/-- A turn of a task that is under way. -/
def Moment.plain : Moment := Moment.calling .cleanupDownloads

def keepTwo : Options :=
  { retentionCount := some 2, retentionDaily := none, retentionWeekly := none, retentionMonthly := none }

/-- Run 1 of account 1 is queued, and worker 1 stands after its status check. -/
def checkedRun : List (Nat × Moment) :=
  [(0, .calling (.queuePolicy 1 keepTwo [1] [1] fun _ => false)), (1, .calling (.executeRun 1)), (1, .plain), (1, .plain),
    (1, .plain)]

def turnsOf (i count : Nat) : List (Nat × Moment) := List.replicate count (i, .plain)

/-- No turn of the list writes to a run without being its worker. -/
def apartTurns (quotaHardMb : Nat → Nat) : List (Nat × Moment) → Panel → Bool
  | [], _ => true
  | who :: rest, panel =>
    (overwritten who.2 (panel.task who.1) panel.store).isEmpty
      && apartTurns quotaHardMb rest (panel.turn (advance quotaHardMb) who)

theorem reaches_apart {start panel : Panel} (reached : Reaches quotaHardMb Undisturbed start panel)
    (turns : List (Nat × Moment)) (apart : apartTurns quotaHardMb turns panel = true) :
    Reaches quotaHardMb Undisturbed start (panel.after (advance quotaHardMb) turns) := by
  induction turns generalizing panel with
  | nil => exact reached
  | cons who rest ih =>
    obtain ⟨none, further⟩ := Bool.and_eq_true_iff.mp apart
    refine ih (reached.next who fun id member => ?_) further
    rw [List.isEmpty_iff.mp none] at member
    cases member

theorem run_lifecycle_completed :
    let server := Panel.fresh.after (advance fun _ => 0) (checkedRun ++ turnsOf 1 12)
    let later := server.after (advance fun _ => 0) [(2, .calling (.cancelRun 1)), (3, .calling .recoverRuns), (3, .plain)]
    (server.store.begun.map Prod.snd).Nodup ∧ (server.store.run 1).map SnapshotRun.status = some .completed ∧
      ∀ row', later.store.run 1 = some row' → row'.status.isActive = false := by
  intro server later
  have reached : Reaches (fun _ => 0) Undisturbed Panel.fresh server := reaches_apart .start _ (by decide)
  have afterwards : Reaches (fun _ => 0) Undisturbed server later := reaches_apart .start _ (by decide)
  refine ⟨((run_lifecycle fun _ => 0).1 server (Tasks.Reaches.after .start _)).1, by decide, fun row' found => ?_⟩
  have known : ∃ row, server.store.run 1 = some row ∧ row.status = .completed := by decide
  obtain ⟨row, found', completed⟩ := known
  exact ((run_lifecycle fun _ => 0).2 server reached later afterwards 1 row row' found' found (by rw [completed]; rfl)).1

/-- A cancellation between the check and the start: the cancelled run is running again. -/
theorem cancelled_run_returns : ∃ server later, Reaches (fun _ => 0) (fun _ _ => True) Panel.fresh server ∧
      Reaches (fun _ => 0) (fun _ _ => True) server later ∧
      (server.store.run 1).map SnapshotRun.status = some .cancelled ∧
      (later.store.run 1).map SnapshotRun.status = some .running :=
  ⟨_, _, Tasks.Reaches.after .start (checkedRun ++ [(2, .calling (.cancelRun 1))]),
    Tasks.Reaches.after .start (turnsOf 1 2), by decide, by decide⟩

end Boron.SnapshotJobs

namespace Boron.SnapshotJobs.Downloads

def rank : DownloadStatus → Nat
  | .pending => 0
  | .running => 1
  | .ready => 2
  | .failed | .expired => 3

/-- The worker has found its download pending, and has not written its start yet. -/
def isEarly : DownloadPhase → Bool
  | .checkRun | .start => true
  | _ => false

def isLate : DownloadPhase → Bool
  | .build | .reserve _ | .publish _ => true
  | _ => false

def hasOwnLock : DownloadPhase → Bool
  | .lockDownload | .fail => false
  | _ => true

def hasStaging : DownloadPhase → Bool
  | .lockDownload | .lockStaging | .fail => false
  | _ => true

/-- A worker is between its status check and its publication. -/
def preparing : Task → Option Nat
  | .download id _ _ phase => if isEarly phase || isLate phase then some id else none
  | _ => none

/-- The downloads that a turn records as failed without being their worker at work. -/
def failing (moment : Moment) (task : Task) : List Nat :=
  if moment.stops || moment.raises then [] else match task with
    | .download id _ _ .fail => [id]
    | .recover (.downloads (item :: _)) => if item.status = .pending then [] else [item.id]
    | _ => []

/-- No recovery and no other worker's failure is recorded on a download whose worker is at work. -/
def Undisturbed (panel : Panel) (who : Nat × Moment) : Prop :=
  ∀ id ∈ failing who.2 (panel.task who.1), ∀ j, preparing (panel.task j) ≠ some id

def activeOf (accountId : Nat) (row : SnapshotDownload) : Bool := row.accountId = accountId && row.status.isActive

structure Sound (calm : Prop) (quotaHardMb : Nat → Nat) (store : Store) : Prop where
  unique : Rows.Unique SnapshotDownload.id store.downloads
  budget : ∀ accountId, store.readyBytes accountId (fun _ => true) ≤ allowance quotaHardMb accountId
  one : calm → ∀ accountId, store.downloads.countP (activeOf accountId) ≤ 1

structure WorkerRelies (calm : Prop) (quotaHardMb : Nat → Nat) (i id accountId : Nat) (phase : DownloadPhase)
    (store : Store) : Prop where
  known : ∃ row, store.download id = some row ∧ row.accountId = accountId ∧
    (calm → isEarly phase = true → row.status = .pending) ∧ (calm → isLate phase = true → row.status = .running)
  own : hasOwnLock phase = true → store.locks (.download id) = some i
  staging : hasStaging phase = true → store.locks .downloadStaging = some i
  room : ∀ size, phase = .publish size →
    store.readyBytes accountId (fun row => row.id ≠ id) + size ≤ allowance quotaHardMb accountId

def Relies (calm : Prop) (quotaHardMb : Nat → Nat) (i : Nat) (task : Task) (store : Store) : Prop :=
  match task with
  | .download id _ accountId phase => WorkerRelies calm quotaHardMb i id accountId phase store
  | _ => True

structure Onward (calm : Prop) (row later : SnapshotDownload) : Prop where
  account : later.accountId = row.accountId
  rank : calm → rank row.status ≤ rank later.status

/-- What a turn of task `i` leaves of what the other workers of downloads rely on. -/
structure Leaves (calm : Prop) (i : Nat) (touched : Nat → Prop) (store left : Store) : Prop where
  locks : ∀ name j, j ≠ i → store.locks name = some j → left.locks name = some j
  rows : ∀ id row, store.download id = some row → ∃ later, left.download id = some later ∧ Onward calm row later ∧
    (later.status = row.status ∨ touched id ∨ row.status = .ready)
  bytes : (∀ accountId (keep : Nat → Bool),
    left.readyBytes accountId (fun row => keep row.id) ≤ store.readyBytes accountId fun row => keep row.id) ∨
    store.locks .downloadStaging = some i

section
variable {calm : Prop} {quotaHardMb : Nat → Nat} {i j id accountId runId : Nat} {phase phase' : DownloadPhase}
  {touched : Nat → Prop} {store left : Store} {row : SnapshotDownload} {f : SnapshotDownload → SnapshotDownload}

theorem Onward.refl (row : SnapshotDownload) : Onward calm row row := ⟨rfl, fun _ => Nat.le_refl _⟩

theorem leaves_of_same (downloads : left.downloads = store.downloads)
    (locks : ∀ name j, j ≠ i → store.locks name = some j → left.locks name = some j) :
    Leaves calm i touched store left := by
  refine ⟨locks, fun id row found => ⟨row, ?_, Onward.refl row, .inl rfl⟩, .inl fun accountId keep => ?_⟩
  · unfold Store.download
    rw [downloads]
    exact found
  · unfold Store.readyBytes
    rw [downloads]

theorem sound_of_same (sound : Sound calm quotaHardMb store) (downloads : left.downloads = store.downloads) :
    Sound calm quotaHardMb left := by
  obtain ⟨unique, budget, one⟩ := sound
  constructor <;> simp only [Store.readyBytes, downloads] <;> assumption

theorem total_append (first second : List SnapshotDownload) : total (first ++ second) = total first + total second := by
  induction first with
  | nil => simp [total]
  | cons row rest ih =>
    rw [List.cons_append, total, total, ih]
    omega

theorem total_map_le {P : SnapshotDownload → Bool} (rows : List SnapshotDownload)
    (shrinks : ∀ row ∈ rows, P (f row) = true → P row = true ∧ (f row).sizeBytes = row.sizeBytes) :
    total ((rows.map f).filter P) ≤ total (rows.filter P) := by
  induction rows with
  | nil => exact Nat.le_refl _
  | cons row rest ih =>
    have later := ih fun other member => shrinks other (List.mem_cons_of_mem row member)
    rw [List.map_cons, List.filter_cons, List.filter_cons]
    by_cases counted : P (f row) = true
    · obtain ⟨before, size⟩ := shrinks row List.mem_cons_self counted
      simp only [counted, before, if_true, total, size]
      omega
    · by_cases before : P row = true
      · simp only [counted, before, Bool.false_eq_true, if_false, if_true, total]
        omega
      · simp only [counted, before, Bool.false_eq_true, if_false]
        exact later

structure Rests (f : SnapshotDownload → SnapshotDownload) : Prop where
  id : ∀ row, (f row).id = row.id
  account : ∀ row, (f row).accountId = row.accountId
  ready : ∀ row, (f row).status = .ready → f row = row

theorem Rests.one (rests : Rests f) (id : Nat) : Rests fun row => if row.id = id then f row else row := by
  refine ⟨fun row => ?_, fun row => ?_, fun row ready => ?_⟩
  · split
    · exact rests.id row
    · rfl
  · split
    · exact rests.account row
    · rfl
  · split at ready
    · next own =>
      rw [if_pos own]
      exact rests.ready row ready
    · next other => rw [if_neg other]

theorem Rests.readyBytes (rests : Rests f) {left : Store} (downloads : left.downloads = store.downloads.map f)
    (accountId : Nat) (keep : Nat → Bool) :
    left.readyBytes accountId (fun row => keep row.id) ≤ store.readyBytes accountId fun row => keep row.id := by
  unfold Store.readyBytes
  rw [downloads]
  refine total_map_le store.downloads fun row _ chosen => ?_
  have ready : (f row).status = .ready := by
    simp only [Bool.and_eq_true, decide_eq_true_eq] at chosen
    exact chosen.1.2
  rw [rests.ready row ready] at chosen ⊢
  exact ⟨chosen, rfl⟩

theorem download_update (same : ∀ row, (f row).id = row.id) (other : Nat) :
    (store.updateDownload id f).download other =
      if id = other then (store.download other).map f else store.download other :=
  Rows.byKey_change same store.downloads id other

theorem download_id (found : store.download id = some row) : row ∈ store.downloads ∧ row.id = id := Rows.byKey_some found

/-- A change that makes no download ready, and none active. -/
theorem Rests.sound (rests : Rests f) (sound : Sound calm quotaHardMb store) (downloads : left.downloads = store.downloads.map f)
    (active : calm → ∀ row ∈ store.downloads, (f row).status.isActive = true → row.status.isActive = true) :
    Sound calm quotaHardMb left := by
  refine ⟨?_, fun accountId => ?_, fun isCalm accountId => ?_⟩
  · rw [downloads]
    exact Rows.unique_map rests.id sound.unique
  · exact Nat.le_trans (rests.readyBytes downloads accountId fun _ => true) (sound.budget accountId)
  · refine Nat.le_trans ?_ (sound.one isCalm accountId)
    rw [downloads, List.countP_map]
    refine List.countP_mono_left fun row inside chosen => ?_
    simp only [activeOf, Function.comp, rests.account, Bool.and_eq_true, decide_eq_true_eq] at chosen ⊢
    exact ⟨chosen.1, active isCalm row inside chosen.2⟩

theorem preparing_apart (first : WorkerRelies calm quotaHardMb i id accountId phase store) {accountId' : Nat}
    (second : WorkerRelies calm quotaHardMb j id accountId' phase' store)
    (busy : (isEarly phase || isLate phase) = true) (busy' : (isEarly phase' || isLate phase') = true) : i = j := by
  have locked (phase : DownloadPhase) (busy : (isEarly phase || isLate phase) = true) : hasOwnLock phase = true := by
    cases phase <;> first | rfl | cases busy
  have held := first.own (locked phase busy)
  rw [second.own (locked phase' busy')] at held
  exact (Option.some.inj held).symm

/-- What the other workers rely on stands after a turn that writes to no download they prepare. -/
theorem WorkerRelies.others (relies : WorkerRelies calm quotaHardMb j id accountId phase store) (other : j ≠ i)
    (leaves : Leaves calm i touched store left)
    (apart : calm → touched id → (isEarly phase || isLate phase) = true → False) :
    WorkerRelies calm quotaHardMb j id accountId phase left := by
  obtain ⟨row, found, account, early, late⟩ := relies.known
  obtain ⟨later, found', onward, status⟩ := leaves.rows id row found
  refine ⟨⟨later, found', onward.account.trans account, fun calm isEarly => ?_, fun calm isLate => ?_⟩,
    fun held => leaves.locks _ j other (relies.own held), fun held => leaves.locks _ j other (relies.staging held),
    fun size publishes => ?_⟩
  · rcases status with same | written | ready
    · exact same.trans (early calm isEarly)
    · exact (apart calm written (by simp [isEarly])).elim
    · rw [early calm isEarly] at ready
      cases ready
  · rcases status with same | written | ready
    · exact same.trans (late calm isLate)
    · exact (apart calm written (by simp [isLate])).elim
    · rw [late calm isLate] at ready
      cases ready
  · have room := relies.room size publishes
    rcases leaves.bytes with less | held
    · have bound := less accountId fun other => decide (other ≠ id)
      omega
    · subst publishes
      rw [relies.staging rfl] at held
      exact absurd (Option.some.inj held) other

/-- What a turn of task `i` has to show. -/
structure Turned (calm : Prop) (quotaHardMb : Nat → Nat) (i : Nat) (touched : Nat → Prop) (store : Store)
    (result : Task × Store) : Prop where
  sound : Sound calm quotaHardMb result.2
  relies : Relies calm quotaHardMb i result.1 result.2
  leaves : Leaves calm i touched store result.2

variable {task : Task}

section
variable (sound : Sound calm quotaHardMb store)
include sound

theorem turned_apart (relies : Relies calm quotaHardMb i task left) (downloads : left.downloads = store.downloads)
    (locks : ∀ name j, j ≠ i → store.locks name = some j → left.locks name = some j) :
    Turned calm quotaHardMb i touched store (task, left) :=
  ⟨sound_of_same sound downloads, relies, leaves_of_same downloads locks⟩

theorem turned_same (relies : Relies calm quotaHardMb i task store) :
    Turned calm quotaHardMb i touched store (task, store) := turned_apart sound relies rfl fun _ _ _ held => held

theorem turned_release (relies : Relies calm quotaHardMb i task (store.release i)) :
    Turned calm quotaHardMb i touched store (task, store.release i) :=
  turned_apart sound relies rfl fun _ _ other held => release_locks other held

theorem turned_lock {name : LockName} {waiting granted : Task}
    (waits : Relies calm quotaHardMb i waiting store) (goes : Relies calm quotaHardMb i granted (store.acquire i name)) :
    Turned calm quotaHardMb i touched store (lockTurn i name waiting granted store) := by
  unfold lockTurn
  cases free : store.locks name with
  | none => exact turned_apart sound goes rfl fun _ _ _ held => acquire_locks free held
  | some holder => exact turned_same sound waits

end

theorem leaves_update (rests : Rests f) (onward : ∀ row, store.download id = some row → Onward calm row (f row))
    (status : ∀ row, store.download id = some row → (f row).status = row.status ∨ touched id) :
    Leaves calm i touched store (store.updateDownload id f) := by
  refine ⟨fun _ _ _ held => held, fun other row found => ?_, .inl ((rests.one id).readyBytes rfl)⟩
  rw [download_update rests.id]
  by_cases own : id = other
  · subst own
    rw [if_pos rfl, found]
    exact ⟨f row, rfl, onward row found, (status row found).imp_right .inl⟩
  · rw [if_neg own]
    exact ⟨row, found, Onward.refl row, .inl rfl⟩

theorem rank_le (status : DownloadStatus) : rank status ≤ 3 := by cases status <;> decide

theorem failed_onward {later : SnapshotDownload} (account : later.accountId = row.accountId) (failed : later.status = .failed) :
    Onward calm row later := by
  refine ⟨account, fun _ => ?_⟩
  rw [failed]
  exact rank_le row.status

theorem failed_turned (sound : Sound calm quotaHardMb store) (relies : Relies calm quotaHardMb i task left)
    (same : ∀ row, (f row).id = row.id) (account : ∀ row, (f row).accountId = row.accountId)
    (failed : ∀ row, (f row).status = .failed) (written : left = store.updateDownload id f) (own : touched id) :
    Turned calm quotaHardMb i touched store (task, left) := by
  have rests : Rests f := ⟨same, account, fun row ready => by rw [failed row] at ready; cases ready⟩
  subst written
  refine ⟨(rests.one id).sound sound rfl fun _ row _ active => ?_, relies,
    leaves_update rests (fun row _ => failed_onward (account row) (failed row)) fun _ _ => .inr own⟩
  split at active
  · rw [failed row] at active
    cases active
  · exact active

theorem WorkerRelies.move (relies : WorkerRelies calm quotaHardMb i id accountId phase store)
    (early : isEarly phase' = true → isEarly phase = true) (late : isLate phase' = true → isLate phase = true)
    (own : hasOwnLock phase' = true → hasOwnLock phase = true) (staging : hasStaging phase' = true → hasStaging phase = true)
    (room : ∀ size, phase' ≠ .publish size) : WorkerRelies calm quotaHardMb i id accountId phase' store := by
  obtain ⟨row, found, account, isEarly, isLate⟩ := relies.known
  exact ⟨⟨row, found, account, fun calm now => isEarly calm (early now), fun calm now => isLate calm (late now)⟩,
    fun now => relies.own (own now), fun now => relies.staging (staging now), fun size publishes => absurd publishes (room size)⟩

theorem relies_found (found : store.download id = some row) (account : row.accountId = accountId)
    (early : isEarly phase = false) (late : isLate phase = false)
    (own : hasOwnLock phase = true → store.locks (.download id) = some i)
    (staging : hasStaging phase = true → store.locks .downloadStaging = some i) :
    WorkerRelies calm quotaHardMb i id accountId phase store := by
  refine ⟨⟨row, found, account, fun _ now => ?_, fun _ now => ?_⟩, own, staging, fun size publishes => ?_⟩
  · rw [early] at now
    cases now
  · rw [late] at now
    cases now
  · subst publishes
    cases late

theorem WorkerRelies.failing (relies : WorkerRelies calm quotaHardMb i id accountId phase store) :
    WorkerRelies calm quotaHardMb i id accountId .fail (store.release i) := by
  obtain ⟨row, found, account, _⟩ := relies.known
  exact relies_found found account rfl rfl nofun nofun

end

end Boron.SnapshotJobs.Downloads
