import Boron.SnapshotJobs.Lifecycle

namespace Boron.SnapshotJobs
open List

section
variable {calm : Prop} {i id : Nat} {job : Job} {phase : RunPhase} {touched : Nat → Prop} {store : Store}
  {moment : Moment}

theorem turned_ended {f : SnapshotRun → SnapshotRun} {task : Task} (sound : Sound store) (same : ∀ row, (f row).id = row.id)
    (onward : ∀ row, store.run id = some row → Onward calm row (f row)) (own : touched id)
    (relies : Relies calm i task (store.update id f)) : Turned calm i touched store (task, store.update id f) :=
  ⟨sound.update same onward, relies, leaves_update same onward fun _ _ => .inr own⟩

theorem relies_leave {f : SnapshotRun → SnapshotRun} (relies : RunRelies calm i id job phase store)
    (locked : phase.isLocked = true) (same : ∀ row, (f row).id = row.id) (kept : ∀ row, (f row).job = row.job) :
    RunRelies calm i id job .leave (store.update id f) := by
  obtain ⟨row, found, named, _⟩ := relies.known
  have now : (store.update id f).run id = some (f row) := by
    rw [run_update same, if_pos rfl, found]
    rfl
  exact relies_known now ((kept row).trans named) rfl rfl fun _ => relies.locked locked

section
variable (sound : Sound store)
include sound

theorem check_turned (relies : RunRelies calm i id job .check store) :
    Turned calm i touched store (runTurn moment i id job .check store) := by
  obtain ⟨row, found, named, _⟩ := relies.known
  have fresh (pending : row.status = .pending) (worker : Nat) : (worker, id) ∉ store.begun := by
    intro member
    obtain ⟨row', found', started⟩ := sound.begun worker id member
    rw [found] at found'
    cases found'
    exact started pending
  unfold runTurn
  simp only [found]
  split
  · exact turned_same sound (relies.move (by decide) (by decide) (by decide) (by simp))
  · next pending =>
    have pending := not_not.mp pending
    split
    · exact turned_same sound ⟨⟨row, found, named, fun _ _ => pending, by simp [RunPhase.isLate], by simp [RunPhase.isLate]⟩,
        fun _ => relies.locked rfl, fun _ => fresh pending, by simp [RunPhase.isLate], by simp⟩
    · exact turned_same sound ⟨⟨row, found, named, fun _ _ => pending, by simp [RunPhase.isLate], by simp [RunPhase.isLate]⟩,
        fun _ => relies.locked rfl, fun _ => fresh pending, by simp [RunPhase.isLate], by simp⟩

theorem start_turned (relies : RunRelies calm i id job .start store) (own : touched id) :
    Turned calm i touched store (runTurn moment i id job .start store) := by
  obtain ⟨row, found, named, early, _⟩ := relies.known
  have same (row : SnapshotRun) : ({ row with status := .running } : SnapshotRun).id = row.id := rfl
  have onward (row' : SnapshotRun) (found' : store.run id = some row') :
      Onward calm row' { row' with status := .running } := by
    rw [found] at found'
    cases found'
    exact ⟨rfl, fun _ => nofun, fun requested => requested, fun calm => by rw [early calm rfl]; exact Nat.zero_le _⟩
  have updated := sound.update same onward
  have now : (store.update id fun row => { row with status := .running }).run id = some { row with status := .running } := by
    rw [run_update same, if_pos rfl, found]
    rfl
  have left : Leaves calm i touched store (store.update id fun row => { row with status := .running }) :=
    leaves_update same onward fun _ _ => .inr own
  refine ⟨⟨updated.unique, ?_, ?_, updated.cancelled, updated.backedUp⟩, ?_, ⟨left.locks, left.rows, ?_, ?_, left.cancelled⟩⟩
  · refine nodup_cons.mpr ⟨fun member => ?_, sound.once⟩
    obtain ⟨⟨worker, other⟩, inside, named⟩ := mem_map.mp member
    cases named
    exact relies.unbegun rfl worker inside
  · intro worker other member
    rcases mem_cons.mp member with newest | earlier
    · cases newest
      exact ⟨_, now, nofun⟩
    · exact updated.begun worker other earlier
  · exact ⟨⟨_, now, named, by simp [RunPhase.isEarly], fun _ => nofun, fun _ _ => rfl⟩, fun _ => relies.locked rfl,
      by simp [RunPhase.isEarly], fun _ => mem_cons_self, by simp⟩
  · intro pair member
    rcases mem_cons.mp member with newest | earlier
    · subst newest
      refine .inr ⟨row, found, ?_⟩
      rw [named]
      exact relies.locked rfl
    · exact .inl earlier
  · exact fun pair member => mem_cons_of_mem _ member

theorem checkPrepared_turned (relies : RunRelies calm i id job .checkPrepared store) :
    Turned calm i touched store (runTurn moment i id job .checkPrepared store) := by
  obtain ⟨row, found, named, early, begun, late⟩ := relies.known
  unfold runTurn
  simp only [found]
  split
  · exact turned_same sound (relies.move (by decide) (by decide) (by decide) (by simp))
  · next quiet =>
    refine turned_same sound ⟨⟨row, found, named, by simp [RunPhase.isEarly], fun _ => begun rfl, fun calm _ => late calm rfl⟩,
      fun _ => relies.locked rfl, by simp [RunPhase.isEarly], fun _ => relies.mine rfl, fun _ member => ?_⟩
    obtain ⟨_, row', found', _, requested⟩ := sound.cancelled id member
    rw [found] at found'
    cases found'
    exact quiet requested

theorem save_turned (relies : RunRelies calm i id job .save store) :
    Turned calm i touched store (runTurn moment i id job .save store) := by
  obtain ⟨row, found, named, early, begun, late⟩ := relies.known
  refine ⟨⟨sound.unique, sound.once, sound.begun, fun other member => ?_, fun other member => ?_⟩, ?_,
    leaves_of_same rfl rfl rfl fun _ _ _ held => held⟩
  · obtain ⟨never, known⟩ := sound.cancelled other member
    refine ⟨fun saved => ?_, known⟩
    rcases mem_cons.mp saved with newest | earlier
    · subst newest
      exact relies.uncancelled rfl member
    · exact never earlier
  · rcases mem_cons.mp member with newest | earlier
    · subst newest
      exact ⟨row, found, begun rfl⟩
    · exact sound.backedUp other earlier
  · exact ⟨⟨row, found, named, by simp [RunPhase.isEarly], fun _ => begun rfl, fun calm _ => late calm rfl⟩,
      fun _ => relies.locked rfl, by simp [RunPhase.isEarly], fun _ => relies.mine rfl, by simp⟩

theorem checkSaved_turned {snapshot : Nat} (relies : RunRelies calm i id job (.checkSaved snapshot) store) :
    Turned calm i touched store (runTurn moment i id job (.checkSaved snapshot) store) := by
  obtain ⟨row, found, _⟩ := relies.known
  unfold runTurn
  simp only [found]
  split
  · exact turned_same sound (relies.move nofun (fun _ => rfl) (fun _ => rfl) (by simp))
  · exact turned_same sound (relies.move nofun (fun _ => rfl) (fun _ => rfl) (by simp))

theorem record_turned {snapshot : Nat} (relies : RunRelies calm i id job (.record snapshot) store) :
    Turned calm i touched store (runTurn moment i id job (.record snapshot) store) := by
  obtain ⟨row, found, named, early, begun, late⟩ := relies.known
  have same (row : SnapshotRun) : ({ row with snapshotId := some snapshot } : SnapshotRun).id = row.id := rfl
  have onward (row' : SnapshotRun) (_ : store.run id = some row') :
      Onward calm row' { row' with snapshotId := some snapshot } :=
    ⟨rfl, fun started => started, fun requested => requested, fun _ => Nat.le_refl _⟩
  refine ⟨sound.update same onward, ?_, leaves_update same onward fun _ _ => .inl rfl⟩
  have now : (store.update id fun row => { row with snapshotId := some snapshot }).run id
      = some { row with snapshotId := some snapshot } := by
    rw [run_update same, if_pos rfl, found]
    rfl
  exact ⟨⟨_, now, named, by simp [RunPhase.isEarly], fun _ => begun rfl, fun calm _ => late calm rfl⟩,
    fun _ => relies.locked rfl, by simp [RunPhase.isEarly], fun _ => relies.mine rfl, by simp⟩

theorem protect_turned {items : List Snapshot} (relies : RunRelies calm i id job (.protect items) store) :
    Turned calm i touched store (runTurn moment i id job (.protect items) store) := by
  unfold runTurn
  dsimp only
  split
  · exact turned_same sound (relies.move nofun (fun _ => rfl) (fun _ => rfl) (by simp))
  · exact turned_same sound (relies.move nofun (fun _ => rfl) (fun _ => rfl) (by simp))

end

theorem run_expire (store : Store) (i : Nat) (job : Job) (obsolete : List Nat) (other : Nat) :
    (store.expire i job obsolete).run other = (store.run other).map fun run =>
      if run.job.accountId = job.accountId && run.job.destinationId = job.destinationId
          && run.snapshotId.any obsolete.contains then { run with status := .expired } else run :=
  Rows.byKey_map (fun _ => by split <;> rfl) store.runs other

section
variable (sound : Sound store)
include sound

theorem expire_turned {obsolete : List Nat} (relies : RunRelies calm i id job (.expire obsolete) store)
    (marks : ∀ row ∈ store.expiring job obsolete, touched row.id)
    (spared : calm → ∀ row ∈ store.expiring job obsolete, row.id ≠ id) :
    Turned calm i touched store (runTurn moment i id job (.expire obsolete) store) := by
  have rows (other : Nat) (row : SnapshotRun) (found : store.run other = some row) :
      ∃ later, (store.expire i job obsolete).run other = some later ∧ Onward calm row later ∧
        (later.status = row.status ∨ touched other) := by
    rw [run_expire, found, Option.map_some]
    refine ⟨_, rfl, ?_⟩
    split
    · next marked =>
      refine ⟨onward_ended rfl rfl rfl, .inr ?_⟩
      obtain ⟨inside, named⟩ := run_id found
      subst named
      exact marks row (mem_filter.mpr ⟨inside, marked⟩)
    · exact ⟨Onward.refl row, .inl rfl⟩
  have left : Leaves calm i touched store (store.expire i job obsolete) :=
    ⟨fun _ _ _ held => held, rows, fun _ => .inl, fun _ member => member, fun _ => .inl⟩
  refine ⟨?_, ?_, left⟩
  · refine sound.onward (Rows.unique_map (fun row => by split <;> rfl) sound.unique) (fun other row found => ?_) rfl rfl rfl
    obtain ⟨later, found', onward, _⟩ := rows other row found
    exact ⟨later, found', onward.weaken⟩
  · obtain ⟨row, found, named, _, begun, late⟩ := relies.known
    obtain ⟨later, found', onward, _⟩ := rows id row found
    refine ⟨⟨later, found', onward.job.trans named, nofun, fun _ => onward.begun (begun rfl),
      fun calm _ => ?_⟩, fun _ => relies.locked rfl, nofun, fun _ => relies.mine rfl,
      nofun⟩
    rw [run_expire, found, Option.map_some] at found'
    split at found'
    · next marked =>
      obtain ⟨inside, own⟩ := run_id found
      exact absurd own (spared calm row (mem_filter.mpr ⟨inside, marked⟩))
    · cases found'
      exact late calm rfl

theorem complete_turned (relies : RunRelies calm i id job .complete store) (own : touched id) :
    Turned calm i touched store (runTurn moment i id job .complete store) := by
  obtain ⟨row, found, _, _, _, late⟩ := relies.known
  refine turned_ended sound (fun _ => rfl) (fun row' found' => ?_) own trivial
  rw [found] at found'
  cases found'
  refine ⟨rfl, fun _ => nofun, fun requested => requested, fun calm => ?_⟩
  rw [late calm rfl]
  exact Nat.le_succ _

theorem runTurn_turned (relies : RunRelies calm i id job phase store)
    (own : (Task.run id job phase).engaged = some id → touched id) (failed : phase = .fail → touched id)
    (marks : ∀ obsolete, phase = .expire obsolete → ∀ row ∈ store.expiring job obsolete, touched row.id)
    (spared : ∀ obsolete, phase = .expire obsolete → calm → ∀ row ∈ store.expiring job obsolete, row.id ≠ id) :
    Turned calm i touched store (runTurn moment i id job phase store) := by
  obtain ⟨row, found, named, _⟩ := relies.known
  have kept (phase' : RunPhase) (early : phase'.isEarly = false) (late : phase'.isLate = false)
      (locked : phase'.isLocked = true → store.locks (.account job.accountId) = some i) :
      RunRelies calm i id job phase' store := relies_known found named early late locked
  cases phase with
  | lockAccount =>
    exact turned_lock sound (kept _ rfl rfl nofun) (relies_known found named rfl rfl fun _ => acquire_own _)
  | lockRepository =>
    refine turned_lock sound (kept _ rfl rfl fun _ => relies.locked rfl) (relies_known found named rfl rfl fun _ => ?_)
    unfold Store.acquire
    dsimp only
    exact relies.locked rfl
  | check => exact check_turned sound relies
  | cancelEarly =>
    exact turned_ended sound (fun _ => rfl) (fun _ _ => onward_ended rfl rfl rfl) (own rfl)
      (relies_leave relies rfl (fun _ => rfl) fun _ => rfl)
  | verify => exact turned_same sound (relies.move (by decide) (by decide) (by decide) (by simp))
  | start => exact start_turned sound relies (own rfl)
  | prepare => exact turned_same sound (relies.move (by decide) (by decide) (by decide) (by simp))
  | checkPrepared => exact checkPrepared_turned sound relies
  | cancelPrepared =>
    exact turned_ended sound (fun _ => rfl) (fun _ _ => onward_ended rfl rfl rfl) (own rfl)
      (relies_leave relies rfl (fun _ => rfl) fun _ => rfl)
  | save => exact save_turned sound relies
  | checkSaved snapshot => exact checkSaved_turned sound relies
  | cancelSaved snapshot =>
    exact turned_ended sound (fun _ => rfl) (fun _ _ => onward_ended rfl rfl rfl) (own rfl)
      (relies_leave relies rfl (fun _ => rfl) fun _ => rfl)
  | record snapshot => exact record_turned sound relies
  | list => exact turned_same sound (relies.move nofun (fun _ => rfl) (fun _ => rfl) (by simp))
  | protect items => exact protect_turned sound relies
  | forget obsolete =>
    refine turned_apart sound ?_ rfl rfl rfl rfl rfl
    have moved : RunRelies calm i id job (.expire obsolete) store :=
      relies.move nofun (fun _ => rfl) (fun _ => rfl) (by simp)
    exact ⟨moved.known, moved.locked, moved.unbegun, moved.mine, nofun⟩
  | expire obsolete => exact expire_turned sound relies (marks obsolete rfl) (spared obsolete rfl)
  | safety =>
    have moved : RunRelies calm i id job .complete store :=
      relies.move (by decide) (by decide) (by decide) (by simp)
    exact turned_release sound ⟨moved.known, nofun, moved.unbegun, moved.mine, by simp⟩
  | leave => exact turned_release sound trivial
  | complete => exact complete_turned sound relies (own rfl)
  | fail => exact turned_ended sound (fun _ => rfl) (fun _ _ => onward_ended rfl rfl rfl) (failed rfl) trivial

theorem cancel_turned (named : ∀ row, store.run id = some row → row.status = .pending → touched id) :
    Turned calm i touched store (.idle, store.cancelRun id) := by
  unfold Store.cancelRun
  split
  · exact turned_same sound trivial
  · next row found =>
    split
    · next pending =>
      have onward (row' : SnapshotRun) (_ : store.run id = some row') :
          Onward calm row' { row' with status := .cancelled, cancelRequested := true } := by
        exact ⟨rfl, fun _ => nofun, fun _ => rfl, fun _ => rank_le row'.status⟩
      have same (row : SnapshotRun) :
          ({ row with status := .cancelled, cancelRequested := true } : SnapshotRun).id = row.id := rfl
      have updated := sound.update same onward
      have left : Leaves calm i touched store
          (store.update id fun row => { row with status := .cancelled, cancelRequested := true }) :=
        leaves_update same onward fun _ _ => .inr (named row found pending)
      have now : (store.update id fun row => { row with status := .cancelled, cancelRequested := true }).run id
          = some { row with status := .cancelled, cancelRequested := true } := by
        rw [run_update same, if_pos rfl, found]
        rfl
      refine ⟨⟨updated.unique, updated.once, updated.begun, fun other member => ?_, updated.backedUp⟩, trivial,
        ⟨left.locks, left.rows, left.begun, left.kept, fun other member => ?_⟩⟩
      · rcases mem_cons.mp member with newest | earlier
        · subst newest
          refine ⟨fun saved => ?_, _, now, nofun, rfl⟩
          obtain ⟨row', found', started⟩ := sound.backedUp other saved
          rw [found] at found'
          cases found'
          exact started pending
        · exact updated.cancelled other earlier
      · rcases mem_cons.mp member with newest | earlier
        · subst newest
          exact .inr ⟨row, found, pending⟩
        · exact .inl earlier
    · next running =>
      have onward (row' : SnapshotRun) (_ : store.run id = some row') :
          Onward calm row' { row' with cancelRequested := true } :=
        ⟨rfl, fun started => started, fun _ => rfl, fun _ => Nat.le_refl _⟩
      have same (row : SnapshotRun) : ({ row with cancelRequested := true } : SnapshotRun).id = row.id := rfl
      exact ⟨sound.update same onward, trivial, leaves_update same onward fun _ _ => .inl rfl⟩
    · exact turned_same sound trivial

theorem retry_turned : Turned calm i touched store (.idle, store.retryRun id) := by
  unfold Store.retryRun
  split
  · exact turned_same sound trivial
  · split
    · exact ⟨sound.queueRun, trivial, leaves_queued ((Queued.refl store).queueRun _)⟩
    · exact turned_same sound trivial

theorem call_turned
    (cancelled : ∀ id row, moment.call = .cancelRun id → store.run id = some row → row.status = .pending → touched id) :
    Turned calm i touched store (callTurn moment store) := by
  unfold callTurn
  cases call : moment.call with
  | queuePolicy policyId options destinationIds accountIds busy =>
    obtain ⟨after, queued⟩ := queuePolicy_keeps (P := fun left => Sound left ∧ Queued store left)
      (fun _ job holds => ⟨holds.1.queueRun, holds.2.queueRun job⟩) policyId options destinationIds busy accountIds store
      ⟨sound, Queued.refl store⟩
    exact ⟨after, trivial, leaves_queued queued⟩
  | executeRun id =>
    dsimp only
    cases found : store.run id with
    | none => exact turned_same sound trivial
    | some row => exact turned_same sound (relies_known found rfl rfl rfl nofun)
  | cancelRun id => exact cancel_turned sound fun row found pending => cancelled id row call found pending
  | retryRun id => exact retry_turned sound
  | setRunPin id pinned =>
    dsimp only
    split
    · exact turned_same sound trivial
    · split
      · exact turned_same sound trivial
      · exact turned_same sound trivial
  | queueDownload accountId runId => exact turned_same sound trivial
  | executeDownload id =>
    dsimp only
    split
    · exact turned_same sound trivial
    · exact turned_same sound trivial
  | cleanupDownloads => exact turned_apart sound trivial rfl rfl rfl rfl rfl
  | recoverRuns => exact turned_same sound trivial

theorem queue_turned (quotaHardMb : Nat → Nat) (accountId runId : Nat) (phase : QueuePhase) :
    Turned calm i touched store (queueTurn quotaHardMb moment accountId runId phase store) := by
  unfold queueTurn
  cases phase with
  | cleanup => exact turned_apart sound trivial rfl rfl rfl rfl rfl
  | read =>
    dsimp only
    split
    · exact turned_same sound trivial
    · split
      · exact turned_same sound trivial
      · exact turned_same sound trivial
  | measure => exact turned_same sound trivial
  | reserve estimate =>
    refine turned_apart sound trivial ?_ ?_ ?_ ?_ ?_
    all_goals
      unfold Store.reserve
      dsimp only
      split_ifs <;> rfl

theorem download_turned (quotaHardMb : Nat → Nat) (runId accountId : Nat) (phase : DownloadPhase) :
    Turned calm i touched store (downloadTurn quotaHardMb moment i id runId accountId phase store) := by
  cases phase with
  | lockDownload => exact turned_lock sound trivial trivial
  | lockStaging => exact turned_lock sound trivial trivial
  | lockRepository =>
    unfold downloadTurn
    dsimp only
    split
    · exact turned_release sound trivial
    · exact turned_lock sound trivial trivial
  | check =>
    unfold downloadTurn
    dsimp only
    split
    · exact turned_release sound trivial
    · split
      · exact turned_same sound trivial
      · exact turned_same sound trivial
  | checkRun =>
    unfold downloadTurn
    dsimp only
    split
    · split
      · exact turned_same sound trivial
      · exact turned_release sound trivial
    · exact turned_release sound trivial
  | start => exact turned_apart sound trivial rfl rfl rfl rfl rfl
  | build => exact turned_same sound trivial
  | reserve size =>
    unfold downloadTurn
    dsimp only
    split
    · exact turned_release sound trivial
    · exact turned_same sound trivial
  | publish size => exact turned_apart sound trivial rfl rfl rfl rfl rfl
  | notify => exact turned_same sound trivial
  | leave => exact turned_release sound trivial
  | fail => exact turned_apart sound trivial rfl rfl rfl rfl rfl

theorem recover_turned (phase : RecoverPhase)
    (interrupted : ∀ row rest, phase = .interrupt row rest → touched row.id) :
    Turned calm i touched store (recoverTurn moment i phase store) := by
  cases phase with
  | runs rows =>
    cases rows with
    | nil => exact turned_same sound trivial
    | cons row rest =>
      unfold recoverTurn
      dsimp only
      split
      · exact turned_same sound trivial
      · split
        · next free =>
          exact ⟨sound_of_same sound rfl rfl rfl rfl, trivial,
            leaves_of_same rfl rfl rfl fun _ _ _ held => acquire_locks free held⟩
        · exact turned_same sound trivial
  | check row rest =>
    unfold recoverTurn
    dsimp only
    split
    · exact turned_release sound trivial
    · split
      · exact turned_same sound trivial
      · exact turned_same sound trivial
  | interrupt row rest =>
    exact turned_ended sound (fun _ => rfl) (fun _ _ => onward_ended rfl rfl rfl) (interrupted row rest rfl) trivial
  | leave rest => exact turned_release sound trivial
  | readDownloads => exact turned_same sound trivial
  | downloads items =>
    cases items with
    | nil => exact turned_same sound trivial
    | cons item rest =>
      unfold recoverTurn
      dsimp only
      split
      · exact turned_same sound trivial
      · exact turned_apart sound trivial rfl rfl rfl rfl rfl
  | cleanup => exact turned_apart sound trivial rfl rfl rfl rfl rfl

end

theorem raised_relies {task : Task} (relies : Relies calm i task store) : Relies calm i task.raised (store.release i) := by
  cases task with
  | run id job phase =>
    have failing : RunRelies calm i id job .fail (store.release i) := RunRelies.failing relies
    cases phase with
    | fail => exact trivial
    | _ => exact failing
  | download id runId accountId phase => cases phase <;> exact trivial
  | _ => exact trivial

end

section
variable {calm : Prop} {quotaHardMb : Nat → Nat} {i : Nat} {moment : Moment} {task : Task} {store : Store}

/-- A turn gives another status to the runs of `overwritten`, and to the one its own worker is at. -/
def Touches (moment : Moment) (task : Task) (store : Store) (id : Nat) : Prop :=
  id ∈ overwritten moment task store ∨ task.engaged = some id

theorem advance_turned (sound : Sound store) (relies : Relies calm i task store)
    (quiet : calm → ∀ id ∈ overwritten moment task store, task.engaged ≠ some id) :
    Turned calm i (Touches moment task store) store (advance quotaHardMb i moment task store) := by
  unfold advance
  split
  · exact turned_release sound trivial
  · next running =>
    split
    · exact turned_release sound (raised_relies relies)
    · next fine =>
      have goes : (moment.stops || moment.raises) = false := by simp [running, fine]
      cases task with
      | idle =>
        refine call_turned sound fun id row called found pending => .inl ?_
        obtain ⟨inside, named⟩ := run_id found
        simp only [overwritten, goes, called, Bool.false_eq_true, if_false, mem_map, mem_filter]
        exact ⟨row, ⟨inside, by simp [named, pending]⟩, named⟩
      | run id job phase =>
        refine runTurn_turned sound relies .inr (fun failed => .inl ?_) (fun obsolete expires row marked => .inl ?_)
          (fun obsolete expires calm row marked same => ?_)
        · subst failed
          simp [overwritten, goes]
        · subst expires
          simp only [overwritten, goes]
          exact mem_map_of_mem marked
        · subst expires
          refine quiet calm row.id ?_ (congrArg some same.symm)
          simp only [overwritten, goes]
          exact mem_map_of_mem marked
      | pin id pinned =>
        have onward (row' : SnapshotRun) (_ : store.run id = some row') : Onward calm row' { row' with pinned } :=
          ⟨rfl, fun started => started, fun requested => requested, fun _ => Nat.le_refl _⟩
        have same (row : SnapshotRun) : ({ row with pinned } : SnapshotRun).id = row.id := rfl
        exact ⟨sound.update same onward, trivial, leaves_update same onward fun _ _ => .inl rfl⟩
      | queue accountId runId phase => exact queue_turned sound quotaHardMb accountId runId phase
      | download id runId accountId phase => exact download_turned sound quotaHardMb runId accountId phase
      | recover phase =>
        refine recover_turned sound phase fun row rest interrupts => .inl ?_
        subst interrupts
        simp [overwritten, goes]

/-- The states of a panel in which every turn is allowed, from a panel without backups. -/
abbrev Reaches (quotaHardMb : Nat → Nat) (allowed : Panel → Nat × Moment → Prop) : Panel → Panel → Prop :=
  Tasks.Reaches (advance quotaHardMb) allowed

theorem engaged_phase {task : Task} {id : Nat} (engaged : task.engaged = some id) :
    ∃ job phase, task = .run id job phase ∧ (phase.isEarly || phase.isLate) = true := by
  cases task with
  | run other job phase =>
    unfold Task.engaged at engaged
    dsimp only at engaged
    split at engaged
    · next busy =>
      cases engaged
      exact ⟨job, phase, rfl, busy⟩
    · cases engaged
  | _ => cases engaged

theorem relies_turned {server : Panel} {who : Nat × Moment} (permitted : calm → Undisturbed server who)
    (holds : Tasks.Holds Sound (Relies calm) server) {left : Store} (j : Nat) (other : j ≠ who.1)
    (leaves : Leaves calm who.1 (Touches who.2 (server.task who.1) server.store) server.store left) :
    Relies calm j (server.task j) left := by
  cases found : server.task j with
  | run id job phase =>
    have relies := holds.relied j
    rw [found] at relies
    refine RunRelies.others relies other leaves fun isCalm touched busy => ?_
    have engaged : (server.task j).engaged = some id := by
      rw [found]
      simp only [Task.engaged, busy, if_true]
    rcases touched with overwrites | own
    · exact permitted isCalm id overwrites j engaged
    · obtain ⟨job', phase', same, busy'⟩ := engaged_phase own
      have mine := holds.relied who.1
      rw [same] at mine
      exact other (engaged_apart holds.shared relies mine busy busy')
  | _ => exact trivial

/-- In every interleaving the shared facts hold, and every worker has what it relies on. -/
theorem reaches_holds {allowed : Panel → Nat × Moment → Prop} (permits : calm → ∀ server who, allowed server who → Undisturbed server who)
    {start server : Panel} (initial : Tasks.Holds Sound (Relies calm) start) (reached : Reaches quotaHardMb allowed start server) :
    Tasks.Holds Sound (Relies calm) server := by
  refine Tasks.Reaches.holds_at initial (fun server who permitted holds => ?_) reached
  have quiet (isCalm : calm) := permits isCalm server who permitted
  have turned : Turned calm who.1 _ server.store (advance quotaHardMb who.1 who.2 (server.task who.1) server.store) :=
    advance_turned holds.shared (holds.relied who.1) fun isCalm id member => quiet isCalm id member who.1
  exact ⟨turned.sound, turned.relies, fun j other => relies_turned quiet holds j other turned.leaves⟩

theorem fresh_holds : Tasks.Holds Sound (Relies calm) Panel.fresh :=
  ⟨⟨nodup_nil, nodup_nil, by simp [Panel.fresh], by simp [Panel.fresh], by simp [Panel.fresh]⟩, fun _ => trivial⟩

end

end Boron.SnapshotJobs
