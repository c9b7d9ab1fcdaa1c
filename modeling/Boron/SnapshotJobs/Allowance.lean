import Boron.SnapshotJobs.Downloads

namespace Boron.SnapshotJobs.Downloads
open List Rows

section
variable {calm : Prop} {quotaHardMb : Nat → Nat} {i id accountId runId : Nat} {phase : DownloadPhase}
  {touched : Nat → Prop} {store left : Store} {row : SnapshotDownload} {moment : Moment}

section
variable (sound : Sound calm quotaHardMb store)
include sound

theorem check_turned (relies : WorkerRelies calm quotaHardMb i id accountId .check store) :
    Turned calm quotaHardMb i touched store (downloadTurn quotaHardMb moment i id runId accountId .check store) := by
  obtain ⟨row, found, account, _⟩ := relies.known
  unfold downloadTurn
  simp only [found]
  split
  · next pending =>
    exact turned_same sound ⟨⟨row, found, account, fun _ _ => pending, nofun⟩, fun _ => relies.own rfl,
      fun _ => relies.staging rfl, nofun⟩
  · exact turned_same sound (relies.move nofun nofun (fun _ => rfl) (fun _ => rfl) nofun)

theorem start_turned (relies : WorkerRelies calm quotaHardMb i id accountId .start store) (own : touched id) :
    Turned calm quotaHardMb i touched store (downloadTurn quotaHardMb moment i id runId accountId .start store) := by
  obtain ⟨row, found, account, early, _⟩ := relies.known
  have rests : Rests fun row : SnapshotDownload => { row with status := .running } := ⟨fun _ => rfl, fun _ => rfl, nofun⟩
  refine ⟨(rests.one id).sound sound rfl fun isCalm other inside active => ?_, ?_, leaves_update rests (fun row' found' => ?_)
    fun _ _ => .inr own⟩
  · split at active
    · next named =>
      obtain ⟨member, named'⟩ := download_id found
      have same : other = row := inj_on_of_nodup_map sound.unique inside member (named.trans named'.symm)
      rw [same, early isCalm rfl]
      rfl
    · exact active
  · refine ⟨⟨{ row with status := .running }, ?_, account, nofun, fun _ _ => rfl⟩, fun _ => relies.own rfl,
      fun _ => relies.staging rfl, nofun⟩
    have now : (store.updateDownload id fun row => { row with status := .running }).download id
        = if id = id then (store.download id).map fun row => { row with status := .running } else store.download id :=
      download_update rests.id id
    rw [if_pos rfl, found] at now
    exact now
  · rw [found] at found'
    cases found'
    refine ⟨rfl, fun isCalm => ?_⟩
    rw [early isCalm rfl]
    exact Nat.zero_le _

theorem reserve_turned {size : Nat} (relies : WorkerRelies calm quotaHardMb i id accountId (.reserve size) store) :
    Turned calm quotaHardMb i touched store (downloadTurn quotaHardMb moment i id runId accountId (.reserve size) store) := by
  obtain ⟨row, found, account, _, late⟩ := relies.known
  unfold downloadTurn
  dsimp only
  split
  · exact turned_release sound relies.failing
  · next fits =>
    refine turned_same sound ⟨⟨row, found, account, nofun, fun isCalm _ => late isCalm rfl⟩, fun _ => relies.own rfl,
      fun _ => relies.staging rfl, fun other same => ?_⟩
    cases same
    omega

end

theorem publish_bytes (rows : List SnapshotDownload) (unique : (rows.map SnapshotDownload.id).Nodup) {size : Nat}
    {P : SnapshotDownload → Bool} (sized : ∀ row, (f row).sizeBytes = some size) :
    total ((change SnapshotDownload.id id f rows).filter P)
      ≤ total (rows.filter fun row => P row && decide (row.id ≠ id)) + size := by
  induction rows with
  | nil => exact Nat.zero_le _
  | cons row rest ih =>
    rw [map_cons, nodup_cons] at unique
    have later := ih unique.2
    unfold change at later ⊢
    rw [map_cons, filter_cons, filter_cons]
    by_cases own : row.id = id
    · have absent (other : SnapshotDownload) (inside : other ∈ rest) : other.id ≠ id := by
        rintro named
        exact unique.1 (mem_map.mpr ⟨other, inside, named.trans own.symm⟩)
      have untouched : rest.map (fun row => if row.id = id then f row else row) = rest := by
        have kept (other : SnapshotDownload) (inside : other ∈ rest) :
            (if other.id = id then f other else other) = other := if_neg (absent other inside)
        rw [map_congr_left kept, map_id']
      have others : rest.filter (fun row => P row && decide (row.id ≠ id)) = rest.filter P :=
        filter_congr fun other inside => by simp [absent other inside]
      simp only [own, if_true, untouched, ne_eq, not_true_eq_false, decide_false, Bool.and_false, Bool.false_eq_true,
        if_false]
      have others' : rest.filter (fun row => P row && decide ¬row.id = id) = rest.filter P := others
      rw [others']
      split
      · rw [total, sized row, Option.getD_some]
        omega
      · omega
    · simp only [own, if_false, ne_eq, not_false_eq_true, decide_true, Bool.and_true] at later ⊢
      split
      · rw [total, total]
        omega
      · exact later

section
variable (sound : Sound calm quotaHardMb store)
include sound

theorem publish_turned {size : Nat}
    (relies : WorkerRelies calm quotaHardMb i id accountId (.publish size) store) (own : touched id) :
    Turned calm quotaHardMb i touched store (downloadTurn quotaHardMb moment i id runId accountId (.publish size) store) := by
  obtain ⟨row, found, account, _, late⟩ := relies.known
  obtain ⟨member, named⟩ := download_id found
  let f (row : SnapshotDownload) : SnapshotDownload :=
    { row with status := .ready, sizeBytes := some size, expiresAt := some (moment.now + 24 * 60 * 60) }
  have same (row : SnapshotDownload) : (f row).id = row.id := rfl
  have budget (other : Nat) : (store.updateDownload id f).readyBytes other (fun _ => true) ≤ allowance quotaHardMb other := by
    by_cases mine : other = accountId
    · subst mine
      let ready (row : SnapshotDownload) : Bool := row.accountId = other && row.status = .ready && true
      have bytes : total ((change SnapshotDownload.id id f store.downloads).filter ready)
          ≤ total (store.downloads.filter fun row => ready row && decide (row.id ≠ id)) + size :=
        publish_bytes store.downloads sound.unique fun _ => rfl
      have room := relies.room size rfl
      have counted : store.readyBytes other (fun row => row.id ≠ id) = total (store.downloads.filter fun row =>
          (row.accountId = other && row.status = .ready && true) && decide (row.id ≠ id)) := by
        exact congrArg total (filter_congr fun row _ => by simp)
      rw [counted] at room
      exact Nat.le_trans bytes room
    · refine Nat.le_trans ?_ (sound.budget other)
      refine total_map_le store.downloads fun before inside chosen => ?_
      split at chosen
      · next own =>
        have equal : before = row := inj_on_of_nodup_map sound.unique inside member (own.trans named.symm)
        simp only [Bool.and_eq_true, decide_eq_true_eq, f] at chosen
        rw [equal, account] at chosen
        exact absurd chosen.1.1.symm mine
      · next different =>
        rw [if_neg different]
        exact ⟨chosen, rfl⟩
  have rows (other : Nat) (row' : SnapshotDownload) (found' : store.download other = some row') :
      ∃ later, (store.updateDownload id f).download other = some later ∧ Onward calm row' later ∧
        (later.status = row'.status ∨ touched other ∨ row'.status = .ready) := by
    rw [download_update same]
    by_cases mine : id = other
    · subst mine
      rw [found] at found'
      cases found'
      rw [if_pos rfl, found]
      refine ⟨f row, rfl, ⟨rfl, fun isCalm => ?_⟩, .inr (.inl own)⟩
      rw [late isCalm rfl]
      exact Nat.le_succ 1
    · rw [if_neg mine]
      exact ⟨row', found', Onward.refl row', .inl rfl⟩
  refine ⟨⟨?_, budget, fun isCalm other => ?_⟩, ?_, ⟨fun _ _ _ held => held, rows, .inr (relies.staging rfl)⟩⟩
  · exact unique_map (fun row => by split <;> rfl) sound.unique
  · refine Nat.le_trans ?_ (sound.one isCalm other)
    unfold downloadTurn Store.updateDownload change
    rw [countP_map]
    refine countP_mono_left fun row inside chosen => ?_
    simp only [Function.comp] at chosen
    split at chosen
    · simp [activeOf, DownloadStatus.isActive] at chosen
    · exact chosen
  · obtain ⟨later, found', onward, _⟩ := rows id row found
    exact relies_found found' (onward.account.trans account) rfl rfl (fun _ => relies.own rfl) fun _ => relies.staging rfl

theorem download_turned (relies : WorkerRelies calm quotaHardMb i id accountId phase store)
    (own : preparing (.download id runId accountId phase) = some id → touched id) (failed : phase = .fail → touched id) :
    Turned calm quotaHardMb i touched store (downloadTurn quotaHardMb moment i id runId accountId phase store) := by
  obtain ⟨row, found, account, early, late⟩ := relies.known
  cases phase with
  | lockDownload =>
    exact turned_lock sound relies (relies_found found account rfl rfl (fun _ => acquire_own _) nofun)
  | lockStaging =>
    refine turned_lock sound relies (relies_found found account rfl rfl (fun _ => ?_) fun _ => acquire_own _)
    unfold Store.acquire
    dsimp only
    exact relies.own rfl
  | lockRepository =>
    unfold downloadTurn
    dsimp only
    split
    · exact turned_release sound relies.failing
    · next run known =>
      have kept (name : LockName) (held : store.locks name = some i) (different : ∀ other, name ≠ .repository other) :
          (store.acquire i (.repository run.job.destinationId)).locks name = some i := by
        unfold Store.acquire
        dsimp only
        rw [if_neg (different _)]
        exact held
      exact turned_lock sound relies (relies_found found account rfl rfl
        (fun _ => kept _ (relies.own rfl) fun _ => by simp) fun _ => kept _ (relies.staging rfl) fun _ => by simp)
  | check => exact check_turned sound relies
  | checkRun =>
    unfold downloadTurn
    dsimp only
    split
    · split
      · exact turned_same sound (relies.move (fun _ => rfl) nofun (fun _ => rfl) (fun _ => rfl) nofun)
      · exact turned_release sound relies.failing
    · exact turned_release sound relies.failing
  | start => exact start_turned sound relies (own rfl)
  | build => exact turned_same sound (relies.move nofun (fun _ => rfl) (fun _ => rfl) (fun _ => rfl) nofun)
  | reserve size => exact reserve_turned sound relies
  | publish size => exact publish_turned sound relies (own rfl)
  | notify => exact turned_same sound (relies.move nofun nofun (fun _ => rfl) (fun _ => rfl) nofun)
  | leave => exact turned_release sound trivial
  | fail =>
    exact failed_turned (f := fun row => { row with status := .failed, sizeBytes := none }) sound trivial (fun _ => rfl)
      (fun _ => rfl) (fun _ => rfl) rfl (failed rfl)

theorem queue_reserve_turned (estimate free : Nat) :
    Turned calm quotaHardMb i touched store (.idle, store.reserve quotaHardMb accountId runId estimate free) := by
  unfold Store.reserve
  dsimp only
  split_ifs with existing active
  · exact turned_same sound trivial
  · exact turned_same sound trivial
  · exact turned_same sound trivial
  · exact turned_same sound trivial
  · refine ⟨⟨?_, fun other => ?_, fun isCalm other => ?_⟩, trivial, ⟨fun _ _ _ held => held, fun other row found => ?_,
      .inl fun other keep => ?_⟩⟩
    · unfold Rows.Unique
      rw [map_append]
      refine Nodup.append sound.unique (nodup_singleton _) fun key earlier newest => ?_
      obtain ⟨row, inside, named⟩ := mem_map.mp earlier
      have fresh : row.id < Rows.next SnapshotDownload.id store.downloads := lt_next inside
      have drawn : key = Rows.next SnapshotDownload.id store.downloads := mem_singleton.mp newest
      omega
    · have budget := sound.budget other
      unfold Store.readyBytes at budget ⊢
      simpa [total] using budget
    · rw [countP_append, countP_singleton]
      by_cases mine : other = accountId
      · subst mine
        have none : store.downloads.countP (activeOf other) = 0 := by
          rw [countP_eq_zero]
          intro row inside chosen
          exact active (any_eq_true.mpr ⟨row, inside, chosen⟩)
        split <;> omega
      · have apart : activeOf other { id := Rows.next SnapshotDownload.id store.downloads, runId, accountId, status := .pending
                                      sizeBytes := some (projected estimate), expiresAt := none } = false := by
          simp [activeOf, Ne.symm mine]
        rw [apart]
        exact sound.one isCalm other
    · exact ⟨row, byKey_append found, Onward.refl row, .inl rfl⟩
    · unfold Store.readyBytes
      simp

end

theorem cleaned_rests (now : Nat) (missing : Nat → Bool) : Rests (SnapshotDownload.cleaned now missing) := by
  refine ⟨fun row => ?_, fun row => ?_, fun row ready => ?_⟩
  · unfold SnapshotDownload.cleaned
    split
    · split
      · rfl
      · split
        · rfl
        · split <;> rfl
    · rfl
  · unfold SnapshotDownload.cleaned
    split
    · split
      · rfl
      · split
        · rfl
        · split <;> rfl
    · rfl
  · unfold SnapshotDownload.cleaned at ready ⊢
    split at ready
    · next was =>
      rw [if_pos was]
      split at ready
      · cases ready
      · next present =>
        rw [if_neg present]
        split at ready
        · rfl
        · split at ready
          · next fresh => rw [if_pos fresh]
          · cases ready
    · next other => rw [if_neg other]

theorem cleaned_status (now : Nat) (missing : Nat → Bool) (row : SnapshotDownload) :
    (row.cleaned now missing).status = row.status ∨ row.status = .ready ∧ rank (row.cleaned now missing).status = 3 := by
  unfold SnapshotDownload.cleaned
  split
  · next was =>
    split
    · exact .inr ⟨was, rfl⟩
    · split
      · exact .inl rfl
      · split
        · exact .inl rfl
        · exact .inr ⟨was, rfl⟩
  · exact .inl rfl

section
variable (sound : Sound calm quotaHardMb store)
include sound

theorem cleanup_turned {task : Task}
    (relies : Relies calm quotaHardMb i task (store.cleanupDownloads moment.now moment.missing)) :
    Turned calm quotaHardMb i touched store (task, store.cleanupDownloads moment.now moment.missing) := by
  have rests := cleaned_rests moment.now moment.missing
  refine ⟨rests.sound sound rfl fun _ row _ active => ?_, relies, ⟨fun _ _ _ held => held, fun id row found => ?_,
    .inl (rests.readyBytes rfl)⟩⟩
  · rcases cleaned_status moment.now moment.missing row with same | ⟨_, ended⟩
    · rwa [same] at active
    · cases status : (row.cleaned moment.now moment.missing).status <;> simp_all [rank, DownloadStatus.isActive]
  · have now : (store.cleanupDownloads moment.now moment.missing).download id
        = (store.download id).map (SnapshotDownload.cleaned moment.now moment.missing) :=
      byKey_map rests.id store.downloads id
    rw [now, found]
    refine ⟨_, rfl, ⟨rests.account row, fun _ => ?_⟩, ?_⟩
    · rcases cleaned_status moment.now moment.missing row with same | ⟨_, ended⟩
      · exact Nat.le_of_eq (congrArg rank same.symm)
      · exact Nat.le_trans (rank_le row.status) (Nat.le_of_eq ended.symm)
    · rcases cleaned_status moment.now moment.missing row with same | ⟨was, _⟩
      · exact .inl same
      · exact .inr (.inr was)

theorem queue_turned (phase : QueuePhase) :
    Turned calm quotaHardMb i touched store (queueTurn quotaHardMb moment accountId runId phase store) := by
  cases phase with
  | cleanup => exact cleanup_turned sound trivial
  | read =>
    unfold queueTurn
    dsimp only
    split
    · exact turned_same sound trivial
    · split
      · exact turned_same sound trivial
      · exact turned_same sound trivial
  | measure => exact turned_same sound trivial
  | reserve estimate => exact queue_reserve_turned sound estimate moment.free

theorem recover_turned (phase : RecoverPhase)
    (failed : ∀ item rest, phase = .downloads (item :: rest) → item.status ≠ .pending → touched item.id) :
    Turned calm quotaHardMb i touched store (recoverTurn moment i phase store) := by
  cases phase with
  | runs rows =>
    cases rows with
    | nil => exact turned_same sound trivial
    | cons row rest =>
      unfold recoverTurn
      dsimp only
      split
      · exact turned_same sound trivial
      · split
        · next free => exact turned_apart sound trivial rfl fun _ _ _ held => acquire_locks free held
        · exact turned_same sound trivial
  | check row rest =>
    unfold recoverTurn
    dsimp only
    split
    · exact turned_release sound trivial
    · split
      · exact turned_same sound trivial
      · exact turned_same sound trivial
  | interrupt row rest => exact turned_apart sound trivial rfl fun _ _ _ held => held
  | leave rest => exact turned_release sound trivial
  | readDownloads => exact turned_same sound trivial
  | downloads items =>
    cases items with
    | nil => exact turned_same sound trivial
    | cons item rest =>
      unfold recoverTurn
      dsimp only
      split
      · exact turned_same sound trivial
      · next running =>
        exact failed_turned (f := fun row => { row with status := .failed }) sound trivial (fun _ => rfl) (fun _ => rfl)
          (fun _ => rfl) rfl (failed item rest rfl running)
  | cleanup => exact cleanup_turned sound trivial

end

end

end Boron.SnapshotJobs.Downloads
