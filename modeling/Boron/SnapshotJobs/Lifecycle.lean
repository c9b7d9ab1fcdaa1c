import Boron.SnapshotJobs.Turns

namespace Boron.SnapshotJobs
open List Rows

def RunStatus.rank : RunStatus → Nat
  | .pending => 0
  | .running => 1
  | .completed => 2
  | .failed | .cancelled | .expired => 3

/-- A worker is between its status check and its last status write. -/
def Task.engaged : Task → Option Nat
  | .run id _ phase => if phase.isEarly || phase.isLate then some id else none
  | _ => none

/-- The runs that `execute_run` marks as expired. -/
def Store.expiring (store : Store) (job : Job) (obsolete : List Nat) : List SnapshotRun :=
  store.runs.filter fun run => run.job.accountId = job.accountId && run.job.destinationId = job.destinationId
    && run.snapshotId.any obsolete.contains

/-- The runs that a turn gives another status without being their worker. -/
def overwritten (moment : Moment) (task : Task) (store : Store) : List Nat :=
  if moment.stops || moment.raises then [] else match task with
    | .idle => match moment.call with
      | .cancelRun id => (store.runs.filter fun run => run.id = id && run.status = .pending).map SnapshotRun.id
      | _ => []
    | .run id _ .fail => [id]
    | .run _ job (.expire obsolete) => (store.expiring job obsolete).map SnapshotRun.id
    | .recover (.interrupt row _) => [row.id]
    | _ => []

/-- No cancellation before the start, no recovery, no retention and no failure of another
worker writes the status of a run whose worker is at work on it. -/
def Undisturbed (panel : Panel) (who : Nat × Moment) : Prop :=
  ∀ id ∈ overwritten who.2 (panel.task who.1) panel.store, ∀ j, (panel.task j).engaged ≠ some id

structure Onward (calm : Prop) (row later : SnapshotRun) : Prop where
  job : later.job = row.job
  begun : row.status ≠ .pending → later.status ≠ .pending
  cancelled : row.cancelRequested = true → later.cancelRequested = true
  rank : calm → row.status.rank ≤ later.status.rank

structure Sound (store : Store) : Prop where
  unique : Rows.Unique SnapshotRun.id store.runs
  once : (store.begun.map Prod.snd).Nodup
  begun : ∀ worker id, (worker, id) ∈ store.begun → ∃ row, store.run id = some row ∧ row.status ≠ .pending
  cancelled : ∀ id ∈ store.cancelledEarly, id ∉ store.backedUp ∧
    ∃ row, store.run id = some row ∧ row.status ≠ .pending ∧ row.cancelRequested = true
  backedUp : ∀ id ∈ store.backedUp, ∃ row, store.run id = some row ∧ row.status ≠ .pending

/-- What worker `i` relies on; `calm` says that nothing disturbs the runs at work. -/
structure RunRelies (calm : Prop) (i id : Nat) (job : Job) (phase : RunPhase) (store : Store) : Prop where
  known : ∃ row, store.run id = some row ∧ row.job = job ∧ (calm → phase.isEarly = true → row.status = .pending) ∧
    (phase.isLate = true → row.status ≠ .pending) ∧ (calm → phase.isLate = true → row.status = .running)
  locked : phase.isLocked = true → store.locks (.account job.accountId) = some i
  unbegun : phase.isEarly = true → ∀ worker, (worker, id) ∉ store.begun
  mine : phase.isLate = true → (i, id) ∈ store.begun
  uncancelled : phase = .save → id ∉ store.cancelledEarly

def Relies (calm : Prop) (i : Nat) (task : Task) (store : Store) : Prop :=
  match task with
  | .run id job phase => RunRelies calm i id job phase store
  | _ => True

/-- What a turn of task `i` leaves of what the other tasks may rely on. `touched` are the
runs that it may give another status. -/
structure Leaves (calm : Prop) (i : Nat) (touched : Nat → Prop) (store left : Store) : Prop where
  locks : ∀ name j, j ≠ i → store.locks name = some j → left.locks name = some j
  rows : ∀ id row, store.run id = some row → ∃ later, left.run id = some later ∧ Onward calm row later ∧
    (later.status = row.status ∨ touched id)
  begun : ∀ pair ∈ left.begun, pair ∈ store.begun ∨
    ∃ row, store.run pair.2 = some row ∧ store.locks (.account row.job.accountId) = some i
  kept : ∀ pair ∈ store.begun, pair ∈ left.begun
  cancelled : ∀ id ∈ left.cancelledEarly, id ∈ store.cancelledEarly ∨
    ∃ row, store.run id = some row ∧ row.status = .pending

section
variable {calm : Prop} {i id : Nat} {job : Job} {touched : Nat → Prop} {store left : Store} {row : SnapshotRun}

theorem Onward.refl (row : SnapshotRun) : Onward calm row row := ⟨rfl, id, id, fun _ => Nat.le_refl _⟩

theorem run_update {f : SnapshotRun → SnapshotRun} (same : ∀ row, (f row).id = row.id) (other : Nat) :
    (store.update id f).run other = if id = other then (store.run other).map f else store.run other :=
  byKey_change same store.runs id other

theorem run_id (found : store.run id = some row) : row ∈ store.runs ∧ row.id = id := byKey_some found

theorem leaves_of_same (runs : left.runs = store.runs) (begun : left.begun = store.begun)
    (cancelled : left.cancelledEarly = store.cancelledEarly)
    (locks : ∀ name j, j ≠ i → store.locks name = some j → left.locks name = some j) :
    Leaves calm i touched store left := by
  refine ⟨locks, fun id row found => ⟨row, ?_, Onward.refl row, .inl rfl⟩, fun pair member => .inl ?_,
    fun pair member => ?_, fun id member => .inl ?_⟩
  · unfold Store.run
    rw [runs]
    exact found
  · rwa [begun] at member
  · rwa [begun]
  · rwa [cancelled] at member

theorem sound_of_same (sound : Sound store) (runs : left.runs = store.runs) (begun : left.begun = store.begun)
    (cancelled : left.cancelledEarly = store.cancelledEarly) (backedUp : left.backedUp = store.backedUp) : Sound left := by
  obtain ⟨unique, once, started, early, saved⟩ := sound
  constructor <;> simp only [Store.run, runs, begun, cancelled, backedUp] <;> assumption

theorem release_locks {name : LockName} {j : Nat} (other : j ≠ i) (held : store.locks name = some j) :
    (store.release i).locks name = some j := by
  have different : store.locks name ≠ some i := by
    rw [held]
    exact fun same => other (Option.some.inj same)
  unfold Store.release
  dsimp only
  rw [if_neg different, held]

theorem acquire_locks {name taken : LockName} {j : Nat} (free : store.locks taken = none)
    (held : store.locks name = some j) : (store.acquire i taken).locks name = some j := by
  have different : name ≠ taken := by
    rintro rfl
    rw [free] at held
    cases held
  unfold Store.acquire
  dsimp only
  rw [if_neg different, held]

theorem acquire_own (name : LockName) : (store.acquire i name).locks name = some i := by
  simp only [Store.acquire, if_true]

theorem leaves_update {f : SnapshotRun → SnapshotRun} (same : ∀ row, (f row).id = row.id)
    (onward : ∀ row, store.run id = some row → Onward calm row (f row))
    (status : ∀ row, store.run id = some row → (f row).status = row.status ∨ touched id) :
    Leaves calm i touched store (store.update id f) := by
  refine ⟨fun _ _ _ held => held, fun other row found => ?_, fun _ => .inl, fun _ member => member, fun _ => .inl⟩
  rw [run_update same]
  by_cases own : id = other
  · subst own
    rw [if_pos rfl, found]
    exact ⟨f row, rfl, onward row found, status row found⟩
  · rw [if_neg own]
    exact ⟨row, found, Onward.refl row, .inl rfl⟩

/-- The rows go on, and what is known about them is still true. -/
theorem Sound.onward (sound : Sound store) (unique : Rows.Unique SnapshotRun.id left.runs)
    (rows : ∀ id row, store.run id = some row → ∃ later, left.run id = some later ∧ Onward False row later)
    (begun : left.begun = store.begun) (cancelled : left.cancelledEarly = store.cancelledEarly)
    (backedUp : left.backedUp = store.backedUp) : Sound left := by
  refine ⟨unique, ?_, fun worker id member => ?_, fun id member => ?_, fun id member => ?_⟩
  · rw [begun]
    exact sound.once
  · rw [begun] at member
    obtain ⟨row, found, started⟩ := sound.begun worker id member
    obtain ⟨later, found', onward⟩ := rows id row found
    exact ⟨later, found', onward.begun started⟩
  · rw [cancelled] at member
    obtain ⟨never, row, found, started, requested⟩ := sound.cancelled id member
    obtain ⟨later, found', onward⟩ := rows id row found
    rw [backedUp]
    exact ⟨never, later, found', onward.begun started, onward.cancelled requested⟩
  · rw [backedUp] at member
    obtain ⟨row, found, started⟩ := sound.backedUp id member
    obtain ⟨later, found', onward⟩ := rows id row found
    exact ⟨later, found', onward.begun started⟩

theorem Onward.weaken {later : SnapshotRun} (onward : Onward calm row later) : Onward False row later :=
  ⟨onward.job, onward.begun, onward.cancelled, fun never => never.elim⟩

theorem Sound.update (sound : Sound store) {f : SnapshotRun → SnapshotRun} (same : ∀ row, (f row).id = row.id)
    (onward : ∀ row, store.run id = some row → Onward calm row (f row)) : Sound (store.update id f) := by
  refine sound.onward (unique_map (fun row => ?_) sound.unique) (fun other row found => ?_) rfl rfl rfl
  · split
    · exact same row
    · rfl
  · obtain ⟨later, found', onward, _⟩ :=
      (@leaves_update calm 0 id (fun _ => True) store f same onward fun _ _ => .inr trivial).rows other row found
    exact ⟨later, found', onward.weaken⟩

theorem rank_le (status : RunStatus) : status.rank ≤ 3 := by cases status <;> decide

theorem onward_ended {later : SnapshotRun} (job : later.job = row.job) (ended : later.status.rank = 3)
    (cancelled : later.cancelRequested = row.cancelRequested) : Onward calm row later := by
  refine ⟨job, fun _ pending => ?_, fun requested => cancelled.trans requested, fun _ => ?_⟩
  · rw [pending] at ended
    cases ended
  · rw [ended]
    exact rank_le row.status

end

section
variable {calm : Prop} {i id : Nat} {job : Job} {touched : Nat → Prop} {store left : Store} {row : SnapshotRun}

theorem run_queueRun (known : store.run id = some row) : (store.queueRun job).run id = some row :=
  byKey_append known

theorem Sound.queueRun (sound : Sound store) : Sound (store.queueRun job) := by
  refine sound.onward ?_ (fun other row found => ⟨row, run_queueRun found, Onward.refl row⟩) rfl rfl rfl
  unfold Rows.Unique Store.queueRun
  rw [map_append]
  refine Nodup.append sound.unique (nodup_singleton _) fun key earlier newest => ?_
  obtain ⟨row, inside, named⟩ := mem_map.mp earlier
  have fresh : row.id < Rows.next SnapshotRun.id store.runs := lt_next inside
  have drawn : key = Rows.next SnapshotRun.id store.runs := mem_singleton.mp newest
  omega

/-- A store to which runs have been added, and nothing else has happened. -/
structure Queued (store left : Store) : Prop where
  rows : ∀ id row, store.run id = some row → left.run id = some row
  downloads : left.downloads = store.downloads
  saved : left.saved = store.saved
  forgotten : left.forgotten = store.forgotten
  locks : left.locks = store.locks
  begun : left.begun = store.begun
  cancelled : left.cancelledEarly = store.cancelledEarly
  backedUp : left.backedUp = store.backedUp
  taking : left.taking = store.taking
  added : ∀ row ∈ left.runs, row ∈ store.runs ∨ row.status = .pending ∧ row.snapshotId = none ∧ row.pinned = false

theorem Queued.refl (store : Store) : Queued store store :=
  ⟨fun _ _ found => found, rfl, rfl, rfl, rfl, rfl, rfl, rfl, rfl, fun _ => .inl⟩

theorem Queued.queueRun (queued : Queued store left) (job : Job) : Queued store (left.queueRun job) := by
  obtain ⟨rows, downloads, saved, forgotten, locks, begun, cancelled, backedUp, taking, added⟩ := queued
  refine ⟨fun id row found => run_queueRun (rows id row found), downloads, saved, forgotten, locks, begun, cancelled,
    backedUp, taking, fun row member => ?_⟩
  rcases mem_append.mp member with earlier | newest
  · exact added row earlier
  · rw [mem_singleton.mp newest]
    exact .inr ⟨rfl, rfl, rfl⟩

theorem queuePolicy_keeps {P : Store → Prop} (step : ∀ store job, P store → P (store.queueRun job))
    (policyId : Nat) (options : Options) (destinationIds : List Nat) (busy : Nat → Bool) (accountIds : List Nat)
    (store : Store) (holds : P store) : P (store.queuePolicy policyId options destinationIds busy accountIds) := by
  have each (accountId : Nat) (destinationIds : List Nat) (store : Store) (holds : P store) :
      P (destinationIds.foldl
        (fun store destinationId => store.queueRun { policyId, destinationId, accountId, options }) store) := by
    induction destinationIds generalizing store with
    | nil => exact holds
    | cons destinationId rest ih => exact ih _ (step store _ holds)
  induction accountIds generalizing store with
  | nil => exact holds
  | cons accountId rest ih =>
    unfold Store.queuePolicy
    split
    · exact ih store holds
    · exact ih _ (each accountId destinationIds store holds)

theorem leaves_queued (queued : Queued store left) : Leaves calm i touched store left := by
  refine ⟨fun name j _ held => ?_, fun id row found => ⟨row, queued.rows id row found, Onward.refl row, .inl rfl⟩,
    fun pair member => .inl ?_, fun pair member => ?_, fun id member => .inl ?_⟩
  · rwa [queued.locks]
  · rwa [queued.begun] at member
  · rwa [queued.begun]
  · rwa [queued.cancelled] at member

end

section
variable {calm : Prop} {i j id : Nat} {job job' : Job} {phase phase' : RunPhase} {touched : Nat → Prop}
  {store left : Store} {row : SnapshotRun}

theorem early_locked (early : phase.isEarly = true) : phase.isLocked = true := by
  cases phase <;> simp_all [RunPhase.isEarly, RunPhase.isLocked]

theorem engaged_apart (sound : Sound store) (first : RunRelies calm i id job phase store)
    (second : RunRelies calm j id job' phase' store) (engaged : (phase.isEarly || phase.isLate) = true)
    (engaged' : (phase'.isEarly || phase'.isLate) = true) : i = j := by
  obtain ⟨row, found, named, _⟩ := first.known
  obtain ⟨row', found', named', _⟩ := second.known
  have same : row = row' := Option.some.inj (found.symm.trans found')
  subst same
  subst named
  subst named'
  rcases Bool.or_eq_true_iff.mp engaged with early | late <;> rcases Bool.or_eq_true_iff.mp engaged' with early' | late'
  · have held := first.locked (early_locked early)
    rw [second.locked (early_locked early')] at held
    exact (Option.some.inj held).symm
  · exact absurd (second.mine late') (first.unbegun early j)
  · exact absurd (first.mine late) (second.unbegun early' i)
  · have pairs := inj_on_of_nodup_map sound.once (first.mine late) (second.mine late') rfl
    exact congrArg Prod.fst pairs

/-- What the others rely on stands after a turn that writes to no run they are at work on. -/
theorem RunRelies.others (relies : RunRelies calm j id job phase store) (other : j ≠ i)
    (leaves : Leaves calm i touched store left)
    (apart : calm → touched id → (phase.isEarly || phase.isLate) = true → False) : RunRelies calm j id job phase left := by
  obtain ⟨row, found, named, early, begun, late⟩ := relies.known
  obtain ⟨later, found', onward, status⟩ := leaves.rows id row found
  refine ⟨⟨later, found', onward.job.trans named, fun calm isEarly => ?_, fun isLate => onward.begun (begun isLate),
    fun calm isLate => ?_⟩, fun isLocked => leaves.locks _ j other (relies.locked isLocked), fun isEarly worker member => ?_,
    fun isLate => leaves.kept _ (relies.mine isLate), fun saving member => ?_⟩
  · rcases status with same | written
    · exact same.trans (early calm isEarly)
    · exact (apart calm written (by simp [isEarly])).elim
  · rcases status with same | written
    · exact same.trans (late calm isLate)
    · exact (apart calm written (by simp [isLate])).elim
  · rcases leaves.begun _ member with earlier | ⟨row', same, held⟩
    · exact relies.unbegun isEarly worker earlier
    · have equal : row = row' := Option.some.inj (found.symm.trans same)
      subst equal
      rw [named, relies.locked (early_locked isEarly)] at held
      exact other (Option.some.inj held)
  · rcases leaves.cancelled id member with earlier | ⟨row', same, pending⟩
    · exact relies.uncancelled saving earlier
    · have equal : row = row' := Option.some.inj (found.symm.trans same)
      subst equal
      subst saving
      exact begun rfl pending

/-- What a turn of task `i` has to show. -/
structure Turned (calm : Prop) (i : Nat) (touched : Nat → Prop) (store : Store) (result : Task × Store) : Prop where
  sound : Sound result.2
  relies : Relies calm i result.1 result.2
  leaves : Leaves calm i touched store result.2

section
variable (sound : Sound store)
include sound

theorem turned_same {task : Task} (relies : Relies calm i task store) : Turned calm i touched store (task, store) :=
  ⟨sound, relies, leaves_of_same rfl rfl rfl fun _ _ _ held => held⟩

theorem turned_apart {task : Task} (relies : Relies calm i task left)
    (runs : left.runs = store.runs) (locks : left.locks = store.locks) (begun : left.begun = store.begun)
    (cancelled : left.cancelledEarly = store.cancelledEarly) (backedUp : left.backedUp = store.backedUp) :
    Turned calm i touched store (task, left) :=
  ⟨sound_of_same sound runs begun cancelled backedUp, relies,
    leaves_of_same runs begun cancelled fun _ _ _ held => by rwa [locks]⟩

theorem sound_release : Sound (store.release i) := sound_of_same sound rfl rfl rfl rfl

theorem turned_release {task : Task} (relies : Relies calm i task (store.release i)) :
    Turned calm i touched store (task, store.release i) :=
  ⟨sound_release sound, relies, leaves_of_same rfl rfl rfl fun _ _ other held => release_locks other held⟩

theorem turned_lock {name : LockName} {waiting granted : Task}
    (waits : Relies calm i waiting store) (goes : Relies calm i granted (store.acquire i name)) :
    Turned calm i touched store (lockTurn i name waiting granted store) := by
  unfold lockTurn
  cases free : store.locks name with
  | none =>
    exact ⟨sound_of_same sound rfl rfl rfl rfl, goes,
      leaves_of_same rfl rfl rfl fun _ _ _ held => acquire_locks free held⟩
  | some holder => exact turned_same sound waits

end

theorem RunRelies.move (relies : RunRelies calm i id job phase store) (early : phase'.isEarly = true → phase.isEarly = true)
    (late : phase'.isLate = true → phase.isLate = true) (locked : phase'.isLocked = true → phase.isLocked = true)
    (saving : phase' ≠ .save) : RunRelies calm i id job phase' store := by
  obtain ⟨row, found, named, isEarly, begun, isLate⟩ := relies.known
  exact ⟨⟨row, found, named, fun calm now => isEarly calm (early now), fun now => begun (late now),
      fun calm now => isLate calm (late now)⟩,
    fun now => relies.locked (locked now), fun now => relies.unbegun (early now), fun now => relies.mine (late now),
    fun now => absurd now saving⟩

theorem relies_known (found : store.run id = some row) (named : row.job = job)
    (early : phase.isEarly = false) (late : phase.isLate = false)
    (locked : phase.isLocked = true → store.locks (.account job.accountId) = some i) :
    RunRelies calm i id job phase store := by
  refine ⟨⟨row, found, named, fun _ now => ?_, fun now => ?_, fun _ now => ?_⟩, locked, fun now => ?_, fun now => ?_,
    fun now => ?_⟩
  · rw [early] at now
    cases now
  · rw [late] at now
    cases now
  · rw [late] at now
    cases now
  · rw [early] at now
    cases now
  · rw [late] at now
    cases now
  · subst now
    cases late

theorem RunRelies.failing (relies : RunRelies calm i id job phase store) :
    RunRelies calm i id job .fail (store.release i) := by
  obtain ⟨row, found, named, _⟩ := relies.known
  exact relies_known found named rfl rfl nofun

end

end Boron.SnapshotJobs
