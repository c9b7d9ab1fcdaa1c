import Boron.SnapshotJobs.Runs

namespace Boron.SnapshotJobs

def Store.Promised (store : Store) (id : Nat) : Prop :=
  ∃ row, store.run id = some row ∧
    (row.pinned = true ∨ ∃ download ∈ store.downloads, download.runId = id ∧ download.status.isActive = true)

/-- The recovery point is in its repository, or a worker has yet to mark the runs that refer to it. -/
def Store.Kept (store : Store) (snapshot : Nat) : Prop :=
  snapshot ∉ store.forgotten ∨ ∃ j, snapshot ∈ store.taking j

def Store.Listed (store : Store) (job : Job) (snapshot : Nat) : Prop :=
  ∃ item ∈ store.saved, item.id = snapshot ∧ item.accountId = job.accountId ∧ item.destinationId = job.destinationId

def promising (moment : Moment) (task : Task) (store : Store) : List Nat :=
  if moment.stops || moment.raises then [] else match task with
    | .pin id true => [id]
    | .queue _ runId (.reserve _) => [runId]
    | .download id _ _ .start => (store.downloads.filter fun row => row.id = id).map SnapshotDownload.runId
    | _ => []

def marking (moment : Moment) (task : Task) (store : Store) : List Nat :=
  if moment.stops || moment.raises then [] else match task with
    | .run _ job (.expire obsolete) => (store.expiring job obsolete).map SnapshotRun.id
    | _ => []

def Task.chosen : Task → List Nat
  | .run _ _ (.forget obsolete) => obsolete
  | _ => []

def Task.expiring : Task → List Nat
  | .run _ _ (.expire obsolete) => obsolete
  | _ => []

/-- No pin and no download arrives between the choice and the forget call, no run is marked
whose worker is still at work, and no worker ends between its forget call and the marks. -/
structure Unraced (panel : Panel) (who : Nat × Moment) : Prop where
  promises : ∀ id ∈ promising who.2 (panel.task who.1) panel.store, ∀ row, panel.store.run id = some row →
    ∀ snapshot, row.snapshotId = some snapshot → ∀ j, snapshot ∉ (panel.task j).chosen
  marks : ∀ id ∈ marking who.2 (panel.task who.1) panel.store, ∀ j, (panel.task j).engaged ≠ some id
  lives : (panel.task who.1).expiring ≠ [] → who.2.stops = false ∧ who.2.raises = false

structure Consistent (store : Store) : Prop where
  unique : Rows.Unique Snapshot.id store.saved
  forgotten : ∀ snapshot ∈ store.forgotten, ∃ item ∈ store.saved, item.id = snapshot
  origin : ∀ id row, store.run id = some row → ∀ snapshot, row.snapshotId = some snapshot → store.Listed row.job snapshot
  downloads : ∀ download ∈ store.downloads, ∃ row, store.run download.runId = some row ∧
    row.job.accountId = download.accountId
  kept : ∀ id row, store.run id = some row → row.status = .completed →
    ∃ snapshot, row.snapshotId = some snapshot ∧ store.Kept snapshot

/-- What a worker knows of its own recovery point and of those it takes. -/
def PhaseNeeds (id : Nat) (job : Job) (phase : RunPhase) (store : Store) : Prop :=
  match phase with
  | .checkSaved snapshot | .cancelSaved snapshot | .record snapshot =>
    store.Listed job snapshot ∧ snapshot ∉ store.forgotten
  | .protect items => (∀ item ∈ items, store.Listed job item.id) ∧ ∀ row, store.run id = some row →
    ∃ snapshot, row.snapshotId = some snapshot ∧ store.Kept snapshot
  | .forget obsolete => (∀ snapshot ∈ obsolete, store.Listed job snapshot) ∧
    (∀ other row, store.run other = some row → ∀ snapshot, row.snapshotId = some snapshot → snapshot ∈ obsolete →
      ¬ store.Promised other) ∧
    ∀ row, store.run id = some row → ∃ snapshot, row.snapshotId = some snapshot ∧ store.Kept snapshot
  | .expire obsolete => (∀ snapshot ∈ obsolete, store.Listed job snapshot) ∧
    ∀ row, store.run id = some row → ∃ snapshot, row.snapshotId = some snapshot ∧ store.Kept snapshot
  | .list | .safety | .complete => ∀ row, store.run id = some row →
    ∃ snapshot, row.snapshotId = some snapshot ∧ store.Kept snapshot
  | _ => True

def TaskNeeds (task : Task) (store : Store) : Prop :=
  match task with
  | .run id job phase => PhaseNeeds id job phase store
  | .queue accountId runId .measure | .queue accountId runId (.reserve _) =>
    ∃ row, store.run runId = some row ∧ row.job.accountId = accountId
  | _ => True

structure Needs (i : Nat) (task : Task) (store : Store) : Prop where
  taking : store.taking i = task.expiring
  phase : TaskNeeds task store

/-- The recovery point that worker `i` has just written to the row of its run. -/
def OwnPoint (i : Nat) (store left : Store) (later : SnapshotRun) : Prop :=
  ∃ snapshot, later.snapshotId = some snapshot ∧ left.Listed later.job snapshot ∧ snapshot ∉ left.forgotten ∧
    store.locks (.account later.job.accountId) = some i

/-- What a turn of task `i` leaves of the recovery points. -/
structure Moves (i : Nat) (moment : Moment) (task : Task) (store left : Store) : Prop where
  saved : ∀ item ∈ store.saved, item ∈ left.saved
  taking : ∀ j, j ≠ i → left.taking j = store.taking j
  forgotten : ∀ snapshot ∈ left.forgotten, snapshot ∈ store.forgotten ∨ snapshot ∈ left.taking i ∧
    ∃ item ∈ store.saved, item.id = snapshot ∧ store.locks (.account item.accountId) = some i
  freed : ∀ snapshot ∈ store.taking i, snapshot ∉ left.taking i → ∀ id row, store.run id = some row →
    row.snapshotId = some snapshot → id ∈ marking moment task store
  marked : ∀ id ∈ marking moment task store, ∀ row, left.run id = some row → row.status = .expired
  forth : ∀ id row, store.run id = some row → ∃ later, left.run id = some later ∧ later.job = row.job ∧
    (later.snapshotId = row.snapshotId ∨ task.engaged = some id)
  back : ∀ id later, left.run id = some later → (∃ row, store.run id = some row ∧ later.job = row.job ∧
      (later.status = .completed → row.status = .completed ∨ ∃ job, task = .run id job .complete) ∧
      (later.snapshotId = row.snapshotId ∨ OwnPoint i store left later)) ∨
    later.status ≠ .completed ∧ later.snapshotId = none
  promised : ∀ id, left.Promised id → store.Promised id ∨ id ∈ promising moment task store
  downloads : ∀ download ∈ left.downloads, ∃ row, store.run download.runId = some row ∧
    row.job.accountId = download.accountId

section
variable {i j id snapshot : Nat} {job : Job} {phase : RunPhase} {moment : Moment} {task : Task} {store left : Store}
  {row later : SnapshotRun}

theorem Moves.listed (moves : Moves i moment task store left) (listed : store.Listed job snapshot) :
    left.Listed job snapshot := by
  obtain ⟨item, inside, named, account, destination⟩ := listed
  exact ⟨item, moves.saved item inside, named, account, destination⟩

theorem listed_account (consistent : Consistent store) {item : Snapshot} (inside : item ∈ store.saved)
    (named : item.id = snapshot) (listed : store.Listed job snapshot) : item.accountId = job.accountId := by
  obtain ⟨other, inside', named', account, _⟩ := listed
  have same : item = other := List.inj_on_of_nodup_map consistent.unique inside inside' (named.trans named'.symm)
  rw [same]
  exact account

section
variable (moves : Moves i moment task store left)
include moves

/-- What is not forgotten, and belongs to an account whose lock another worker has, stays. -/
theorem Moves.spared (consistent : Consistent store) (other : j ≠ i)
    (locked : store.locks (.account job.accountId) = some j) (listed : store.Listed job snapshot)
    (there : snapshot ∉ store.forgotten) : snapshot ∉ left.forgotten := by
  intro taken
  rcases moves.forgotten snapshot taken with earlier | ⟨_, item, inside, named, held⟩
  · exact there earlier
  · rw [listed_account consistent inside named listed, locked] at held
    exact other (Option.some.inj held)

/-- What a run refers to is kept while its marks are not written for it. -/
theorem Moves.keeps (kept : store.Kept snapshot) (found : store.run id = some row)
    (refers : row.snapshotId = some snapshot) (unmarked : id ∉ marking moment task store) : left.Kept snapshot := by
  by_cases taken : snapshot ∈ left.forgotten
  · rcases moves.forgotten snapshot taken with earlier | ⟨now, _⟩
    · rcases kept with there | ⟨k, taking⟩
      · exact absurd earlier there
      · by_cases own : k = i
        · subst own
          by_cases still : snapshot ∈ left.taking k
          · exact .inr ⟨k, still⟩
          · exact absurd (moves.freed snapshot taking still id row found refers) unmarked
        · rw [← moves.taking k own] at taking
          exact .inr ⟨k, taking⟩
    · exact .inr ⟨i, now⟩
  · exact .inl taken

theorem Moves.own_kept (sound : Sound store) (mine : Relies False i task store)
    (relies : RunRelies False j id job phase store) (other : j ≠ i) (busy : (phase.isEarly || phase.isLate) = true)
    (unmarked : id ∉ marking moment task store)
    (kept : ∀ row, store.run id = some row → ∃ snapshot, row.snapshotId = some snapshot ∧ store.Kept snapshot) :
    ∀ row, left.run id = some row → ∃ snapshot, row.snapshotId = some snapshot ∧ left.Kept snapshot := by
  intro later found'
  obtain ⟨row, found, _⟩ := relies.known
  obtain ⟨snapshot, refers, holds⟩ := kept row found
  obtain ⟨same, found'', _, unchanged⟩ := moves.forth id row found
  rw [found'] at found''
  cases found''
  rcases unchanged with equal | own
  · exact ⟨snapshot, equal.trans refers, moves.keeps holds found refers unmarked⟩
  · obtain ⟨job', phase', same, busy'⟩ := engaged_phase own
    subst same
    exact absurd (engaged_apart sound relies mine busy busy') other

theorem Moves.unpromised (other : j ≠ i)
    (locked : store.locks (.account job.accountId) = some j) {obsolete : List Nat}
    (listed : ∀ snapshot ∈ obsolete, store.Listed job snapshot)
    (unraced : ∀ id ∈ promising moment task store, ∀ row, store.run id = some row →
      ∀ snapshot, row.snapshotId = some snapshot → snapshot ∉ obsolete)
    (leaves : Consistent left)
    (safe : ∀ id row, store.run id = some row → ∀ snapshot, row.snapshotId = some snapshot → snapshot ∈ obsolete →
      ¬ store.Promised id) :
    ∀ id row, left.run id = some row → ∀ snapshot, row.snapshotId = some snapshot → snapshot ∈ obsolete →
      ¬ left.Promised id := by
  intro id later found' snapshot refers chosen promised
  rcases moves.back id later found' with ⟨row, found, sameJob, _, same | own⟩ | ⟨_, none⟩
  · have refers' : row.snapshotId = some snapshot := same.symm.trans refers
    rcases moves.promised id promised with earlier | now
    · exact safe id row found snapshot refers' chosen earlier
    · exact unraced id now row found snapshot refers' chosen
  · obtain ⟨own, refers', listed', _, held⟩ := own
    rw [refers] at refers'
    cases refers'
    obtain ⟨item, inside, named, account, _⟩ := listed'
    have owner := listed_account leaves inside named (moves.listed (listed snapshot chosen))
    rw [← account, owner, locked] at held
    exact other (Option.some.inj held)
  · rw [none] at refers
    cases refers

/-- The shared facts after a turn. -/
theorem Moves.consistent (consistent : Consistent store)
    (unique : Rows.Unique Snapshot.id left.saved) (needs : Needs i task store) : Consistent left := by
  refine ⟨unique, fun snapshot taken => ?_, fun id later found' snapshot refers => ?_, fun download member => ?_,
    fun id later found' completed => ?_⟩
  · rcases moves.forgotten snapshot taken with earlier | ⟨_, item, inside, named, _⟩
    · obtain ⟨item, inside, named⟩ := consistent.forgotten snapshot earlier
      exact ⟨item, moves.saved item inside, named⟩
    · exact ⟨item, moves.saved item inside, named⟩
  · rcases moves.back id later found' with ⟨row, found, sameJob, _, same | own⟩ | ⟨_, none⟩
    · rw [sameJob]
      exact moves.listed (consistent.origin id row found snapshot (same.symm.trans refers))
    · obtain ⟨own, refers', listed, _⟩ := own
      rw [refers] at refers'
      cases refers'
      exact listed
    · rw [none] at refers
      cases refers
  · obtain ⟨row, found, account⟩ := moves.downloads download member
    obtain ⟨later, found', sameJob, _⟩ := moves.forth download.runId row found
    exact ⟨later, found', by rw [sameJob, account]⟩
  · have unmarked : id ∉ marking moment task store := by
      intro marks
      rw [moves.marked id marks later found'] at completed
      cases completed
    rcases moves.back id later found' with ⟨row, found, _, before, same | own⟩ | ⟨never, _⟩
    · have kept : ∃ snapshot, row.snapshotId = some snapshot ∧ store.Kept snapshot := by
        rcases before completed with earlier | ⟨job, finishing⟩
        · exact consistent.kept id row found earlier
        · have phase := needs.phase
          subst finishing
          exact phase row found
      obtain ⟨snapshot, refers, holds⟩ := kept
      exact ⟨snapshot, same.trans refers, moves.keeps holds found refers unmarked⟩
    · obtain ⟨snapshot, refers, _, there, _⟩ := own
      exact ⟨snapshot, refers, .inl there⟩
    · exact absurd completed never

/-- What another worker needs stands after a turn that races no retention. -/
theorem Moves.others {other : Task} (sound : Sound store)
    (consistent : Consistent store) (leaves : Consistent left) (mine : Relies False i task store)
    (relies : Relies False j other store) (needs : Needs j other store) (apart : j ≠ i)
    (promises : ∀ id ∈ promising moment task store, ∀ row, store.run id = some row →
      ∀ snapshot, row.snapshotId = some snapshot → snapshot ∉ other.chosen)
    (marks : ∀ id ∈ marking moment task store, other.engaged ≠ some id) : Needs j other left := by
  refine ⟨(moves.taking j apart).trans needs.taking, ?_⟩
  cases other with
  | run id job phase =>
    have locked : phase.isLocked = true → store.locks (.account job.accountId) = some j := relies.locked
    have own (busy : (phase.isEarly || phase.isLate) = true) := moves.own_kept sound mine relies apart busy
      (fun member => marks id member (by simp only [Task.engaged, busy, if_true]))
    have phaseNeeds := needs.phase
    cases phase with
    | checkSaved snapshot =>
      exact ⟨moves.listed phaseNeeds.1, moves.spared consistent apart (locked rfl) phaseNeeds.1 phaseNeeds.2⟩
    | cancelSaved snapshot =>
      exact ⟨moves.listed phaseNeeds.1, moves.spared consistent apart (locked rfl) phaseNeeds.1 phaseNeeds.2⟩
    | record snapshot =>
      exact ⟨moves.listed phaseNeeds.1, moves.spared consistent apart (locked rfl) phaseNeeds.1 phaseNeeds.2⟩
    | list => exact own rfl phaseNeeds
    | protect items => exact ⟨fun item member => moves.listed (phaseNeeds.1 item member), own rfl phaseNeeds.2⟩
    | forget obsolete =>
      exact ⟨fun snapshot member => moves.listed (phaseNeeds.1 snapshot member),
        moves.unpromised apart (locked rfl) phaseNeeds.1 promises leaves phaseNeeds.2.1, own rfl phaseNeeds.2.2⟩
    | expire obsolete => exact ⟨fun snapshot member => moves.listed (phaseNeeds.1 snapshot member), own rfl phaseNeeds.2⟩
    | safety => exact own rfl phaseNeeds
    | complete => exact own rfl phaseNeeds
    | _ => exact trivial
  | queue accountId runId phase =>
    have known := needs.phase
    have later (known : ∃ row, store.run runId = some row ∧ row.job.accountId = accountId) :
        ∃ row, left.run runId = some row ∧ row.job.accountId = accountId := by
      obtain ⟨row, found, account⟩ := known
      obtain ⟨row', found', sameJob, _⟩ := moves.forth runId row found
      exact ⟨row', found', by rw [sameJob, account]⟩
    cases phase with
    | measure => exact later known
    | reserve estimate => exact later known
    | _ => exact trivial
  | _ => exact trivial

end

end

end Boron.SnapshotJobs
