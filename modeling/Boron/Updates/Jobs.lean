import Boron.Lib.Rows
import Boron.Lib.Tasks
import Boron.Lib.WriteLock

namespace Boron.Updates

inductive Status
  | pending
  | running
  | finalizing
  | completed
  | failed
  deriving DecidableEq

inductive Kind
  | update
  | rollback
  deriving DecidableEq

def Status.text : Status → String
  | .pending => "pending"
  | .running => "running"
  | .finalizing => "finalizing"
  | .completed => "completed"
  | .failed => "failed"

/-- An entry of `steps`; `recordedAt` is its `at`. -/
structure Entry where
  step : String
  status : String
  detail : String
  recordedAt : Option String

structure UpdateJob where
  id : Nat
  kind : Kind
  status : Status
  fromVersion : String
  toVersion : String
  initiatedBy : String
  oldDir : Option String
  newDir : Option String
  progressMessage : String
  steps : List Entry
  error : Option String
  startedAt : Option Int
  completedAt : Option Int

def UpdateJob.isActive (job : UpdateJob) : Bool :=
  job.status = .pending || job.status = .running || job.status = .finalizing

/-- The table, and every claim that has succeeded: the worker and the job. The claims are
not stored. -/
structure Jobs where
  rows : List UpdateJob
  claims : List (Nat × Nat)

structure Host where
  fromisoformat : String → Option Int
  isoformat : Int → String
  updateLiveDir : String

def staleFinalizingSeconds : Int := 1800

def seconds (n : Int) : Int := n * 1000000

def lastNews (host : Host) (job : UpdateJob) : Option Int :=
  ((job.steps.reverse.findSome? Entry.recordedAt).bind host.fromisoformat).or job.startedAt

def isStale (host : Host) (now : Int) (job : UpdateJob) : Bool :=
  job.status = .finalizing && (lastNews host job).any fun last => now - last > seconds staleFinalizingSeconds

/-- `SELECT … WHERE status IN (…) ORDER BY id DESC` -/
def newestActive (rows : List UpdateJob) : Option UpdateJob :=
  (rows.filter UpdateJob.isActive).foldr
    (fun job newest => if newest.all (·.id < job.id) then some job else newest) none

/-- The values an `UPDATE` sets. -/
structure Fields where
  status : Option Status
  steps : Option (List Entry)
  progressMessage : Option String
  error : Option String
  completedAt : Option Int
  oldDir : Option String
  newDir : Option String

def Fields.none : Fields :=
  { status := .none, steps := .none, progressMessage := .none, error := .none, completedAt := .none,
    oldDir := .none, newDir := .none }

def Fields.set (fields : Fields) (job : UpdateJob) : UpdateJob :=
  { job with
    status := fields.status.getD job.status
    steps := fields.steps.getD job.steps
    progressMessage := fields.progressMessage.getD job.progressMessage
    error := fields.error.or job.error
    completedAt := fields.completedAt.or job.completedAt
    oldDir := fields.oldDir.or job.oldDir
    newDir := fields.newDir.or job.newDir }

/-- `UPDATE update_jobs SET … WHERE id = ?` -/
def Jobs.update (id : Nat) (fields : Fields) (jobs : Jobs) : Jobs :=
  { jobs with rows := jobs.rows.map fun job => if job.id = id then fields.set job else job }

def staleError (host : Host) : String :=
  "finalizer never reported back (stale for >30min). The symlink swap may or may " ++
  "not have been applied -- check /var/log/boron/updates.log, the " ++
  host.updateLiveDir ++ " symlink target, and both panel services before retrying."

def expired (host : Host) (now : Int) : Fields :=
  { Fields.none with
    status := some .failed
    error := some (staleError host)
    completedAt := some now
    progressMessage := some "failed (stale finalizer)" }

/-- What a start request wants to queue. -/
structure NewJob where
  kind : Kind
  fromVersion : String
  toVersion : String
  initiatedBy : String
  oldDir : Option String

def newId (rows : List UpdateJob) : Nat := (rows.map UpdateJob.id).foldr max 0 + 1

def NewJob.row (job : NewJob) (now : Int) (rows : List UpdateJob) : UpdateJob :=
  { id := newId rows, kind := job.kind, status := .pending, fromVersion := job.fromVersion
    toVersion := job.toVersion, initiatedBy := job.initiatedBy, oldDir := job.oldDir, newDir := none
    progressMessage := "queued", steps := [], error := none, startedAt := some now, completedAt := none }

def Jobs.insert (job : NewJob) (now : Int) (jobs : Jobs) : Jobs :=
  { jobs with rows := jobs.rows ++ [job.row now jobs.rows] }

def UpdateJob.claimable (id : Nat) (kind : Kind) (job : UpdateJob) : Bool :=
  job.id = id && job.kind = kind && job.status = .pending

/-- The `UPDATE` of `_claim_job`. -/
def Jobs.claim (worker id : Nat) (kind : Kind) (jobs : Jobs) : Jobs :=
  if jobs.rows.any (UpdateJob.claimable id kind) then
    { rows := jobs.rows.map fun job => if job.claimable id kind
        then { job with status := .running, progressMessage := "starting" } else job
      claims := (worker, id) :: jobs.claims }
  else jobs

/-- What a worker, or the finalizer it has launched, does next. -/
inductive Plan
  | step (entry : Entry) (progressMessage : String)
  | fail (error progressMessage : String)
  | finalize (oldDir newDir : String)
  | complete

structure Moment where
  now : Int
  plan : Plan
  aborted : Bool

inductive Answer
  | raised (message : String)
  | queued (job : UpdateJob)
  | active (job : Option UpdateJob)
  | notClaimed
  | finished
  | aborted

inductive After
  | done (answer : Answer)
  | working (id : Nat)
  | handed (id : Nat)

/-- A request between two statements. `start` is `start_update` or `start_rollback` after
its checks; `look` is `get_status` or `set_channel`, which also ask for the active job.
`working` is a worker that has claimed a job, `handed` the same job in the hands of its
finalizer. -/
inductive Task
  | start (checked : Except String NewJob)
  | look
  | expire (id : Nat) (job : Option NewJob)
  | insert (job : NewJob)
  | claim (id : Nat) (kind : Kind)
  | working (id : Nat)
  | handed (id : Nat)
  | change (id : Nat) (fields : Fields) (after : After)
  | commit (after : After)
  | ended (answer : Answer)

def After.task : After → Task
  | .done answer => .ended answer
  | .working id => .working id
  | .handed id => .handed id

abbrev File := WriteLock Nat Jobs

/-- `_active_job` at its `SELECT`. -/
def activeJob (host : Host) (now : Int) (job : Option NewJob) (rows : List UpdateJob) : Task :=
  match newestActive rows with
  | none => match job with
    | some new => .insert new
    | none => .commit (.done (.active none))
  | some active =>
    if isStale host now active then .expire active.id job
    else match job with
      | some _ => .ended (.raised ("update job " ++ toString active.id ++ " is already " ++ active.status.text))
      | none => .commit (.done (.active (some active)))

/-- `_active_job` answers none once it has expired the job. -/
def afterExpiry : Option NewJob → Task
  | some new => .insert new
  | none => .commit (.done (.active none))

def stepsOf (id : Nat) (rows : List UpdateJob) : List Entry :=
  ((rows.find? fun job => job.id = id).map UpdateJob.steps).getD []

def stepFields (id : Nat) (rows : List UpdateJob) (entry : Entry) (progressMessage : String) : Fields :=
  { Fields.none with steps := some (stepsOf id rows ++ [entry]), progressMessage := some progressMessage }

def failFields (now : Int) (error progressMessage : String) : Fields :=
  { Fields.none with
    status := some .failed, error := some error, progressMessage := some progressMessage, completedAt := some now }

def handoffFields (oldDir newDir : String) : Fields :=
  { Fields.none with
    status := some .finalizing, oldDir := some oldDir, newDir := some newDir
    progressMessage := some "finalizing: swapping symlink and restarting panel services" }

def completeFields (now : Int) : Fields :=
  { Fields.none with status := some .completed, completedAt := some now, progressMessage := some "completed" }

def workTurn (moment : Moment) (id : Nat) (rows : List UpdateJob) : Task :=
  match moment.plan with
  | .step entry progressMessage => .change id (stepFields id rows entry progressMessage) (.working id)
  | .fail error progressMessage => .change id (failFields moment.now error progressMessage) (.done .finished)
  | .finalize oldDir newDir => .change id (handoffFields oldDir newDir) (.handed id)
  | .complete => .working id

def finalizeTurn (moment : Moment) (id : Nat) (rows : List UpdateJob) : Task :=
  match moment.plan with
  | .step entry progressMessage => .change id (stepFields id rows entry progressMessage) (.handed id)
  | .fail error progressMessage => .change id (failFields moment.now error progressMessage) (.done .finished)
  | .complete => .change id (completeFields moment.now) (.done .finished)
  | .finalize _ _ => .handed id

def writeTurn (i : Nat) (f : Jobs → Jobs) (waiting next : Task) (file : File) : Task × File :=
  match file.write i f with
  | some left => (next, left)
  | none => (waiting, file)

def advance (host : Host) (i : Nat) (moment : Moment) (task : Task) (file : File) : Task × File :=
  if moment.aborted then (.ended .aborted, file.rollback i)
  else
    let rows := (file.view i).rows
    match task with
    | .start (.error message) => (.ended (.raised message), file)
    | .start (.ok job) => (activeJob host moment.now (some job) rows, file)
    | .look => (activeJob host moment.now none rows, file)
    | .expire id job =>
      writeTurn i (Jobs.update id (expired host moment.now)) task (afterExpiry job) file
    | .insert job =>
      writeTurn i (Jobs.insert job moment.now) task (.commit (.done (.queued (job.row moment.now rows)))) file
    | .claim id kind =>
      let won := rows.any (UpdateJob.claimable id kind)
      writeTurn i (Jobs.claim i id kind) task (.commit (if won then .working id else .done .notClaimed)) file
    | .working id => (workTurn moment id rows, file)
    | .handed id => (finalizeTurn moment id rows, file)
    | .change id fields after => writeTurn i (Jobs.update id fields) task (.commit after) file
    | .commit after => (after.task, file.commit i)
    | .ended answer => (.ended answer, file)

abbrev Server := Tasks.Server Nat Task File

def AtMostOne (jobs : Jobs) : Prop := (jobs.rows.filter UpdateJob.isActive).length ≤ 1

/-- Any requests of which none has begun, and finalizers of jobs that were handed off. -/
def Task.Unbegun (rows : List UpdateJob) : Task → Prop
  | .start _ => True
  | .look => True
  | .claim _ _ => True
  | .handed id => (∃ job ∈ rows, job.id = id) ∧ ∀ job ∈ rows, job.id = id → job.status ≠ .pending ∧ job.status ≠ .running
  | _ => False

structure Fresh (server : Server) : Prop where
  unlocked : server.store.holder = none
  claims : server.store.committed.claims = []
  unique : Rows.Unique UpdateJob.id server.store.committed.rows
  one : AtMostOne server.store.committed
  tasks : ∀ i, (server.task i).Unbegun server.store.committed.rows

/-- When a start request takes the write lock, no job is active but the one it has found
stale. -/
def NoneActive (server : Server) (who : Nat × Moment) : Prop :=
  server.store.holder = none → match server.task who.1 with
    | .expire id (some _) => ∀ job ∈ server.store.committed.rows, job.isActive = true → job.id = id
    | .insert _ => ∀ job ∈ server.store.committed.rows, job.isActive = false
    | _ => True

end Boron.Updates

namespace Boron.Updates

structure StatusIs (P : Status → Prop) (id : Nat) (jobs : Jobs) : Prop where
  known : ∃ job ∈ jobs.rows, job.id = id
  status : ∀ job ∈ jobs.rows, job.id = id → P job.status

abbrev Begun : Nat → Jobs → Prop := StatusIs (· ≠ .pending)
abbrev Running : Nat → Jobs → Prop := StatusIs (· = .running)
abbrev Settled : Nat → Jobs → Prop := StatusIs fun status => status ≠ .pending ∧ status ≠ .running

/-- `serial` says whether start requests find no active job when they take the lock. -/
structure Sound (serial : Prop) (jobs : Jobs) : Prop where
  one : serial → AtMostOne jobs
  unique : Rows.Unique UpdateJob.id jobs.rows
  once : (jobs.claims.map Prod.snd).Nodup
  begun : ∀ worker id, (worker, id) ∈ jobs.claims → Begun id jobs

theorem id_le_newId {rows : List UpdateJob} {job : UpdateJob} (member : job ∈ rows) : job.id < newId rows := by
  have bound : job.id ≤ (rows.map UpdateJob.id).foldr max 0 := by
    induction rows with
    | nil => cases member
    | cons first rest ih =>
      rcases List.mem_cons.mp member with same | later
      · rw [same]
        exact Nat.le_max_left ..
      · exact Nat.le_trans (ih later) (Nat.le_max_right ..)
  unfold newId
  omega

/-- A change of rows that keeps their ids. -/
structure Maps (f : UpdateJob → UpdateJob) : Prop where
  id : ∀ job, (f job).id = job.id

theorem update_maps (id : Nat) (fields : Fields) : Maps fun job => if job.id = id then fields.set job else job :=
  ⟨fun _ => by split <;> rfl⟩

theorem claim_maps (id : Nat) (kind : Kind) :
    Maps fun job => if job.claimable id kind then { job with status := .running, progressMessage := "starting" } else job :=
  ⟨fun _ => by split <;> rfl⟩

section
variable {serial : Prop} {P : Status → Prop} {id other : Nat} {jobs : Jobs} {fields : Fields} {f : UpdateJob → UpdateJob}

section
variable (holds : StatusIs P id jobs)
include holds

theorem StatusIs.map (maps : Maps f) {claims : List (Nat × Nat)}
    (kept : ∀ job ∈ jobs.rows, job.id = id → P (f job).status) : StatusIs P id { rows := jobs.rows.map f, claims } := by
  obtain ⟨⟨row, inside, named⟩, _⟩ := holds
  refine ⟨⟨f row, List.mem_map_of_mem inside, (maps.id row).trans named⟩, fun job member same => ?_⟩
  obtain ⟨earlier, before, equal⟩ := List.mem_map.mp member
  subst equal
  exact kept earlier before ((maps.id earlier).symm.trans same)

theorem StatusIs.update
    (kept : other = id → ∀ status, P status → P (fields.status.getD status)) : StatusIs P id (jobs.update other fields) := by
  refine holds.map (update_maps other fields) fun job member named => ?_
  have before := holds.status job member named
  by_cases own : job.id = other
  · simp only [own, if_true, Fields.set]
    exact kept (own.symm.trans named) _ before
  · simp only [own, if_false]
    exact before

theorem StatusIs.insert (job : NewJob) (now : Int) : StatusIs P id (jobs.insert job now) := by
  obtain ⟨⟨row, inside, named⟩, status⟩ := holds
  refine ⟨⟨row, List.mem_append_left _ inside, named⟩, fun found member same => ?_⟩
  rcases List.mem_append.mp member with before | newest
  · exact status found before same
  · have fresh := id_le_newId inside
    rw [List.mem_singleton.mp newest] at same
    have : newId jobs.rows = id := same
    omega

theorem StatusIs.claim (begun : ¬ P .pending) (worker : Nat) (kind : Kind) :
    StatusIs P id (jobs.claim worker other kind) := by
  unfold Jobs.claim
  split
  · refine holds.map (claim_maps other kind) fun job member named => ?_
    have before := holds.status job member named
    by_cases claimable : job.claimable other kind = true
    · simp only [UpdateJob.claimable, Bool.and_eq_true, decide_eq_true_eq] at claimable
      rw [claimable.2] at before
      exact absurd before begun
    · simp only [claimable, Bool.false_eq_true, if_false]
      exact before
  · exact holds

end

theorem atMostOne_map (one : AtMostOne jobs) {claims : List (Nat × Nat)}
    (active : ∀ job ∈ jobs.rows, (f job).isActive = true → job.isActive = true) :
    AtMostOne { rows := jobs.rows.map f, claims } := by
  unfold AtMostOne at one ⊢
  rw [← List.countP_eq_length_filter] at one ⊢
  rw [List.countP_map]
  exact Nat.le_trans (List.countP_mono_left active) one

/-- An update that makes no job active again. -/
theorem Sound.update (sound : Sound serial jobs) (notPending : fields.status ≠ some .pending)
    (active : ∀ job ∈ jobs.rows, job.id = id → (fields.set job).isActive = true → job.isActive = true) :
    Sound serial (jobs.update id fields) := by
  refine ⟨fun serial => atMostOne_map (sound.one serial) fun job member lives => ?_,
    Rows.unique_map (update_maps id fields).id sound.unique, sound.once,
    fun worker other claimed => (sound.begun worker other claimed).update fun _ status begun => ?_⟩
  · by_cases own : job.id = id
    · simp only [own, if_true] at lives
      exact active job member own lives
    · simpa only [own, if_false] using lives
  · cases set : fields.status with
    | none => exact begun
    | some status =>
      rintro same
      exact notPending (set.trans (congrArg some same))

theorem Sound.insert (sound : Sound serial jobs) (job : NewJob) (now : Int) (none : serial → ∀ job ∈ jobs.rows, job.isActive = false) :
    Sound serial (jobs.insert job now) := by
  refine ⟨?_, ?_, sound.once, fun worker id claimed => (sound.begun worker id claimed).insert job now⟩
  · intro serial
    have empty : jobs.rows.filter UpdateJob.isActive = [] :=
      List.filter_eq_nil_iff.mpr fun job member => by simp [none serial job member]
    unfold AtMostOne Jobs.insert
    rw [List.filter_append, empty, List.nil_append]
    exact (List.filter_sublist).length_le
  · unfold Rows.Unique Jobs.insert
    rw [List.map_append]
    refine List.Nodup.append sound.unique (List.nodup_singleton _) fun id earlier newest => ?_
    obtain ⟨row, inside, named⟩ := List.mem_map.mp earlier
    have fresh := id_le_newId inside
    rw [List.map_singleton, List.mem_singleton] at newest
    have : id = newId jobs.rows := newest
    omega

theorem Sound.claim (sound : Sound serial jobs) (worker : Nat) (kind : Kind) : Sound serial (jobs.claim worker id kind) := by
  by_cases won : jobs.rows.any (UpdateJob.claimable id kind) = true
  · obtain ⟨row, inside, claimable⟩ := List.any_eq_true.mp won
    simp only [UpdateJob.claimable, Bool.and_eq_true, decide_eq_true_eq] at claimable
    have unclaimed : id ∉ jobs.claims.map Prod.snd := by
      intro member
      obtain ⟨⟨earlier, named⟩, claimed, same⟩ := List.mem_map.mp member
      have begun := (sound.begun earlier named claimed).status row inside (claimable.1.1.trans same.symm)
      exact begun claimable.2
    have begun (other : Nat) (holds : Begun other jobs) : Begun other (jobs.claim worker id kind) :=
      holds.claim (fun pending => pending rfl) worker kind
    have running : Begun id (jobs.claim worker id kind) := by
      simp only [Jobs.claim, won, if_true]
      refine ⟨⟨_, List.mem_map_of_mem inside, ?_⟩, fun job member named => ?_⟩
      · rw [(claim_maps id kind).id]
        exact claimable.1.1
      · obtain ⟨earlier, before, equal⟩ := List.mem_map.mp member
        have same : earlier = row := by
          have : earlier.id = row.id := by
            rw [claimable.1.1, ← named, ← equal, (claim_maps id kind).id]
          exact List.inj_on_of_nodup_map sound.unique before inside this
        subst same
        rw [← equal]
        simp [UpdateJob.claimable, claimable]
    refine ⟨?_, ?_, ?_, fun earlier other claimed => ?_⟩
    · simp only [Jobs.claim, won, if_true]
      refine fun serial => atMostOne_map (sound.one serial) fun job member lives => ?_
      by_cases own : job.claimable id kind = true
      · simp only [UpdateJob.claimable, Bool.and_eq_true, decide_eq_true_eq] at own
        simp [UpdateJob.isActive, own.2]
      · simpa only [own, Bool.false_eq_true, if_false] using lives
    · simp only [Jobs.claim, won, if_true]
      exact Rows.unique_map (claim_maps id kind).id sound.unique
    · simp only [Jobs.claim, won, if_true, List.map_cons]
      exact List.Nodup.cons unclaimed sound.once
    · have pairs : (jobs.claim worker id kind).claims = (worker, id) :: jobs.claims := by
        simp only [Jobs.claim, won, if_true]
      rw [pairs, List.mem_cons] at claimed
      rcases claimed with newest | before
      · cases newest
        exact running
      · exact begun other (sound.begun earlier other before)
  · simp only [Jobs.claim, won, Bool.false_eq_true, if_false]
    exact sound

theorem claim_won (worker : Nat) {kind : Kind} (sound : Sound serial jobs) (won : jobs.rows.any (UpdateJob.claimable id kind) = true) :
    Running id (jobs.claim worker id kind) ∧ (worker, id) ∈ (jobs.claim worker id kind).claims := by
  obtain ⟨row, inside, claimable⟩ := List.any_eq_true.mp won
  have fits := claimable
  simp only [UpdateJob.claimable, Bool.and_eq_true, decide_eq_true_eq] at claimable
  simp only [Jobs.claim, won, if_true]
  refine ⟨⟨⟨_, List.mem_map_of_mem inside, ?_⟩, fun job member named => ?_⟩, List.mem_cons_self⟩
  · rw [(claim_maps id kind).id]
    exact claimable.1.1
  · obtain ⟨earlier, before, equal⟩ := List.mem_map.mp member
    have same : earlier = row := by
      have : earlier.id = row.id := by
        rw [claimable.1.1, ← named, ← equal, (claim_maps id kind).id]
      exact List.inj_on_of_nodup_map sound.unique before inside this
    subst same
    rw [← equal, if_pos fits]

end

end Boron.Updates
