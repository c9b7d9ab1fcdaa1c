import Boron.Updates.Jobs

namespace Boron.Updates
open List

structure Owned (worker id : Nat) (jobs : Jobs) : Prop where
  running : Running id jobs
  claimed : (worker, id) ∈ jobs.claims

/-- What one statement of request `i` may do to the copy it works on. -/
structure Leaves (serial : Prop) (i : Nat) (jobs left : Jobs) : Prop where
  sound : Sound serial left
  settled : ∀ id, Settled id jobs → Settled id left
  owned : ∀ j id, j ≠ i → Owned j id jobs → Owned j id left

section
variable {serial : Prop} {i id : Nat} {jobs : Jobs} {fields : Fields}

theorem settled_value {status : Option Status} (terminal : status = none ∨ status = some .finalizing ∨
    status = some .failed ∨ status = some .completed) (before : Status) (settled : before ≠ .pending ∧ before ≠ .running) :
    status.getD before ≠ .pending ∧ status.getD before ≠ .running := by
  rcases terminal with rfl | rfl | rfl | rfl <;> simp [settled]

theorem leaves_settled (sound : Sound serial jobs) (own : Settled id jobs)
    (terminal : fields.status = none ∨ fields.status = some .failed ∨ fields.status = some .completed) :
    Leaves serial i jobs (jobs.update id fields) := by
  have value := @settled_value fields.status (by tauto)
  refine ⟨sound.update ?_ fun job _ _ active => ?_, fun other settled => settled.update fun _ => value,
    fun j other _ owned => ⟨owned.running.update ?_, owned.claimed⟩⟩
  · rcases terminal with set | set | set <;> simp [set]
  · rcases terminal with set | set | set <;> simp_all [Fields.set, UpdateJob.isActive]
  · intro same
    subst same
    obtain ⟨job, member, named⟩ := own.known
    exact absurd (owned.running.status job member named) (own.status job member named).2

theorem leaves_owned (sound : Sound serial jobs) (own : Owned i id jobs)
    (terminal : fields.status = none ∨ fields.status = some .finalizing ∨ fields.status = some .failed) :
    Leaves serial i jobs (jobs.update id fields) := by
  have value := @settled_value fields.status (by tauto)
  refine ⟨sound.update ?_ fun job member named _ => ?_, fun other settled => settled.update fun _ => value,
    fun j other different owned => ⟨owned.running.update ?_, owned.claimed⟩⟩
  · rcases terminal with set | set | set <;> simp [set]
  · simp [UpdateJob.isActive, own.running.status job member named]
  · intro same
    subst same
    have pairs : (j, id) = (i, id) := inj_on_of_nodup_map sound.once owned.claimed own.claimed rfl
    exact absurd (congrArg Prod.fst pairs) different

theorem leaves_insert (sound : Sound serial jobs) (job : NewJob) (now : Int)
    (quiet : serial → ∀ job ∈ jobs.rows, job.isActive = false) : Leaves serial i jobs (jobs.insert job now) :=
  ⟨sound.insert job now quiet, fun _ settled => settled.insert job now,
    fun _ _ _ owned => ⟨owned.running.insert job now, owned.claimed⟩⟩

theorem claims_kept (worker : Nat) (kind : Kind) {pair : Nat × Nat} (member : pair ∈ jobs.claims) :
    pair ∈ (jobs.claim worker id kind).claims := by
  unfold Jobs.claim
  split
  · exact mem_cons_of_mem _ member
  · exact member

theorem leaves_claim (sound : Sound serial jobs) (kind : Kind) : Leaves serial i jobs (jobs.claim i id kind) :=
  ⟨sound.claim i kind, fun _ settled => settled.claim (by simp) i kind,
    fun _ _ _ owned => ⟨owned.running.claim (by simp) i kind, claims_kept i kind owned.claimed⟩⟩

end

def Free (i : Nat) (file : File) : Prop := ∀ working, file.holder ≠ some (i, working)

def After.Written (i : Nat) (file : File) : After → Prop
  | .done _ => True
  | .working id => WriteLock.Holding i (Owned i id) file
  | .handed id => WriteLock.Holding i (Settled id) file

inductive Changes (i id : Nat) (file : File) (fields : Fields) : After → Prop
  | step (own : WriteLock.All (Owned i id) file) (set : fields.status = none) : Changes i id file fields (.working id)
  | handoff (own : WriteLock.All (Owned i id) file) (set : fields.status = some .finalizing) :
      Changes i id file fields (.handed id)
  | fail (own : WriteLock.All (Owned i id) file) (set : fields.status = some .failed) (answer : Answer) :
      Changes i id file fields (.done answer)
  | report (own : WriteLock.All (Settled id) file) (set : fields.status = none) : Changes i id file fields (.handed id)
  | close (own : WriteLock.All (Settled id) file) (set : fields.status = some .failed ∨ fields.status = some .completed)
      (answer : Answer) : Changes i id file fields (.done answer)

/-- What a request knows between two statements. -/
def Relies (serial : Prop) (i : Nat) (task : Task) (file : File) : Prop :=
  match task with
  | .start _ => Free i file
  | .look => Free i file
  | .expire id _ => WriteLock.All (Settled id) file ∧ Free i file
  | .insert _ => ∀ working, file.holder = some (i, working) → serial → ∀ job ∈ working.rows, job.isActive = false
  | .claim _ _ => True
  | .working id => WriteLock.All (Owned i id) file
  | .handed id => WriteLock.All (Settled id) file
  | .change id fields after => Changes i id file fields after
  | .commit after => after.Written i file
  | .ended _ => True

structure Shared (serial : Prop) (file : File) : Prop where
  sound : WriteLock.All (Sound serial) file
  ahead : ∀ i working, file.holder = some (i, working) → ∀ id, Settled id file.committed → Settled id working

/-- What a turn of `i` leaves of what the others rely on. -/
structure Spares (i : Nat) (file left : File) : Prop where
  free : ∀ j, j ≠ i → ∀ working, left.holder = some (j, working) → file.holder = some (j, working)
  settled : ∀ id, WriteLock.All (Settled id) file → WriteLock.All (Settled id) left
  owned : ∀ j id, j ≠ i → WriteLock.All (Owned j id) file → WriteLock.All (Owned j id) left
  holding : ∀ j P, j ≠ i → WriteLock.Holding j P file → WriteLock.Holding j P left

section
variable {serial : Prop} {i j id : Nat} {file left : File} {task : Task}

theorem Changes.spared {fields : Fields} {after : After} (spares : Spares i file left) (other : j ≠ i)
    (changes : Changes j id file fields after) : Changes j id left fields after := by
  cases changes with
  | step own set => exact .step (spares.owned j id other own) set
  | handoff own set => exact .handoff (spares.owned j id other own) set
  | fail own set answer => exact .fail (spares.owned j id other own) set answer
  | report own set => exact .report (spares.settled id own) set
  | close own set answer => exact .close (spares.settled id own) set answer

theorem Relies.spared (spares : Spares i file left) (other : j ≠ i) (relies : Relies serial j task file) :
    Relies serial j task left := by
  have free (before : Free j file) : Free j left :=
    fun working held => before working (spares.free j other working held)
  cases task with
  | start checked => exact free relies
  | look => exact free relies
  | expire id job => exact ⟨spares.settled id relies.1, free relies.2⟩
  | insert job => exact fun working held => relies working (spares.free j other working held)
  | claim id kind => trivial
  | working id => exact spares.owned j id other relies
  | handed id => exact spares.settled id relies
  | change id fields after => exact Changes.spared spares other relies
  | commit after =>
    cases after with
    | done answer => trivial
    | working id => exact spares.holding j _ other relies
    | handed id => exact spares.holding j _ other relies
  | ended answer => trivial

theorem spares_commit : Spares i file (file.commit i) := by
  refine ⟨fun j other working held => ?_, fun _ all => all.commit i, fun _ _ _ all => all.commit i,
    fun _ _ other holding => holding.commit other⟩
  rcases WriteLock.commit_cases file i with ⟨same, _⟩ | ⟨own, mine, same⟩
  · rwa [same] at held
  · rw [same] at held
    cases held

theorem spares_rollback : Spares i file (file.rollback i) := by
  refine ⟨fun j other working held => ?_, fun _ all => all.rollback i, fun _ _ _ all => all.rollback i,
    fun _ _ other holding => holding.rollback other⟩
  unfold WriteLock.rollback at held
  split at held
  · split at held
    · cases held
    · exact held
  · exact held

variable {f : Jobs → Jobs}

theorem spares_write (wrote : file.write i f = some left)
    (leaves : Leaves serial i (file.view i) (f (file.view i))) : Spares i file left := by
  refine ⟨fun j other working held => ?_, fun id all => all.write (leaves.settled id) wrote,
    fun j id other all => all.write (leaves.owned j id other) wrote,
    fun j P other holding => absurd (holding.write other wrote) not_false⟩
  rw [(WriteLock.write_eq wrote).1] at held
  cases held
  exact absurd rfl other

theorem Shared.view_settled (shared : Shared serial file) (settled : Settled id file.committed) :
    Settled id (file.view i) := by
  unfold WriteLock.view
  split
  · next k working held =>
    split
    · exact shared.ahead k working held id settled
    · exact settled
  · exact settled

theorem Shared.write (shared : Shared serial file) (wrote : file.write i f = some left)
    (leaves : Leaves serial i (file.view i) (f (file.view i))) : Shared serial left := by
  refine ⟨shared.sound.write (fun _ => leaves.sound) wrote, fun j working held id settled => ?_⟩
  rw [(WriteLock.write_eq wrote).1] at held settled
  cases held
  exact leaves.settled id (shared.view_settled settled)

theorem Shared.commit (shared : Shared serial file) : Shared serial (file.commit i) := by
  refine ⟨shared.sound.commit i, fun j working held => ?_⟩
  rcases WriteLock.commit_cases file i with ⟨same, _⟩ | ⟨own, mine, same⟩
  · rw [same] at held ⊢
    exact shared.ahead j working held
  · rw [same] at held
    cases held

theorem Shared.rollback (shared : Shared serial file) : Shared serial (file.rollback i) := by
  refine ⟨shared.sound.rollback i, fun j working held => ?_⟩
  unfold WriteLock.rollback at held ⊢
  split at held
  · split at held
    · cases held
    · next k other mine different =>
      simp only [mine, different, if_false] at held ⊢
      exact shared.ahead j working (mine.trans held)
  · next mine => simp [mine] at held

abbrev Keeps (serial : Prop) (i : Nat) (file : File) (left : Task × File) : Prop :=
  Tasks.Keeps (Shared serial) (Relies serial) i file left

theorem keeps_same (shared : Shared serial file) (own : Relies serial i task file) : Keeps serial i file (task, file) :=
  ⟨shared, own, fun _ _ _ relies => relies⟩

theorem keeps_write {next : Task} (shared : Shared serial file) (own : Relies serial i task file)
    (wrote : ∀ left, file.write i f = some left →
      Leaves serial i (file.view i) (f (file.view i)) ∧ Relies serial i next left) :
    Keeps serial i file (writeTurn i f task next file) := by
  unfold writeTurn
  cases write : file.write i f with
  | none => exact keeps_same shared own
  | some left =>
    obtain ⟨leaves, relies⟩ := wrote left write
    exact ⟨shared.write write leaves, relies, fun j other different => Relies.spared (spares_write write leaves) different⟩

end

theorem newestActive_active {rows : List UpdateJob} {job : UpdateJob} (found : newestActive rows = some job) :
    job ∈ rows ∧ job.isActive = true := by
  have inside : job ∈ rows.filter UpdateJob.isActive := by
    unfold newestActive at found
    generalize rows.filter UpdateJob.isActive = active at found ⊢
    induction active with
    | nil => cases found
    | cons first rest ih =>
      rw [foldr_cons] at found
      split at found
      · cases found
        exact mem_cons_self
      · exact mem_cons_of_mem _ (ih found)
  rw [mem_filter] at inside
  exact inside

section
variable {serial : Prop} {i : Nat} {file : File}

theorem settled_of_finalizing {jobs : Jobs} (sound : Sound serial jobs) {job : UpdateJob} (member : job ∈ jobs.rows)
    (finalizing : job.status = .finalizing) : Settled job.id jobs := by
  refine ⟨⟨job, member, rfl⟩, fun other inside same => ?_⟩
  rw [inj_on_of_nodup_map sound.unique inside member same, finalizing]
  simp

theorem Free.view (free : Free i file) : file.view i = file.committed := by
  unfold WriteLock.view
  split
  · next j working held =>
    have other : j ≠ i := by
      rintro rfl
      exact free working held
    rw [if_neg other]
  · rfl

theorem Shared.all_settled (shared : Shared serial file) {job : UpdateJob} (member : job ∈ file.committed.rows)
    (finalizing : job.status = .finalizing) : WriteLock.All (Settled job.id) file := by
  have settled := settled_of_finalizing shared.sound.committed member finalizing
  exact ⟨settled, fun j working held => shared.ahead j working held _ settled⟩

theorem activeJob_relies (shared : Shared serial file) (free : Free i file) (host : Host) (now : Int)
    (job : Option NewJob) : Relies serial i (activeJob host now job (file.view i).rows) file := by
  rw [free.view]
  unfold activeJob
  cases found : newestActive file.committed.rows with
  | none =>
    cases job with
    | none => trivial
    | some new => exact fun working held => absurd held (free working)
  | some active =>
    obtain ⟨member, _⟩ := newestActive_active found
    dsimp only
    split
    · next stale =>
      simp only [isStale, Bool.and_eq_true, decide_eq_true_eq] at stale
      exact ⟨shared.all_settled member stale.1, free⟩
    · cases job with
      | none => trivial
      | some new => trivial

variable {id : Nat}

theorem settled_step (shared : Shared serial file) (own : WriteLock.All (Settled id) file) (fields : Fields)
    (terminal : fields.status = none ∨ fields.status = some .failed ∨ fields.status = some .completed) :
    Leaves serial i (file.view i) ((file.view i).update id fields) :=
  leaves_settled shared.sound.view own.view terminal

theorem owned_step (shared : Shared serial file) (own : WriteLock.All (Owned i id) file) (fields : Fields)
    (terminal : fields.status = none ∨ fields.status = some .finalizing ∨ fields.status = some .failed) :
    Leaves serial i (file.view i) ((file.view i).update id fields) :=
  leaves_owned shared.sound.view own.view terminal

theorem keeps_change (shared : Shared serial file) {fields : Fields} {after : After}
    (changes : Changes i id file fields after) :
    Keeps serial i file (writeTurn i (Jobs.update id fields) (.change id fields after) (.commit after) file) := by
  refine keeps_write shared changes fun left wrote => ?_
  cases changes with
  | step own set =>
    refine ⟨owned_step shared own fields (.inl set), WriteLock.Holding.wrote ⟨?_, own.view.claimed⟩ wrote⟩
    exact own.view.running.update fun _ status running => by simpa [set] using running
  | handoff own set =>
    refine ⟨owned_step shared own fields (.inr (.inl set)), WriteLock.Holding.wrote ⟨?_, ?_⟩ wrote⟩
    · obtain ⟨job, member, named⟩ := own.view.running.known
      exact ⟨_, mem_map_of_mem member, ((update_maps id fields).id job).trans named⟩
    · rintro job member named
      obtain ⟨earlier, inside, same⟩ := mem_map.mp member
      have mine : earlier.id = id := by rw [← named, ← same, (update_maps id fields).id]
      rw [← same, if_pos mine]
      simp [Fields.set, set]
  | fail own set answer => exact ⟨owned_step shared own fields (.inr (.inr set)), trivial⟩
  | report own set =>
    refine ⟨settled_step shared own fields (.inl set), WriteLock.Holding.wrote ?_ wrote⟩
    exact own.view.update fun _ status settled => by simpa [set] using settled
  | close own set answer => exact ⟨settled_step shared own fields (.inr set), trivial⟩

theorem holder_none {f : Jobs → Jobs} {left : File} (free : Free i file) (wrote : file.write i f = some left) :
    file.holder = none := by
  cases held : file.holder with
  | none => rfl
  | some pair =>
    obtain ⟨j, working⟩ := pair
    have own := (WriteLock.write_eq wrote).2 j working held
    subst own
    exact absurd held (free working)

section
variable (shared : Shared serial file)
include shared

theorem keeps_expire {job : Option NewJob}
    (own : WriteLock.All (Settled id) file) (free : Free i file) (host : Host) (now : Int)
    (quiet : serial → file.holder = none → job.isSome = true →
      ∀ job ∈ file.committed.rows, job.isActive = true → job.id = id) :
    Keeps serial i file (writeTurn i (Jobs.update id (expired host now)) (.expire id job)
      (afterExpiry job) file) := by
  refine keeps_write shared ⟨own, free⟩ fun left wrote => ⟨settled_step shared own _ (.inr (.inl rfl)), ?_⟩
  cases job with
  | none => trivial
  | some new =>
    rintro working held given row member
    rw [(WriteLock.write_eq wrote).1, free.view] at held
    cases held
    obtain ⟨earlier, inside, same⟩ := mem_map.mp member
    by_cases stale : earlier.id = id
    · rw [← same, if_pos stale]
      rfl
    · rw [← same, if_neg stale]
      cases active : earlier.isActive with
      | false => rfl
      | true => exact absurd (quiet given (holder_none free wrote) rfl earlier inside active) stale

theorem keeps_insert (job : NewJob) (now : Int) (answer : Answer) (own : Relies serial i (.insert job) file)
    (quiet : serial → file.holder = none → ∀ job ∈ file.committed.rows, job.isActive = false) :
    Keeps serial i file (writeTurn i (Jobs.insert job now) (.insert job) (.commit (.done answer)) file) := by
  refine keeps_write shared own fun left wrote => ⟨leaves_insert shared.sound.view job now fun given => ?_, trivial⟩
  cases held : file.holder with
  | none =>
    simp only [WriteLock.view, held]
    exact quiet given held
  | some pair =>
    obtain ⟨j, working⟩ := pair
    have mine := (WriteLock.write_eq wrote).2 j working held
    subst mine
    simp only [WriteLock.view, held, if_true]
    exact own working held given

theorem keeps_claim (id : Nat) (kind : Kind) :
    Keeps serial i file (writeTurn i (Jobs.claim i id kind) (.claim id kind)
      (.commit (if (file.view i).rows.any (UpdateJob.claimable id kind) then .working id else .done .notClaimed)) file) := by
  refine keeps_write shared trivial fun left wrote => ⟨leaves_claim shared.sound.view kind, ?_⟩
  split
  · next won =>
    obtain ⟨running, claimed⟩ := claim_won i shared.sound.view won
    exact WriteLock.Holding.wrote ⟨running, claimed⟩ wrote
  · trivial

theorem keeps_commit {after : After} (written : after.Written i file) :
    Keeps serial i file (after.task, file.commit i) := by
  refine ⟨shared.commit, ?_, fun j other different => Relies.spared spares_commit different⟩
  have all {P : Jobs → Prop} (holding : WriteLock.Holding i P file) : WriteLock.All P (file.commit i) := by
    obtain ⟨working, held, holds⟩ := holding
    simp only [WriteLock.commit, held, if_true]
    exact ⟨holds, by simp⟩
  cases after with
  | done answer => trivial
  | working id => exact all written
  | handed id => exact all written

end

theorem workTurn_relies (own : WriteLock.All (Owned i id) file) (moment : Moment) (rows : List UpdateJob) :
    Relies serial i (workTurn moment id rows) file := by
  unfold workTurn
  split
  · exact .step own rfl
  · exact .fail own rfl _
  · exact .handoff own rfl
  · exact own

theorem finalizeTurn_relies (own : WriteLock.All (Settled id) file) (moment : Moment) (rows : List UpdateJob) :
    Relies serial i (finalizeTurn moment id rows) file := by
  unfold finalizeTurn
  split
  · exact .report own rfl
  · exact .close own (.inl rfl) _
  · exact .close own (.inr rfl) _
  · exact own

end

theorem advance_keeps {serial : Prop} (host : Host) (server : Server) (who : Nat × Moment)
    (quiet : serial → NoneActive server who) (holds : Tasks.Holds (Shared serial) (Relies serial) server) :
    Keeps serial who.1 server.store (advance host who.1 who.2 (server.task who.1) server.store) := by
  obtain ⟨i, moment⟩ := who
  have shared := holds.shared
  have own := holds.relied i
  unfold advance
  unfold NoneActive at quiet
  cases aborted : moment.aborted with
  | true => exact ⟨shared.rollback, trivial, fun j other different => Relies.spared spares_rollback different⟩
  | false =>
    cases task : server.task i with
    | start checked =>
      rw [task] at own
      cases checked with
      | error message => exact keeps_same shared trivial
      | ok job => exact keeps_same shared (activeJob_relies shared own host moment.now (some job))
    | look =>
      rw [task] at own
      exact keeps_same shared (activeJob_relies shared own host moment.now none)
    | expire id job =>
      rw [task] at own
      simp only [task] at quiet
      refine keeps_expire shared own.1 own.2 host moment.now fun given unlocked queues => ?_
      cases job with
      | none => cases queues
      | some new => exact quiet given unlocked
    | insert job =>
      rw [task] at own
      simp only [task] at quiet
      exact keeps_insert shared job moment.now _ own quiet
    | claim id kind => exact keeps_claim shared id kind
    | working id =>
      rw [task] at own
      exact keeps_same shared (workTurn_relies own moment _)
    | handed id =>
      rw [task] at own
      exact keeps_same shared (finalizeTurn_relies own moment _)
    | change id fields after =>
      rw [task] at own
      exact keeps_change shared own
    | commit after =>
      rw [task] at own
      exact keeps_commit shared own
    | ended answer => exact keeps_same shared trivial

theorem Fresh.holds {serial : Prop} {server : Server} (fresh : Fresh server) :
    Tasks.Holds (Shared serial) (Relies serial) server := by
  have free (i : Nat) : Free i server.store := fun working held => by
    rw [fresh.unlocked] at held
    cases held
  have sound : Sound serial server.store.committed := by
    refine ⟨fun _ => fresh.one, fresh.unique, ?_, ?_⟩
    · rw [fresh.claims]
      exact nodup_nil
    · rw [fresh.claims]
      rintro worker id ⟨⟩
  refine ⟨⟨⟨sound, fun i working held => absurd held (free i working)⟩,
    fun i working held => absurd held (free i working)⟩, fun i => ?_⟩
  have unbegun := fresh.tasks i
  cases task : server.task i with
  | start checked => exact free i
  | look => exact free i
  | claim id kind => trivial
  | handed id =>
    rw [task] at unbegun
    exact ⟨⟨unbegun.1, unbegun.2⟩, fun j working held => absurd held (free j working)⟩
  | _ =>
    rw [task] at unbegun
    exact absurd unbegun not_false

/-- Two workers never both claim a job, in whatever order the statements come. While start
requests find no active job when they take the lock, no committed state has two active jobs. -/
theorem one_active_job (host : Host) {start : Server} (fresh : Fresh start) :
    (∀ server, Tasks.Reaches (advance host) (fun _ _ => True) start server →
      (server.store.committed.claims.map Prod.snd).Nodup ∧
      ∀ i j id, server.task i = .working id → server.task j = .working id → i = j) ∧
    ∀ server, Tasks.Reaches (advance host) NoneActive start server → AtMostOne server.store.committed := by
  refine ⟨fun server reached => ?_, fun server reached => ?_⟩
  · have holds : Tasks.Holds (Shared False) (Relies False) server :=
      reached.holds fresh.holds fun server who _ => advance_keeps host server who False.elim
    have sound := holds.shared.sound.committed
    refine ⟨sound.once, fun i j id first second => ?_⟩
    have claimed (k : Nat) (working : server.task k = .working id) : (k, id) ∈ server.store.committed.claims := by
      have own := holds.relied k
      rw [working] at own
      exact WriteLock.All.committed own |>.claimed
    have pairs : (i, id) = (j, id) := List.inj_on_of_nodup_map sound.once (claimed i first) (claimed j second) rfl
    exact congrArg Prod.fst pairs
  · have holds : Tasks.Holds (Shared True) (Relies True) server :=
      reached.holds fresh.holds fun server who quiet => advance_keeps host server who fun _ => quiet
    exact holds.shared.sound.committed.one trivial

def plainHost : Host where
  fromisoformat _ := none
  isoformat now := toString now
  updateLiveDir := "/opt/boron"

def plainMoment : Moment := { now := 0, plan := .complete, aborted := false }

def upgrade (kind : Kind) : NewJob :=
  { kind, fromVersion := "0.1.0", toVersion := "0.2.0", initiatedBy := "admin", oldDir := none }

/-- The table is empty and two administrators press the button. -/
def pressed : Server where
  store := { committed := { rows := [], claims := [] }, holder := none }
  task i := if i = 0 then .start (.ok (upgrade .update)) else if i = 1 then .start (.ok (upgrade .rollback)) else .look

theorem pressed_fresh : Fresh pressed := by
  refine ⟨rfl, rfl, nodup_nil, Nat.zero_le 1, fun i => ?_⟩
  by_cases first : i = 0
  · simp [pressed, first, Task.Unbegun]
  · by_cases second : i = 1 <;> simp [pressed, first, second, Task.Unbegun]

def pressedTurns (order : List Nat) : Server :=
  pressed.after (advance plainHost) (order.map fun who => (who, plainMoment))

theorem one_active_job_pressed : AtMostOne (pressedTurns [0, 0, 0, 1]).store.committed ∧
    (pressedTurns [0, 0, 0, 1]).store.committed.rows.map UpdateJob.status = [.pending] := by
  refine ⟨(one_active_job plainHost pressed_fresh).2 _ ?_, rfl⟩
  refine .next (1, plainMoment) (.next (0, plainMoment) (.next (0, plainMoment) (.next (0, plainMoment) .start ?_) ?_) ?_) ?_
  · exact fun _ => trivial
  · rintro _ job ⟨⟩
  · rintro ⟨⟩
  · exact fun _ => trivial

/-- Both requests look before either queues its job. -/
theorem two_active_jobs : ¬ ∀ (host : Host) (start server : Server), Fresh start →
      Tasks.Reaches (advance host) (fun _ _ => True) start server → AtMostOne server.store.committed := by
  intro claimed
  have one := claimed plainHost pressed _ pressed_fresh
    (Tasks.Reaches.after .start ([0, 1, 0, 0, 1, 1].map fun who => (who, plainMoment)))
  have two : ((pressedTurns [0, 1, 0, 0, 1, 1]).store.committed.rows.filter UpdateJob.isActive).length = 2 := by
    rfl
  have : ((pressedTurns [0, 1, 0, 0, 1, 1]).store.committed.rows.filter UpdateJob.isActive).length ≤ 1 := one
  omega

end Boron.Updates
