import Boron.Isolation.SelfTest

namespace Boron.Isolation

variable {scene : Scene} {worker : Worker}

theorem combine_eq_true_iff {values : List (Option Bool)} :
    combineObservedChecks values = some true ↔ ∀ value ∈ values, value = some true := by
  unfold combineObservedChecks
  by_cases exposed : some false ∈ values
  · rw [if_pos exposed]
    constructor
    · intro same
      cases same
    · intro all
      cases all _ exposed
  · rw [if_neg exposed]
    by_cases all : ∀ value ∈ values, value = some true
    · rw [if_pos all]
      exact ⟨fun _ => all, fun _ => rfl⟩
    · rw [if_neg all]
      exact ⟨nofun, fun every => absurd every all⟩

theorem combine_eq_false_iff {values : List (Option Bool)} :
    combineObservedChecks values = some false ↔ some false ∈ values := by
  unfold combineObservedChecks
  by_cases exposed : some false ∈ values
  · rw [if_pos exposed]
    exact ⟨fun _ => exposed, fun _ => rfl⟩
  · rw [if_neg exposed]
    constructor
    · intro same
      split at same <;> cases same
    · intro member
      exact absurd member exposed

variable {α : Type}

@[simp] theorem look_works_some (value : α) : Attempt.works.look (some value) = .value value := rfl

@[simp] theorem look_works_none : Attempt.works.look (none : Option α) = .notFound := rfl

@[simp] theorem look_gone (truth : Option α) : Attempt.gone.look truth = .notFound := rfl

@[simp] theorem look_denied (truth : Option α) : Attempt.denied.look truth = .denied := rfl

theorem look_value_iff {attempt : Attempt} {truth : Option α} {value : α} :
    attempt.look truth = .value value ↔ attempt = .works ∧ truth = some value := by
  cases attempt <;> cases truth <;> simp

theorem look_notFound_iff {attempt : Attempt} {truth : Option α} :
    attempt.look truth = .notFound ↔ attempt = .gone ∨ attempt = .works ∧ truth = none := by
  cases attempt <;> cases truth <;> simp

def MountsRead (worker : Worker) : Prop :=
  worker.hostMountStat = .works ∧ worker.mountStat = .works ∧ worker.mountinfoRead = .works

/-- The worker's `/tmp` was compared with the host's and is another directory. -/
def TmpCompared (scene : Scene) (worker : Worker) : Prop :=
  worker.hostTmpStat = .works ∧ worker.tmpStat = .works ∧ worker.tmp ≠ scene.hostTmp

theorem privateTmpObserved_iff {hostTmp : Option Inode} : privateTmpObserved worker hostTmp = true ↔
    listsTmp worker.mountinfo = true ∨ ∃ host, hostTmp = some host ∧ worker.tmpStat = .works ∧ worker.tmp ≠ host := by
  unfold privateTmpObserved
  by_cases listed : listsTmp worker.mountinfo = true
  · rw [if_pos listed]
    exact ⟨fun _ => .inl listed, fun _ => rfl⟩
  · cases hostTmp with
    | none => simp [listed]
    | some host =>
      cases look : worker.tmpStat.look (some worker.tmp) with
      | value tmp =>
        obtain ⟨works, same⟩ := look_value_iff.mp look
        cases same
        simp [listed, works]
      | notFound =>
        have other : worker.tmpStat ≠ .works := by
          rintro works
          rw [works] at look
          cases look
        simp [listed, other]
      | denied =>
        have other : worker.tmpStat ≠ .works := by
          rintro works
          rw [works] at look
          cases look
        simp [listed, other]

theorem inspectMounts_unread (unread : ¬MountsRead worker) : inspectMounts scene worker = (none, none) := by
  unfold inspectMounts
  split
  · next host own read =>
    obtain ⟨first, _⟩ := look_value_iff.mp host
    obtain ⟨second, _⟩ := look_value_iff.mp own
    obtain ⟨third, _⟩ := look_value_iff.mp read
    exact absurd ⟨first, second, third⟩ unread
  · rfl

theorem inspectMounts_read (read : MountsRead worker) :
    ((inspectMounts scene worker).1 = some true ↔ worker.mountNamespace ≠ scene.hostMountNamespace) ∧
    ((inspectMounts scene worker).2 = some true ↔ listsTmp worker.mountinfo = true ∨ TmpCompared scene worker) ∧
    (inspectMounts scene worker).1 ≠ none ∧ (inspectMounts scene worker).2 ≠ none := by
  obtain ⟨host, own, table⟩ := read
  unfold inspectMounts
  rw [host, own, table]
  simp only [look_works_some]
  refine ⟨by simp, ?_, by simp, by simp⟩
  rw [Option.some.injEq, privateTmpObserved_iff]
  refine or_congr_right ?_
  unfold TmpCompared
  cases attempt : worker.hostTmpStat <;> simp

/-- What the final condition asks of a worker. -/
structure Approved (scene : Scene) (worker : Worker) : Prop where
  root : worker.rootStat = .works
  home : worker.homeStat = .works ∧ ∃ home, worker.home = some home ∧ home.readable scene.uid = true
  peerHome : worker.peerHomeLstat = .gone ∨ worker.peerHomeLstat = .works ∧ worker.peerHome = none
  pid : worker.pidStat = .works ∧ worker.pidNamespace ≠ scene.hostPidNamespace
  mounts : MountsRead worker → worker.mountNamespace ≠ scene.hostMountNamespace ∧
    (listsTmp worker.mountinfo = true ∨ TmpCompared scene worker)

/-- What the final condition asks of the whole test. -/
structure Green (scene : Scene) : Prop where
  enabled : scene.enabled = true
  inspected : scene.workers ≠ []
  peer : scene.other ≠ none
  hostPid : scene.hostPidStat = .works
  workers : ∀ worker ∈ scene.workers, Approved scene worker
  cgroup : scene.cgroup ≠ some false
  fileManager : scene.fileManagerStatus ≠ "failed"

/-- What a green result leaves open. -/
structure Seen (scene : Scene) : Prop where
  workers : ∀ worker ∈ scene.workers, MountsRead worker ∧ worker.peerHome = none ∧
    ¬(listsTmp worker.mountinfo = true ∧ worker.tmp = scene.hostTmp)
  cgroup : scene.cgroup = some true

structure Evidence (scene : Scene) : Prop where
  enabled : scene.enabled = true
  checks : ∀ check ∈ (selfTest scene).checks, check.name ≠ "File Manager path" → check.status = .passed
  inspected : scene.workers ≠ []
  workers : ∀ worker ∈ scene.workers, worker.pidNamespace ≠ scene.hostPidNamespace ∧
    worker.mountNamespace ≠ scene.hostMountNamespace ∧ worker.tmp ≠ scene.hostTmp ∧
    (∃ home, worker.home = some home ∧ home.readable scene.uid = true) ∧ worker.peerHome = none

theorem homeChecks_own_iff {uid : Nat} {other : Option String} :
    (filesystemHomeChecks uid other worker).1 = some true ↔ worker.rootStat = .works ∧
      worker.homeStat = .works ∧ ∃ home, worker.home = some home ∧ home.readable uid = true := by
  unfold filesystemHomeChecks
  cases worker.rootStat with
  | gone => simp
  | denied => simp
  | works =>
    cases look : worker.homeStat.look worker.home with
    | value home =>
      obtain ⟨works, same⟩ := look_value_iff.mp look
      simp [works, same]
    | notFound =>
      obtain gone | ⟨_, absent⟩ := look_notFound_iff.mp look
      · simp [gone]
      · simp [absent]
    | denied =>
      have other : worker.homeStat ≠ .works := by
        intro works
        rw [works] at look
        cases home : worker.home <;> rw [home] at look <;> cases look
      simp [other]

theorem homeChecks_peer_iff {uid : Nat} {name : String} :
    (filesystemHomeChecks uid (some name) worker).2 = some true ↔ worker.rootStat = .works ∧
      (worker.peerHomeLstat = .gone ∨ worker.peerHomeLstat = .works ∧ worker.peerHome = none) := by
  rw [← look_notFound_iff]
  unfold filesystemHomeChecks
  cases worker.rootStat with
  | gone => simp
  | denied => simp
  | works => cases look : worker.peerHomeLstat.look worker.peerHome <;> simp

theorem workerStatus_verified_iff {host : Nat} :
    workerStatus host worker = .verified ↔ worker.pidStat = .works ∧ worker.pidNamespace ≠ host := by
  unfold workerStatus
  cases worker.pidStat with
  | gone => simp
  | denied => simp
  | works =>
    by_cases private_ : worker.pidNamespace ≠ host
    · simp [private_]
    · simp [private_]

theorem processIsolation_verified_iff : processIsolation scene = .verified ↔ scene.workers ≠ [] ∧
    scene.hostPidStat = .works ∧
    ∀ worker ∈ scene.workers, worker.pidStat = .works ∧ worker.pidNamespace ≠ scene.hostPidNamespace := by
  unfold processIsolation
  by_cases idle : scene.workers = []
  · rw [if_pos idle]
    constructor
    · intro same
      split at same <;> cases same
    · rintro ⟨busy, _⟩
      exact absurd idle busy
  · rw [if_neg idle]
    cases host : scene.hostPidStat with
    | gone => simp
    | denied => simp
    | works =>
      have statuses : workerStatuses scene = scene.workers.map (workerStatus scene.hostPidNamespace) := by
        unfold workerStatuses comparedWorkers
        rw [host]
        rfl
      have each : (∀ status ∈ workerStatuses scene, status = .verified) ↔
          ∀ worker ∈ scene.workers, worker.pidStat = .works ∧ worker.pidNamespace ≠ scene.hostPidNamespace := by
        rw [statuses, List.forall_mem_map]
        simp only [workerStatus_verified_iff]
      rw [← each]
      simp only [look_works_some, ne_eq, idle, not_false_eq_true, true_and]
      constructor
      · intro same
        split at same
        · cases same
        · split at same
          · cases same
          · split at same
            · next all => exact all
            · cases same
      · intro all
        have noFailed : WorkerStatus.failed ∉ workerStatuses scene := fun member => by cases all _ member
        have noInspection : WorkerStatus.inspectionFailed ∉ workerStatuses scene := fun member => by cases all _ member
        rw [if_neg noFailed, if_neg noInspection, if_pos all]

theorem ownReadable_iff (busy : scene.workers ≠ []) : ownReadable scene = some true ↔ ∀ worker ∈ scene.workers,
    worker.rootStat = .works ∧ worker.homeStat = .works ∧
      ∃ home, worker.home = some home ∧ home.readable scene.uid = true := by
  unfold ownReadable
  rw [if_pos busy, combine_eq_true_iff, List.forall_mem_map]
  simp only [homeChecks_own_iff]

theorem otherHidden_iff (busy : scene.workers ≠ []) : otherHidden scene = some true ↔ scene.other ≠ none ∧
    ∀ worker ∈ scene.workers, worker.rootStat = .works ∧
      (worker.peerHomeLstat = .gone ∨ worker.peerHomeLstat = .works ∧ worker.peerHome = none) := by
  unfold otherHidden
  rw [if_pos busy]
  cases named : scene.other with
  | none => simp
  | some name =>
    rw [Option.isSome_some, if_pos rfl, combine_eq_true_iff, List.forall_mem_map]
    simp only [homeChecks_peer_iff, ne_eq, reduceCtorEq, not_false_eq_true, true_and]

theorem comparedWorkers_works (works : scene.hostPidStat = .works) : comparedWorkers scene = scene.workers := by
  unfold comparedWorkers
  rw [works]
  rfl

theorem mounts_unexposed_iff (busy : scene.workers ≠ []) (works : scene.hostPidStat = .works) :
    mountPrivate scene ≠ some false ∧ tmpPrivate scene ≠ some false ↔ ∀ worker ∈ scene.workers, MountsRead worker →
      worker.mountNamespace ≠ scene.hostMountNamespace ∧
        (listsTmp worker.mountinfo = true ∨ TmpCompared scene worker) := by
  unfold mountPrivate tmpPrivate
  rw [comparedWorkers_works works, if_neg busy, if_neg busy, ne_eq, combine_eq_false_iff, ne_eq, combine_eq_false_iff]
  simp only [List.mem_map, not_exists, not_and]
  have each (worker : Worker) : (inspectMounts scene worker).1 ≠ some false ∧ (inspectMounts scene worker).2 ≠ some false ↔
      (MountsRead worker → worker.mountNamespace ≠ scene.hostMountNamespace ∧
        (listsTmp worker.mountinfo = true ∨ TmpCompared scene worker)) := by
    by_cases read : MountsRead worker
    · obtain ⟨mount, tmp, someMount, someTmp⟩ := @inspectMounts_read scene worker read
      rw [← mount, ← tmp]
      cases first : (inspectMounts scene worker).1 with
      | none => exact absurd first someMount
      | some own =>
        cases second : (inspectMounts scene worker).2 with
        | none => exact absurd second someTmp
        | some private_ => cases own <;> cases private_ <;> simp [read]
    · simp [inspectMounts_unread read, read]
  constructor
  · rintro ⟨mounts, tmps⟩ worker member
    exact (each worker).mp ⟨mounts worker member, tmps worker member⟩
  · intro all
    exact ⟨fun worker member => ((each worker).mpr (all worker member)).1,
      fun worker member => ((each worker).mpr (all worker member)).2⟩

/-- What was seen of every worker is seen of the whole. -/
theorem seen_iff {part : Option Bool × Option Bool → Option Bool} {Own : Worker → Prop} (busy : scene.workers ≠ [])
    (works : scene.hostPidStat = .works) (unread : part (none, none) = none)
    (own : ∀ worker, MountsRead worker → (part (inspectMounts scene worker) = some true ↔ Own worker)) :
    (if comparedWorkers scene = [] then none
      else combineObservedChecks ((comparedWorkers scene).map fun worker => part (inspectMounts scene worker))) = some true ↔
    ∀ worker ∈ scene.workers, MountsRead worker ∧ Own worker := by
  rw [comparedWorkers_works works, if_neg busy, combine_eq_true_iff, List.forall_mem_map]
  refine forall₂_congr fun worker _ => ?_
  by_cases read : MountsRead worker
  · rw [own worker read]
    exact ⟨fun holds => ⟨read, holds⟩, fun both => both.2⟩
  · rw [inspectMounts_unread read, unread]
    exact ⟨nofun, fun both => absurd both.1 read⟩

theorem mounts_seen_iff (busy : scene.workers ≠ []) (works : scene.hostPidStat = .works) :
    mountPrivate scene = some true ↔ ∀ worker ∈ scene.workers, MountsRead worker ∧
      worker.mountNamespace ≠ scene.hostMountNamespace :=
  @seen_iff scene Prod.fst _ busy works rfl fun _ read => (inspectMounts_read read).1

theorem tmp_seen_iff (busy : scene.workers ≠ []) (works : scene.hostPidStat = .works) :
    tmpPrivate scene = some true ↔ ∀ worker ∈ scene.workers, MountsRead worker ∧
      (listsTmp worker.mountinfo = true ∨ TmpCompared scene worker) :=
  @seen_iff scene Prod.snd _ busy works rfl fun _ read => (inspectMounts_read read).2.1

theorem mem_checks {check : Check} : check ∈ checks scene ↔ check = filesystemCheck scene ∨ check = tmpCheck scene ∨
    check = processCheck scene ∨ check = environmentCheck scene ∨ check = resourceCheck scene ∨
    check = fileManagerCheck scene := by
  simp [checks]

theorem resourceStatus_passed_iff : resourceStatus scene = .passed ↔ scene.cgroup = some true := by
  unfold resourceStatus
  split <;> simp [*]

theorem resourceStatus_failed_iff : resourceStatus scene = .failed ↔ scene.cgroup = some false := by
  unfold resourceStatus
  split <;> simp [*]

theorem fileManagerStatus_failed_iff : fileManagerStatus scene = .failed ↔ scene.fileManagerStatus = "failed" := by
  unfold fileManagerStatus
  split
  · next passes =>
    rw [passes]
    exact ⟨nofun, fun same => absurd same (by decide)⟩
  · split <;> simp [*]

theorem Green.own (green : Green scene) : ownReadable scene = some true :=
  (ownReadable_iff green.inspected).mpr fun worker member =>
    ⟨(green.workers worker member).root, (green.workers worker member).home⟩

theorem Green.hidden (green : Green scene) : otherHidden scene = some true :=
  (otherHidden_iff green.inspected).mpr ⟨green.peer, fun worker member =>
    ⟨(green.workers worker member).root, (green.workers worker member).peerHome⟩⟩

theorem Green.verified (green : Green scene) : processIsolation scene = .verified :=
  processIsolation_verified_iff.mpr ⟨green.inspected, green.hostPid, fun worker member =>
    (green.workers worker member).pid⟩

/-- The test reports a pass exactly when all that its final condition asks for holds. -/
theorem passed_iff : (selfTest scene).status = .passed ↔ Green scene := by
  have asked : (selfTest scene).status = .passed ↔ passed scene = true := by
    unfold selfTest
    constructor
    · intro same
      split at same
      · cases same
      · split at same
        · next holds => exact holds
        · cases same
    · intro holds
      have clean : failed scene = false := by
        unfold passed at holds
        simp only [Bool.decide_and, Bool.and_eq_true, decide_eq_true_eq] at holds
        exact Bool.eq_false_iff.mpr holds.1
      rw [clean, holds]
      rfl
  rw [asked]
  unfold passed failed
  simp only [decide_eq_true_eq, not_or, not_not, List.mem_cons, List.not_mem_nil, or_false]
  constructor
  · rintro ⟨⟨_, _, _, _, mount, tmp, resource, manager⟩, enabled, own, peer, process⟩
    obtain ⟨busy, works, pids⟩ := processIsolation_verified_iff.mp process
    have owns := (ownReadable_iff busy).mp own
    obtain ⟨named, peers⟩ := (otherHidden_iff busy).mp peer
    have mounts := (mounts_unexposed_iff busy works).mp ⟨mount, tmp⟩
    refine ⟨enabled, busy, named, works, fun worker member => ?_, ?_, ?_⟩
    · exact ⟨(owns worker member).1, (owns worker member).2, (peers worker member).2, pids worker member,
        mounts worker member⟩
    · exact fun missing => resource (resourceStatus_failed_iff.mpr missing)
    · exact fun fails => manager (fileManagerStatus_failed_iff.mpr fails)
  · intro green
    obtain ⟨mount, tmp⟩ := (mounts_unexposed_iff green.inspected green.hostPid).mpr fun worker member =>
      (green.workers worker member).mounts
    rw [green.own, green.hidden, green.verified]
    refine ⟨⟨green.enabled, nofun, nofun, ?_, mount, tmp, ?_, ?_⟩, green.enabled, rfl, rfl, rfl⟩
    · exact ⟨nofun, nofun, nofun⟩
    · exact fun fails => green.cgroup (resourceStatus_failed_iff.mp fails)
    · exact fun fails => green.fileManager (fileManagerStatus_failed_iff.mp fails)

theorem filesystemCheck_passed_iff (green : Green scene) :
    (filesystemCheck scene).status = .passed ↔ mountPrivate scene = some true := by
  have hidden : filesystemExposed scene = false := by
    unfold filesystemExposed
    simp [green.enabled, green.own, green.hidden]
  unfold filesystemCheck filesystemSeen
  rw [hidden, green.own, green.hidden]
  by_cases seen : mountPrivate scene = some true
  · simp [seen]
  · simp [seen]

/-- After a green result isolation was observed exactly when the mounts of every
worker were read, none of them lists the host's own `/tmp`, the other home is
really absent, and the cgroup was looked at. -/
theorem evidence_iff (green : Green scene) : Evidence scene ↔ Seen scene := by
  constructor
  · intro evidence
    have checked (check : Check) (listed : check ∈ checks scene) (other : check.name ≠ "File Manager path") :
        check.status = .passed := evidence.checks check listed other
    have filesystem := checked (filesystemCheck scene) (mem_checks.mpr (.inl rfl)) (by simp [filesystemCheck])
    have resource := checked (resourceCheck scene) (by simp [checks]) (by simp [resourceCheck])
    have mounts := (mounts_seen_iff green.inspected green.hostPid).mp ((filesystemCheck_passed_iff green).mp filesystem)
    refine ⟨fun worker member => ?_, resourceStatus_passed_iff.mp resource⟩
    obtain ⟨_, _, tmp, _, absent⟩ := evidence.workers worker member
    exact ⟨(mounts worker member).1, absent, fun both => tmp both.2⟩
  · intro seen
    have mounts (worker : Worker) (member : worker ∈ scene.workers) :=
      (green.workers worker member).mounts (seen.workers worker member).1
    refine ⟨green.enabled, ?_, green.inspected, fun worker member => ?_⟩
    · have filesystem := (filesystemCheck_passed_iff green).mpr ((mounts_seen_iff green.inspected green.hostPid).mpr
        fun worker member => ⟨(seen.workers worker member).1, (mounts worker member).1⟩)
      have tmp := (tmp_seen_iff green.inspected green.hostPid).mpr
        fun worker member => ⟨(seen.workers worker member).1, (mounts worker member).2⟩
      intro check listed other
      rcases mem_checks.mp listed with rfl | rfl | rfl | rfl | rfl | rfl
      · exact filesystem
      · unfold tmpCheck
        rw [tmp]
      · unfold processCheck
        rw [green.verified]
      · unfold environmentCheck
        simp [green.enabled, green.own]
      · exact resourceStatus_passed_iff.mpr seen.cgroup
      · exact absurd rfl other
    · obtain ⟨own, tmp⟩ := mounts worker member
      obtain ⟨_, absent, notHost⟩ := seen.workers worker member
      refine ⟨(green.workers worker member).pid.2, own, ?_, (green.workers worker member).home.2, absent⟩
      obtain listed | compared := tmp
      · exact fun same => notHost ⟨listed, same⟩
      · exact compared.2.2

/-- Every check that failed makes the whole test fail. -/
theorem failed_of_check {check : Check} (listed : check ∈ (selfTest scene).checks) (fails : check.status = .failed) :
    (selfTest scene).status = .failed := by
  have whole (reason : failed scene = true) : (selfTest scene).status = .failed := by
    unfold selfTest
    rw [reason]
    rfl
  refine whole ?_
  unfold failed
  rw [decide_eq_true_eq]
  rcases mem_checks.mp listed with rfl | rfl | rfl | rfl | rfl | rfl
  · have exposed : filesystemExposed scene = true := by
      by_contra hidden
      unfold filesystemCheck at fails
      rw [if_neg hidden] at fails
      split at fails <;> cases fails
    unfold filesystemExposed at exposed
    rw [decide_eq_true_eq] at exposed
    rcases exposed with disabled | own | peer
    · exact .inl disabled
    · exact .inr (.inl own)
    · exact .inr (.inr (.inl peer))
  · have shared : tmpPrivate scene = some false := by
      unfold tmpCheck at fails
      split at fails
      · assumption
      · cases fails
      · cases fails
    exact .inr (.inr (.inr (.inr (.inr (.inl shared)))))
  · have process : processIsolation scene ∈ [ProcessIsolation.failed, .inspectionFailed, .notConfigured] := by
      unfold processCheck at fails
      cases isolation : processIsolation scene with
      | failed => simp
      | inspectionFailed => simp
      | notConfigured => simp
      | verified =>
        rw [isolation] at fails
        cases fails
      | configuredNoLiveWorker =>
        rw [isolation] at fails
        cases fails
    exact .inr (.inr (.inr (.inl process)))
  · by_cases own : ownReadable scene = some false
    · exact .inr (.inl own)
    · refine .inl fun enabled => ?_
      unfold environmentCheck at fails
      rw [if_pos ⟨enabled, own⟩] at fails
      cases fails
  · exact .inr (.inr (.inr (.inr (.inr (.inr (.inl fails))))))
  · exact .inr (.inr (.inr (.inr (.inr (.inr (.inr fails))))))

/-- A worker of namespaces of its own that still has the `/tmp` of a host where
`/tmp` is a separate mount. -/
def inheritedTmp : Worker where
  pid := 4120
  pidNamespace := 7
  mountNamespace := 8
  mountinfo := [["31", "24", "0:28", "/", "/tmp", "rw", "-", "tmpfs", "tmpfs", "rw"]]
  tmp := (28, 1)
  home := some { directory := true, uid := 1004, mode := 0o711 }
  peerHome := none
  homeStat := .works
  peerHomeLstat := .works
  rootStat := .works
  pidStat := .works
  hostMountStat := .works
  mountStat := .works
  mountinfoRead := .works
  hostTmpStat := .works
  tmpStat := .works

def sharedTmp : Scene where
  uid := 1004
  enabled := true
  bubblewrapConfigured := true
  other := some "bob"
  workers := [inheritedTmp]
  ownRun := true
  peerRun := true
  hostPidStat := .works
  hostPidNamespace := 1
  hostMountNamespace := 2
  hostTmp := (28, 1)
  cgroup := some true
  fileManagerStatus := "passed"
  fileManagerExplanation := ""

/-- A passed test with a worker that shares the host's `/tmp`. -/
theorem passed_sharing_tmp : ¬∀ scene : Scene, (selfTest scene).status = .passed → Evidence scene := by
  intro promise
  have green : Green sharedTmp := by
    refine ⟨rfl, by simp [sharedTmp], by simp [sharedTmp], rfl, fun worker member => ?_, by simp [sharedTmp], ?_⟩
    · have same : worker = inheritedTmp := by simpa [sharedTmp] using member
      rw [same]
      exact ⟨rfl, ⟨rfl, _, rfl, rfl⟩, .inr ⟨rfl, rfl⟩, ⟨rfl, by simp [inheritedTmp, sharedTmp]⟩,
        fun _ => ⟨by simp [inheritedTmp, sharedTmp], .inl rfl⟩⟩
    · simp [sharedTmp]
  have evidence := promise sharedTmp (passed_iff.mpr green)
  obtain ⟨_, _, tmp, _⟩ := evidence.workers inheritedTmp (List.mem_singleton.mpr rfl)
  exact tmp rfl

/-- The promise of a passed test holds exactly unless a green result left
something unseen; a failed check always fails the test; and the observation of
`/tmp` is right exactly unless the mount table names the host's own. -/
theorem selfTest_sound_iff (scene : Scene) :
    (((selfTest scene).status = .passed → Evidence scene) ↔ (Green scene → Seen scene)) ∧
    (∀ check ∈ (selfTest scene).checks, check.status = .failed → (selfTest scene).status = .failed) ∧
    ∀ worker : Worker, ((privateTmpObserved worker none = true ∨ privateTmpObserved worker (some scene.hostTmp) = true) →
      worker.tmp ≠ scene.hostTmp) ↔ ¬(listsTmp worker.mountinfo = true ∧ worker.tmp = scene.hostTmp) := by
  refine ⟨?_, fun check listed fails => failed_of_check listed fails, fun worker => ?_⟩
  · rw [passed_iff]
    exact ⟨fun promise green => (evidence_iff green).mp (promise green),
      fun seen green => (evidence_iff green).mpr (seen green)⟩
  · rw [privateTmpObserved_iff, privateTmpObserved_iff]
    constructor
    · rintro right ⟨listed, same⟩
      exact right (.inl (.inl listed)) same
    · rintro apart ((listed | ⟨host, none, _⟩) | (listed | ⟨host, same, _, other⟩))
      · exact fun same => apart ⟨listed, same⟩
      · cases none
      · exact fun same => apart ⟨listed, same⟩
      · cases same
        exact other

end Boron.Isolation
