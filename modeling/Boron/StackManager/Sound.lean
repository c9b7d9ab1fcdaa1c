import Boron.StackManager.Places

namespace Boron.StackManager
open List

/-- The stages before the package manager has been run. -/
def Stage.willRun : Stage → Bool
  | .preflight | .index | .refreshing | .simulation | .examine | .backup | .preparing | .decide | .installing | .install => true
  | _ => false

def Start.asks : Start → Option Request
  | .admitting request | .inserting request => some request
  | _ => none

/-- The removal of a version has been checked for, and not been carried out. -/
inductive Removing (daemon : Daemon) (version : String) : Prop
  | asked (i : Nat) (request : Request) (asks : (daemon.starts i).asks = some request) (removes : request.removes version)
  | queued (job : StackJob) (member : job ∈ daemon.rows) (waits : job.status = .queued) (removes : job.removes version)
  | running (job : StackJob) (stage : Stage) (works : daemon.worker = some (.job job stage)) (will : stage.willRun = true)
    (removes : job.removes version)

def Check.inside : Check → Bool
  | .waiting => false
  | _ => true

def Work.current : Work → Option Check
  | .check made | .job _ (.checking made) => some made
  | _ => none

/-- The checks in progress: those of the calls, and that of the thread. -/
def Daemon.checkAt (daemon : Daemon) : Option Nat → Option Check
  | some i => daemon.checks i
  | none => daemon.worker.bind Work.current

def Due (daemon : Daemon) : Prop :=
  Item.checkUpdates ∈ daemon.queue ∨ (∃ check, daemon.worker = some (.check check)) ∨
    ∃ i, daemon.inventories i = .submitting

/-- No version in use is to be removed or has been, and the flag of a check means one. -/
structure Watched (daemon : Daemon) : Prop where
  unused : ∀ version, Removing daemon version → versionUsage daemon.hosting version = 0
  removed : ∀ removal ∈ daemon.removals, versionUsage removal.2 removal.1 = 0
  flagged : daemon.updates.checking = true → Due daemon
  clears : ∀ caller result, daemon.checkAt caller = some (.writing result) → result.checking = false
  held : daemon.locked = true → ∃ caller check, daemon.checkAt caller = some check ∧ check.inside = true

variable {daemon left : Daemon}

/-- A turn that makes no progress with a check and removes nothing. -/
theorem Watched.frame (watched : Watched daemon)
    (stored : left.hosting = daemon.hosting ∧ left.removals = daemon.removals ∧ left.updates = daemon.updates ∧
      left.locked = daemon.locked)
    (removing : ∀ version, Removing left version → versionUsage daemon.hosting version = 0)
    (due : Due daemon → Due left)
    (fresh : ∀ caller check, left.checkAt caller = some check → daemon.checkAt caller = some check ∨ check = .waiting)
    (kept : ∀ caller check, daemon.checkAt caller = some check → check.inside = true → left.checkAt caller = some check) :
    Watched left := by
  obtain ⟨hosting, removals, updates, locked⟩ := stored
  refine ⟨fun version removes => ?_, ?_, fun flag => ?_, fun caller result writes => ?_, fun lock => ?_⟩
  · rw [hosting]
    exact removing version removes
  · rw [removals]
    exact watched.removed
  · rw [updates] at flag
    exact due (watched.flagged flag)
  · rcases fresh caller _ writes with before | waiting
    · exact watched.clears caller result before
    · cases waiting
  · rw [locked] at lock
    obtain ⟨caller, check, at_, inside⟩ := watched.held lock
    exact ⟨caller, check, kept caller check at_ inside, inside⟩

theorem Watched.aside (watched : Watched daemon)
    (stored : left.hosting = daemon.hosting ∧ left.removals = daemon.removals ∧ left.updates = daemon.updates ∧
      left.locked = daemon.locked) (worker : left.worker = daemon.worker) (checks : left.checks = daemon.checks)
    (removing : ∀ version, Removing left version → versionUsage daemon.hosting version = 0)
    (queue : Item.checkUpdates ∈ daemon.queue → Item.checkUpdates ∈ left.queue)
    (inventories : ∀ i, daemon.inventories i = .submitting → Due left) : Watched left := by
  have same : ∀ caller, left.checkAt caller = daemon.checkAt caller := by
    intro caller
    cases caller with
    | some i => exact congrFun checks i
    | none => exact congrArg (Option.bind · Work.current) worker
  refine watched.frame stored removing (fun due => ?_) (fun caller check at_ => .inl ((same caller).symm.trans at_))
    fun caller check at_ _ => (same caller).trans at_
  rcases due with queued | ⟨check, works⟩ | ⟨i, submits⟩
  · exact .inl (queue queued)
  · exact .inr (.inl ⟨check, worker.trans works⟩)
  · exact inventories i submits

structure Sound (daemon : Daemon) : Prop where
  placed : Placed daemon
  watched : Watched daemon

/-- The turns in which nothing goes wrong. -/
def Careful (daemon : Daemon) : Event → Prop
  | .start i mark => match daemon.starts i with
    | .inserting _ => daemon.rows.any StackJob.isActive = false
    | .submitting _ => mark.raises = none
    | _ => True
  | .inventory i mark => match daemon.inventories i with
    | .submitting => mark.raises = none
    | _ => True
  | .work mark => match daemon.worker with
    | some (.begin _) | some (.job _ (.failing _)) | some (.job _ (.checking _)) => mark.raises = none
    | some (.check _) => mark.raises = none ∨ daemon.updates.checking = false
    | _ => True
  | .assign hosting => ∀ version, Removing daemon version → versionUsage hosting version = 0
  | .restart => daemon.rows.any StackJob.isActive = false ∧ daemon.updates.checking = false
  | _ => True

theorem waits_start {id i : Nat} : Waits daemon id (.start i) ↔ daemon.starts i = .submitting id := Iff.rfl

variable {start : Start}

theorem start_self {i : Nat} : (daemon.start i start).starts i = start := by
  exact Function.update_self ..

theorem start_other {i j : Nat} (other : j ≠ i) : (daemon.start i start).starts j = daemon.starts j := by
  exact Function.update_of_ne other ..

/-- What is to be removed was to be removed before. -/
theorem Removing.before {version : String} (removes : Removing left version)
    (asks : ∀ i request, (left.starts i).asks = some request → (daemon.starts i).asks = some request)
    (queued : ∀ job ∈ left.rows, job.status = .queued → ∃ earlier ∈ daemon.rows, Same earlier job ∧ earlier.status = .queued)
    (worker : ∀ job stage, left.worker = some (.job job stage) → stage.willRun = true →
      ∃ earlier, daemon.worker = some (.job job earlier) ∧ earlier.willRun = true) : Removing daemon version := by
  cases removes with
  | asked i request asked names => exact .asked i request (asks i request asked) names
  | queued job member waits names =>
    obtain ⟨earlier, inside, same, waited⟩ := queued job member waits
    unfold StackJob.removes at names
    rw [same.action, same.target] at names
    exact .queued earlier inside waited names
  | running job stage works will names =>
    obtain ⟨earlier, worked, would⟩ := worker job stage works will
    exact .running job earlier worked would names

theorem Removing.same {version : String} (removes : Removing left version) (starts : left.starts = daemon.starts)
    (rows : left.rows = daemon.rows) (worker : left.worker = daemon.worker) : Removing daemon version := by
  refine removes.before (fun i request asks => ?_) (fun job member waits => ?_) fun job stage works will => ?_
  · rw [← starts]
    exact asks
  · rw [rows] at member
    exact ⟨job, member, ⟨rfl, rfl, rfl, rfl⟩, waits⟩
  · exact ⟨stage, worker.symm.trans works, will⟩

theorem removing_start {i : Nat} {start : Start} {version : String} (hosting : Hosting)
    (unused : ∀ version, Removing daemon version → versionUsage hosting version = 0)
    (asks : ∀ request, start.asks = some request → request.removes version → versionUsage hosting version = 0)
    (removes : Removing (daemon.start i start) version) : versionUsage hosting version = 0 := by
  cases removes with
  | asked j request asked removes =>
    by_cases own : j = i
    · subst own
      rw [start_self] at asked
      exact asks request asked removes
    · rw [start_other own] at asked
      exact unused version (.asked j request asked removes)
  | queued job member waits removes => exact unused version (.queued job member waits removes)
  | running job stage works will removes => exact unused version (.running job stage works will removes)

/-- A start takes a step that commits nothing. -/
theorem Sound.starts {i : Nat} (sound : Sound daemon)
    (before : ∀ id, daemon.starts i ≠ .submitting id) (after : ∀ id, start ≠ .submitting id)
    (asks : ∀ request version, start.asks = some request → request.removes version →
      versionUsage daemon.hosting version = 0) : Sound (daemon.start i start) := by
  refine ⟨sound.placed.same rfl rfl rfl fun j id => ?_, sound.watched.aside ⟨rfl, rfl, rfl, rfl⟩ rfl rfl
    (fun version removes => removing_start daemon.hosting sound.watched.unused (fun request => asks request version) removes)
    (fun queued => queued) fun j submits => .inr (.inr ⟨j, submits⟩)⟩
  by_cases own : j = i
  · subst own
    refine ⟨fun given => ?_, fun given => absurd given (before id)⟩
    rw [start_self] at given
    exact absurd given (after id)
  · rw [start_other own]

theorem call_sound {i : Nat} {request : Request} (sound : Sound daemon) : Sound (daemon.step (.call i request)) := by
  unfold Daemon.step
  dsimp only
  split
  · next idle => exact sound.starts (fun id given => by rw [idle] at given; cases given) nofun nofun
  · exact sound

theorem submit_placed {i id : Nat} (placed : Placed daemon) (start : daemon.starts i = .submitting id) :
    Placed ({ daemon with queue := daemon.queue ++ [Item.runJob id] }.start i .idle) := by
  have here : Waits daemon id (.start i) := start
  have absent : Item.runJob id ∉ daemon.queue := fun queued =>
    Place.noConfusion (placed.single id .queue (.start i) queued here)
  refine @Placed.moves _ _ _ (.start i) .queue placed rfl here (mem_append_right _ mem_cons_self) ?_ ?_ ?_ ?_
  · have appended : (daemon.queue ++ [Item.runJob id]).filterMap Item.job = daemon.queue.filterMap Item.job ++ [id] :=
      filterMap_append ..
    unfold Daemon.start
    rw [appended]
    refine nodup_append.mpr ⟨placed.once, nodup_singleton id, fun other inside own same => ?_⟩
    rintro rfl
    rw [mem_singleton.mp same] at inside
    obtain ⟨item, member, job⟩ := mem_filterMap.mp inside
    cases item with
    | runJob named =>
      cases job
      exact absent member
    | checkUpdates => cases job
  · intro place waits
    cases place with
    | queue => rfl
    | start j =>
      rw [waits_start] at waits
      by_cases own : j = i
      · subst own
        rw [start_self] at waits
        cases waits
      · rw [start_other own] at waits
        exact absurd (Place.start.inj (placed.single id (.start j) (.start i) waits here)) own
    | thread => exact Place.noConfusion (placed.single id .thread (.start i) waits here)
  · intro other place different
    cases place with
    | queue =>
      refine ⟨fun waits => ?_, fun waits => mem_append_left _ waits⟩
      rcases mem_append.mp waits with old | new
      · exact old
      · exact absurd (Item.runJob.inj (mem_singleton.mp new)) different
    | start j =>
      rw [waits_start, waits_start]
      by_cases own : j = i
      · subst own
        rw [start_self]
        refine ⟨fun given => Start.noConfusion given, fun given => ?_⟩
        rw [start] at given
        exact absurd (Start.submitting.inj given).symm different
      · rw [start_other own]
    | thread => exact Iff.rfl
  · exact fun _ _ _ => Iff.rfl

theorem start_sound {i : Nat} {mark : Mark} (sound : Sound daemon) (careful : Careful daemon (.start i mark)) :
    Sound (startTurn i mark daemon) ∧ KeepsEnded daemon (startTurn i mark daemon) := by
  unfold Careful at careful
  dsimp only at careful
  unfold startTurn
  cases start : daemon.starts i with
  | idle => exact ⟨sound, keepsEnded_rows rfl⟩
  | previewing request =>
    have before : ∀ id, daemon.starts i ≠ .submitting id := fun id given => by rw [start] at given; cases given
    dsimp only
    cases ran : preview mark daemon.hosting request with
    | error message => exact ⟨sound.starts before nofun nofun, keepsEnded_rows rfl⟩
    | ok done =>
      refine ⟨sound.starts before nofun fun other version asks removes => ?_, keepsEnded_rows rfl⟩
      cases asks
      exact preview_unused ran removes
  | admitting request =>
    have before : ∀ id, daemon.starts i ≠ .submitting id := fun id given => by rw [start] at given; cases given
    dsimp only
    split
    · exact ⟨sound.starts before nofun nofun, keepsEnded_rows rfl⟩
    · refine ⟨sound.starts before nofun fun other version asks removes => ?_, keepsEnded_rows rfl⟩
      cases asks
      exact sound.watched.unused version (.asked i request (by rw [start]; rfl) removes)
  | inserting request =>
    rw [start] at careful
    have before : ∀ id, daemon.starts i ≠ .submitting id := fun id given => by rw [start] at given; cases given
    cases mark.raises with
    | some error => exact ⟨sound.starts before nofun nofun, keepsEnded_rows rfl⟩
    | none =>
      have asked : (daemon.starts i).asks = some request := by
        rw [start]
        rfl
      refine ⟨⟨sound.placed.insert start careful, ?_⟩, fun job member _ => ?_⟩
      · refine sound.watched.aside ⟨rfl, rfl, rfl, rfl⟩ rfl rfl (fun version removes => ?_) (fun queued => queued)
          fun j submits => .inr (.inr ⟨j, submits⟩)
        refine @removing_start _ i (.submitting (Rows.next StackJob.id daemon.rows)) version daemon.hosting
          (fun version removal => ?_) nofun removes
        cases removal with
        | asked j asked asks names => exact sound.watched.unused version (.asked j asked asks names)
        | queued job member waits names =>
          rcases mem_append.mp member with old | new
          · exact sound.watched.unused version (.queued job old waits names)
          · rw [mem_singleton.mp new] at names
            exact sound.watched.unused version (.asked i request asked names)
        | running job stage works will names => exact sound.watched.unused version (.running job stage works will names)
      · exact ⟨job, mem_append_left _ member, rfl, rfl⟩
  | submitting id =>
    rw [start] at careful
    rw [careful]
    refine ⟨⟨submit_placed sound.placed start, ?_⟩, keepsEnded_rows rfl⟩
    exact sound.watched.aside ⟨rfl, rfl, rfl, rfl⟩ rfl rfl
      (fun version removes => @removing_start { daemon with queue := daemon.queue ++ [Item.runJob id] } i .idle version
        daemon.hosting
        (fun version removes => sound.watched.unused version (removes.same rfl rfl rfl)) nofun removes)
      (fun queued => mem_append_left _ queued) fun j submits => .inr (.inr ⟨j, submits⟩)

end Boron.StackManager
