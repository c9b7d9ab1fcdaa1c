import Boron.Malware.Unlost

namespace Boron.Malware

variable {Content Hash : Type} {world : World Content Hash}

theorem idle_of_isIdle (idle : world.isIdle = true) : world.process = .idle := by
  unfold World.isIdle at idle
  split at idle
  · assumption
  · cases idle

theorem Stage.creating {host : Host Content Hash} {task : Restore Hash}
    (stage : Stage host world) (running : world.process = .createTarget task) : Reading host world task := by
  unfold Stage at stage
  rw [running] at stage
  exact stage

theorem Stage.finishing {host : Host Content Hash} {task : Restore Hash}
    (stage : Stage host world) (running : world.process = .finishRestore task) : Landed host world task := by
  unfold Stage at stage
  rw [running] at stage
  exact stage

theorem ok_careful (process : Process Content Hash) : Careful.next .ok process := by
  cases process with
  | syncSource _ => exact rfl
  | syncStored _ => exact rfl
  | unmarkRestoring _ => exact rfl
  | _ => first | exact trivial | exact nofun

section
variable {Content Hash : Type} [DecidableEq Hash] {host : Host Content Hash} {world left : World Content Hash}
  {finding : MalwareFinding Hash} {job : Quarantine Content Hash} {task : Restore Hash} {outcome : Outcome} {content : Content}

theorem advance_tenantFile (host : Host Content Hash) (world : World Content Hash) (outcome : Outcome) (content : Content) :
    (world.advance host outcome content).tenantFile = world.tenantFile := by
  unfold World.advance World.session
  repeat' split
  all_goals rfl

theorem beginRestore_of (calm : Calm host world) (member : finding ∈ world.findings) (quarantined : finding.status = .quarantined) :
    ∃ task, world.beginRestore finding.id = some task ∧ task.finding = finding := by
  obtain ⟨shelved, -⟩ := calm.shelved finding member quarantined
  obtain ⟨-, -, original, -, -, kept, -⟩ := shelved.kept
  refine ⟨⟨finding, world.username, original⟩, ?_, rfl⟩
  unfold World.beginRestore
  rw [findingById_eq calm.unique member]
  simp [quarantined, shelved.stored, shelved.named, kept, guard]

theorem restore_next (calm : Calm host world) (member : finding ∈ world.findings) (quarantined : finding.status = .quarantined)
    (running : world.process = .restore finding.id) :
    ∃ task, task.finding = finding ∧ (world.advance host .ok content).process = .openStored task := by
  obtain ⟨task, begun, same⟩ := beginRestore_of calm member quarantined
  refine ⟨task, same, ?_⟩
  unfold World.advance
  rw [running]
  dsimp only
  rw [begun]
  rfl

theorem openStored_next (reading : Reading host world task) (running : world.process = .openStored task) :
    (world.advance host .ok content).process = .createTarget task := by
  obtain ⟨file, copy, -, stored, -, sha256, size⟩ := reading.stored
  unfold World.advance
  rw [running]
  dsimp only
  rw [stored]
  dsimp only
  rw [if_pos ⟨sha256, size⟩]
  rfl

theorem createTarget_next (reading : Reading host world task) (running : world.process = .createTarget task) :
    ∃ stored, (world.advance host .ok content).process = .fillTarget task stored := by
  obtain ⟨file, copy, -, stored, -⟩ := reading.stored
  refine ⟨copy.content, ?_⟩
  unfold World.advance
  rw [running]
  dsimp only
  rw [stored, reading.shelved.2]
  rfl

theorem markRestoring_next (landing : Landing host world task) (running : world.process = .markRestoring task) :
    (world.advance host .ok content).process = .unlinkStored task := by
  have status : world.statusOf task.finding.id = some .quarantined := by
    rw [← landing.quarantined]
    exact statusOf_eq landing.apart.unique landing.member
  unfold World.advance
  rw [running]
  dsimp only
  rw [if_pos status]
  rfl

theorem finishRestore_next (landed : Landed host world task) (running : world.process = .finishRestore task) :
    (world.advance host .ok content).statusOf task.finding.id = some .restored ∧
      (world.advance host .ok content).home = world.home := by
  have left : world.advance host .ok content = (world.setFinding task.finding.id fun finding =>
      { finding with status := .restored, quarantinePath := none }).goes .idle := by
    unfold World.advance
    rw [running]
    rfl
  have touches : Touches task.finding world (world.setFinding task.finding.id fun finding =>
      { finding with status := .restored, quarantinePath := none }) := touches_setFinding world fun _ => rfl
  have row : { task.marked with status := .restored, quarantinePath := none } ∈ (world.setFinding task.finding.id fun finding =>
      { finding with status := .restored, quarantinePath := none }).findings :=
    (@mem_setFinding Content Hash world task.marked _ landed.apart.unique landed.row
      fun finding => { finding with status := .restored, quarantinePath := none }).mpr (.inl rfl)
  rw [left]
  exact ⟨@statusOf_eq Content Hash _ _ (touches.unique landed.apart.unique) row, rfl⟩

/-- A stage of a world, whatever its answer, and the call under way. -/
structure At (host : Host Content Hash) (world : World Content Hash) (process : Process Content Hash) : Prop where
  stage : Stage host world
  process : world.process = process

def World.proceeds (host : Host Content Hash) (world : World Content Hash) : World Content Hash :=
  world.step host (.next .ok host.empty)

theorem proceeds_stage (stage : Stage host world) : Stage host (world.proceeds host) :=
  @advance_stage Content Hash _ host _ .ok host.empty (stage.answer none) (ok_careful _)

theorem At.proceeds {process next : Process Content Hash} (reached : At host world process)
    (goes : ∀ start : World Content Hash, Stage host start → start.process = process →
      (start.advance host .ok host.empty).process = next) : At host (world.proceeds host) next := by
  have stage := reached.stage.answer none
  exact ⟨proceeds_stage reached.stage, goes _ stage reached.process⟩

theorem At.reading (reached : At host world (.openStored task)) : At host (world.proceeds host) (.createTarget task) := by
  refine reached.proceeds fun start stage running => ?_
  unfold Stage at stage
  rw [running] at stage
  exact openStored_next stage running

theorem At.created (reached : At host world (.createTarget task)) :
    ∃ stored, At host (world.proceeds host) (.fillTarget task stored) := by
  have stage := reached.stage.answer none
  have running : World.process { world with answer := none } = .createTarget task := reached.process
  obtain ⟨stored, next⟩ := @createTarget_next Content Hash _ host _ task host.empty (stage.creating running) running
  exact ⟨stored, proceeds_stage reached.stage, next⟩

theorem At.filled {stored : Content} (reached : At host world (.fillTarget task stored)) :
    At host (world.proceeds host) (.ownTarget task) := by
  refine reached.proceeds fun start _ running => ?_
  unfold World.advance
  rw [running]
  rfl

theorem At.owned (reached : At host world (.ownTarget task)) : At host (world.proceeds host) (.markRestoring task) := by
  refine reached.proceeds fun start _ running => ?_
  unfold World.advance
  rw [running]
  rfl

theorem At.marked (reached : At host world (.markRestoring task)) : At host (world.proceeds host) (.unlinkStored task) := by
  refine reached.proceeds fun start stage running => ?_
  unfold Stage at stage
  rw [running] at stage
  exact markRestoring_next stage.1 running

theorem At.unlinked (reached : At host world (.unlinkStored task)) : At host (world.proceeds host) (.syncStored task) := by
  refine reached.proceeds fun start _ running => ?_
  unfold World.advance
  rw [running]
  rfl

theorem At.synced (reached : At host world (.syncStored task)) : At host (world.proceeds host) (.finishRestore task) := by
  refine reached.proceeds fun start _ running => ?_
  unfold World.advance
  rw [running]
  rfl

theorem restorable_of_calm (calm : Calm host world) (idle : world.isIdle = true) (member : finding ∈ world.findings)
    (quarantined : finding.status = .quarantined) : world.Restorable host finding := by
  obtain ⟨file, -, -, tenant, -⟩ := (calm.shelved finding member quarantined).1.kept
  have called : world.completes host (.restore finding.id) 0 =
      World.goes { world with answer := none } (.restore finding.id) := if_pos idle
  have begins : Calm host (world.completes host (.restore finding.id) 0) := by
    rw [called]
    exact (calm.like (like_answer world none)).goes _
  have inside : finding ∈ (world.completes host (.restore finding.id) 0).findings := by
    rw [called]
    exact member
  have running : (world.completes host (.restore finding.id) 0).process = .restore finding.id := by
    rw [called]
    rfl
  have tenant0 : (world.completes host (.restore finding.id) 0).tenantFile finding.relativePath = some file := by
    rw [called]
    exact tenant
  obtain ⟨task, same, next⟩ := @restore_next Content Hash _ host _ finding host.empty
    (begins.like (like_answer _ none)) inside quarantined running
  have stage0 : Stage host (world.completes host (.restore finding.id) 0) := by
    unfold Stage
    rw [running]
    exact begins
  have reads : At host (world.completes host (.restore finding.id) 1) (.openStored task) :=
    ⟨proceeds_stage stage0, next⟩
  obtain ⟨stored, filling⟩ := reads.reading.created
  have last : At host (world.completes host (.restore finding.id) 8) (.finishRestore task) :=
    filling.filled.owned.marked.unlinked.synced
  have tenant8 : (world.completes host (.restore finding.id) 8).tenantFile finding.relativePath = some file := by
    have kept (steps : Nat) : (world.completes host (.restore finding.id) steps).tenantFile =
        (world.completes host (.restore finding.id) 0).tenantFile := by
      induction steps with
      | zero => rfl
      | succ steps ih => exact (advance_tenantFile host _ .ok host.empty).trans ih
    rw [kept 8]
    exact tenant0
  have stage := last.stage.answer none
  have finishing : World.process { world.completes host (.restore finding.id) 8 with answer := none } = .finishRestore task :=
    last.process
  have landed := stage.finishing finishing
  obtain ⟨status, home⟩ := @finishRestore_next Content Hash _ host _ task host.empty landed finishing
  obtain ⟨owner, here, owned, found, equal⟩ := landed.here
  rw [same] at status owned found
  have tenants : (world.completes host (.restore finding.id) 8).tenantFile finding.relativePath = some owner := owned
  rw [tenant8] at tenants
  cases tenants
  refine ⟨file, tenant, status, here, ?_, equal⟩
  exact (congrFun home finding.relativePath).trans found

theorem ignorable_of_calm (calm : Calm host world) (idle : world.isIdle = true) (member : finding ∈ world.findings)
    (active : finding.status = .active) :
    (world.completes host (.ignore finding.id) 2).statusOf finding.id = some .ignored := by
  have called : world.completes host (.ignore finding.id) 0 = World.goes { world with answer := none } (.ignore finding.id) :=
    if_pos idle
  have known : world.statusOf finding.id = some .active := by
    rw [← active]
    exact statusOf_eq calm.unique member
  have permitted : world.completes host (.ignore finding.id) 1 =
      World.goes { world with answer := none } (.writeIgnored finding.id) := by
    unfold World.completes
    rw [called]
    exact if_pos ⟨rfl, known⟩
  have written : world.completes host (.ignore finding.id) 2 = World.goes (World.setFinding { world with answer := none }
      finding.id fun finding => { finding with status := .ignored }) .idle := by
    unfold World.completes
    rw [permitted]
    rfl
  have touches : Touches finding world (world.setFinding finding.id fun finding => { finding with status := .ignored }) :=
    touches_setFinding world fun _ => rfl
  have row := (@mem_setFinding Content Hash world finding _ calm.unique member
    fun finding => { finding with status := .ignored }).mpr (.inl rfl)
  rw [written]
  exact @statusOf_eq Content Hash _ { finding with status := .ignored } (touches.unique calm.unique) row

theorem Calm.usable (calm : Calm host world) (idle : world.isIdle = true) (member : finding ∈ world.findings) :
    world.Usable host finding := by
  obtain ⟨unmarked, unmarked'⟩ := calm.settled finding member
  unfold World.Usable
  split
  · next active => exact ignorable_of_calm calm idle member active
  · next quarantined => exact restorable_of_calm calm idle member quarantined
  · trivial
  · trivial
  · next marked => exact absurd marked unmarked
  · next marked => exact absurd marked unmarked'

end

end Boron.Malware

namespace Boron.Malware

section
variable {Content Hash : Type} {host : Host Content Hash} {world : World Content Hash} {finding : MalwareFinding Hash}
  {job : Quarantine Content Hash} {task : Restore Hash}

variable {file : File Content} {path : String}

/-- Elsewhere all is calm. -/
theorem Apart.holds (apart : Apart host world finding)
    (own : ∀ file, world.tenantFile finding.relativePath = some file → world.Holds finding.relativePath file)
    (tenant : world.tenantFile path = some file) : world.Holds path file := by
  by_cases equal : path = finding.relativePath
  · rw [equal] at tenant ⊢
    exact own file tenant
  · rcases apart.lodged path file equal tenant with present | ⟨other, member, different, atPath, quarantined⟩
    · obtain ⟨here, found⟩ := Option.isSome_iff_exists.mp present
      obtain ⟨tenants, owned, same⟩ := apart.own path here equal found
      rw [tenant] at owned
      cases owned
      exact .inl ⟨here, found, same.content⟩
    · obtain ⟨shelved, -⟩ := apart.shelved other member different quarantined
      obtain ⟨tenants, copy, -, owned, stored, -, content, -⟩ := shelved.kept
      rw [atPath, tenant] at owned
      cases owned
      exact .inr ⟨other, member, atPath, _, copy, shelved.stored, stored, content⟩

theorem Marked.holds (marked : Marked host world job) (tenant : world.tenantFile path = some file) : world.Holds path file := by
  refine marked.apart.holds (fun owner owned => .inr ?_) tenant
  obtain ⟨tenants, known, same⟩ := marked.tenant
  rw [owned] at known
  cases known
  obtain ⟨copy, stored, content⟩ := marked.filled.copy
  exact ⟨job.marked, marked.row, rfl, job.target, copy, rfl, stored, content.trans same.content⟩

theorem Landing.holds (landing : Landing host world task) (tenant : world.tenantFile path = some file) : world.Holds path file := by
  refine landing.apart.holds (fun owner owned => .inr ?_) tenant
  obtain ⟨tenants, copy, -, known, stored, -, content, -⟩ := landing.shelved.kept
  rw [owned] at known
  cases known
  exact ⟨task.finding, landing.member, rfl, _, copy, landing.shelved.stored, stored, content⟩

theorem Landed.holds (landed : Landed host world task) (tenant : world.tenantFile path = some file) : world.Holds path file := by
  refine landed.apart.holds (fun owner owned => .inl ?_) tenant
  obtain ⟨tenants, here, known, found, same⟩ := landed.here
  rw [owned] at known
  cases known
  exact ⟨here, found, same.content⟩

/-- At every moment of every call. -/
theorem Stage.held (stage : Stage host world) (path : String) (file : File Content)
    (tenant : world.tenantFile path = some file) : world.Holds path file := by
  unfold Stage at stage
  split at stage
  · exact stage.holds tenant
  · exact stage.holds tenant
  · exact stage.calm.holds tenant
  · exact stage.calm.holds tenant
  · exact stage.1.calm.holds tenant
  · exact stage.1.calm.holds tenant
  · exact stage.1.calm.holds tenant
  · exact stage.1.holds tenant
  · exact stage.1.holds tenant
  · exact stage.1.holds tenant
  · exact stage.1.holds tenant
  · exact stage.1.holds tenant
  · exact stage.holds tenant
  · exact stage.calm.holds tenant
  · exact stage.calm.holds tenant
  · exact stage.1.holds tenant
  · exact stage.1.holds tenant
  · exact stage.1.holds tenant
  · exact stage.holds tenant
  · exact stage.1.holds tenant
  · exact stage.1.holds tenant
  · exact stage.holds tenant
  · exact stage.holds tenant
  · exact stage.holds tenant
  · exact stage.1.holds tenant

/-- The call can be dropped here without harm. -/
theorem Stage.calm (stage : Stage host world) (whole : ¬ world.process.Halfway) : Calm host world := by
  unfold Stage at stage
  split at stage
  · exact stage
  · exact stage
  · exact stage.calm
  · exact stage.calm
  · exact stage.1.calm
  · exact stage.1.calm
  · exact stage.1.calm
  · next running => exact absurd (by rw [running]; trivial) whole
  · next running => exact absurd (by rw [running]; trivial) whole
  · next running => exact absurd (by rw [running]; trivial) whole
  · next running => exact absurd (by rw [running]; trivial) whole
  · exact stage.1
  · exact stage
  · exact stage.calm
  · exact stage.calm
  · next running => exact absurd (by rw [running]; trivial) whole
  · next running => exact absurd (by rw [running]; trivial) whole
  · next running => exact absurd (by rw [running]; trivial) whole
  · next running => exact absurd (by rw [running]; trivial) whole
  · next running => exact absurd (by rw [running]; trivial) whole
  · next running => exact absurd (by rw [running]; trivial) whole
  · next running => exact absurd (by rw [running]; trivial) whole
  · next running => exact absurd (by rw [running]; trivial) whole
  · exact stage
  · exact stage.1

theorem Stage.calm_of_idle (stage : Stage host world) (idle : world.isIdle = true) : Calm host world := by
  refine stage.calm ?_
  rw [idle_of_isIdle idle]
  exact id

theorem Calm.stage (calm : Calm host world) (idle : world.isIdle = true) : Stage host world := by
  unfold Stage
  rw [idle_of_isIdle idle]
  exact calm

theorem Calm.scanned (calm : Calm host world) (relativePath : String) (fileSha256 : Hash) :
    Calm host { world with findings := world.findings ++ [{
      id := Rows.next MalwareFinding.id world.findings, relativePath, fileSha256
      status := .active, quarantinePath := none, originalMeta := none }] } := by
  have old : ∀ row ∈ world.findings ++ [{
      id := Rows.next MalwareFinding.id world.findings, relativePath, fileSha256
      status := Status.active, quarantinePath := none, originalMeta := none }],
      row.status = .quarantined → row ∈ world.findings := by
    intro row member quarantined
    rcases List.mem_append.mp member with before | last
    · exact before
    · rw [List.mem_singleton.mp last] at quarantined
      cases quarantined
  exact {
    unique := by
      refine Rows.unique_append calm.unique fun other member same => ?_
      have below : other.id < Rows.next MalwareFinding.id world.findings := Rows.lt_next member
      rw [same] at below
      exact Nat.lt_irrefl _ below
    settled := fun row member => by
      rcases List.mem_append.mp member with before | last
      · exact calm.settled row before
      · rw [List.mem_singleton.mp last]
        exact ⟨nofun, nofun⟩
    shelved := fun row member quarantined => by
      obtain ⟨shelved, gone⟩ := calm.shelved row (old row member quarantined) quarantined
      exact ⟨⟨shelved.stored, shelved.named, shelved.kept⟩, gone⟩
    alone := fun first inFirst second inSecond held held' =>
      calm.alone first (old first inFirst held) second (old second inSecond held') held held'
    own := calm.own
    lodged := fun path file tenant => by
      rcases calm.lodged path file tenant with present | ⟨row, member, facts⟩
      · exact .inl present
      · exact .inr ⟨row, List.mem_append_left _ member, facts⟩ }

theorem Calm.renamed (calm : Calm host world) (none : ∀ finding ∈ world.findings, finding.status ≠ .quarantined)
    (username homeName : String) : Calm host { world with username, homeName } where
  unique := calm.unique
  settled := calm.settled
  shelved finding member quarantined := absurd quarantined (none finding member)
  alone := calm.alone
  own := calm.own
  lodged := calm.lodged

/-- The stage, and what `quarantine` has just answered. -/
structure Sound (host : Host Content Hash) (world : World Content Hash) : Prop where
  stage : Stage host world
  answered : ∀ id, world.answer = some id → world.isIdle = true ∧
    ∃ finding ∈ world.findings, finding.id = id ∧ finding.status = .quarantined

theorem Sound.silent (stage : Stage host world) (silent : world.answer = none) : Sound host world := by
  refine ⟨stage, fun id answered => ?_⟩
  rw [silent] at answered
  cases answered

theorem clean_sound (host : Host Content Hash) (username : String) (uid gid : Nat) (files : String → Option (File Content)) :
    Sound host (World.clean username uid gid files) := by
  have calm : Calm host (World.clean username uid gid files : World Content Hash) := {
    unique := List.nodup_nil
    settled := nofun
    shelved := nofun
    alone := nofun
    own := fun _ here found => ⟨here, found, File.Same.refl here⟩
    lodged := fun path file tenant => .inl (by
      have found : files path = some file := tenant
      change (files path).isSome = true
      rw [found]
      rfl) }
  exact Sound.silent calm rfl

end

section
variable {Content Hash : Type} [DecidableEq Hash] {host : Host Content Hash} {world : World Content Hash}
  {job : Quarantine Content Hash}

theorem reconcile_content (skipped : Nat → Bool) (path : StoredPath Hash) (file : File Content) :
    (world.reconcile skipped path file).content = file.content := by
  unfold World.reconcile
  split
  · rfl
  · dsimp only
    split <;> rfl

theorem Calm.restarted (calm : Calm host world) (skipped : Nat → Bool) : Calm host { world with
    process := .idle, vault := fun path => (world.vault path).map (world.reconcile skipped path) } where
  unique := calm.unique
  settled := calm.settled
  shelved finding member quarantined := by
    obtain ⟨shelved, gone⟩ := calm.shelved finding member quarantined
    obtain ⟨file, copy, original, tenant, stored, known, content, sha256, size, identity⟩ := shelved.kept
    have same := @reconcile_content Content Hash _ world skipped
      ⟨world.username, finding.id, finding.fileSha256⟩ copy
    refine ⟨⟨shelved.stored, shelved.named, file, _, original, tenant, ?_, known, same.trans content, ?_, ?_, identity⟩, gone⟩
    · exact congrArg (Option.map _) stored
    · rw [same]
      exact sha256
    · rw [same]
      exact size
  alone := calm.alone
  own := calm.own
  lodged := calm.lodged

theorem Sound.kept (sound : Sound host world) : Kept host world where
  held := sound.stage.held
  usable idle _ member := (sound.stage.calm_of_idle idle).usable idle member
  answered id answered := by
    obtain ⟨idle, finding, member, same, quarantined⟩ := sound.answered id answered
    have calm := sound.stage.calm_of_idle idle
    exact ⟨finding, member, same, (calm.shelved finding member quarantined).2, restorable_of_calm calm idle member quarantined⟩

theorem advance_answer (silent : world.answer = none) (outcome : Outcome) (content : Content) :
    (world.advance host outcome content).answer = none ∨
      (outcome = .ok ∧ ∃ job, world.process = .finishQuarantine job) := by
  cases running : world.process with
  | finishQuarantine job =>
    by_cases ok : outcome = .ok
    · exact .inr ⟨ok, job, rfl⟩
    · left
      unfold World.advance World.session
      rw [running]
      dsimp only
      cases outcome with
      | ok => exact absurd rfl ok
      | fails => exact silent
      | lost => exact silent
  | _ =>
    left
    unfold World.advance World.session
    rw [running]
    dsimp only
    repeat' split
    all_goals exact silent

theorem next_sound (stage : Stage host world) (silent : world.answer = none) {outcome : Outcome}
    (careful : Careful.next outcome world.process) (content : Content) : Sound host (world.advance host outcome content) := by
  have after := @advance_stage Content Hash _ host world outcome content stage careful
  rcases @advance_answer Content Hash _ host world silent outcome content with none | ⟨rfl, job, running⟩
  · exact Sound.silent after none
  · unfold Stage at stage
    rw [running] at stage
    have row := (stage.1.finished stage.2).2
    have left : world.advance host .ok content = { (world.setFinding job.finding.id fun finding =>
        { finding with status := .quarantined }).goes .idle with answer := some job.finding.id } := by
      unfold World.advance
      rw [running]
      rfl
    rw [left] at after ⊢
    refine ⟨after, fun id answered => ⟨rfl, { job.marked with status := .quarantined }, row, ?_, rfl⟩⟩
    exact Option.some.inj answered

theorem step_sound (sound : Sound host world) {event : Event Content Hash} (careful : Careful world event) :
    Sound host (world.step host event) := by
  have stage := sound.stage.answer none
  cases event with
  | next outcome content => exact next_sound stage rfl careful content
  | call operation =>
    unfold World.step
    dsimp only
    split
    · next idle =>
      have calm := stage.calm_of_idle idle
      refine Sound.silent ?_ rfl
      cases operation with
      | quarantine id => exact calm.goes _
      | restore id => exact calm.goes _
      | ignore id => exact calm.goes _
    · exact Sound.silent stage rfl
  | restart skipped => exact Sound.silent ((stage.calm careful).restarted skipped) rfl
  | rename username extent =>
    unfold World.step
    dsimp only
    split
    · next free =>
      rw [Bool.and_eq_true] at free
      have calm := stage.calm_of_idle free.1
      cases extent with
      | rolledBack => exact Sound.silent stage rfl
      | completes => exact Sound.silent ((calm.renamed (careful nofun) username username).stage free.1) rfl
      | interrupted => exact Sound.silent ((calm.renamed (careful nofun) world.username username).stage free.1) rfl
    · exact Sound.silent stage rfl
  | scanned relativePath fileSha256 =>
    unfold World.step
    dsimp only
    split
    · next idle =>
      exact Sound.silent (((stage.calm_of_idle idle).scanned relativePath fileSha256).stage idle) rfl
    · exact Sound.silent stage rfl

end

/-- A host whose hash is what the file holds. -/
def plainHost : Host String String := { sha256 := id, size := String.length, empty := "" }

def shell : File String := { content := "<?php system($_GET['c']);", uid := 1001, gid := 1001, mode := 0o644 }

def shop : World String String :=
  World.clean "shop" 1001 1001 fun path => if path = "public_html/x.php" then some shell else none

def World.after {Content Hash : Type} [DecidableEq Hash] (host : Host Content Hash) (world : World Content Hash)
    (events : List (Event Content Hash)) : World Content Hash := events.foldl (World.step host) world

/-- `fsync` of the source's directory fails after `unlink`: the handler deletes the copy. -/
def unsynced : World String String :=
  shop.after plainHost ([.scanned "public_html/x.php" shell.content, .call (.quarantine 1)] ++
    List.replicate 7 (.next .ok "") ++ [.next .fails "", .next .ok "", .next .ok ""])

end Boron.Malware
