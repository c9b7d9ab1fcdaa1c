import Boron.Malware.Kept

namespace Boron.Malware

section
variable {Content Hash : Type} {host : Host Content Hash} {world left : World Content Hash} {finding : MalwareFinding Hash}
  {job : Quarantine Content Hash} {task : Restore Hash}

/-- Only the call under way and the answer differ. -/
structure Like (world left : World Content Hash) : Prop where
  findings : left.findings = world.findings
  home : left.home = world.home
  vault : left.vault = world.vault
  username : left.username = world.username
  homeName : left.homeName = world.homeName
  tenantFile : left.tenantFile = world.tenantFile

theorem like_goes (world : World Content Hash) (process : Process Content Hash) : Like world (world.goes process) :=
  ⟨rfl, rfl, rfl, rfl, rfl, rfl⟩

theorem like_answer (world : World Content Hash) (answer : Option Nat) : Like world { world with answer } :=
  ⟨rfl, rfl, rfl, rfl, rfl, rfl⟩

theorem Like.touches (like : Like world left) (finding : MalwareFinding Hash) : Touches finding world left where
  unique unique := by
    rw [like.findings]
    exact unique
  others other _ := by rw [like.findings]
  home path _ := by rw [like.home]
  vault stored _ := by rw [like.vault]
  username := like.username
  homeName := like.homeName
  tenantFile := like.tenantFile

theorem Shelved.like (shelved : Shelved host world finding) (like : Like world left) : Shelved host left finding where
  stored := by
    rw [like.username]
    exact shelved.stored
  named := by
    rw [like.homeName, like.username]
    exact shelved.named
  kept := by
    rw [like.username, like.tenantFile, like.vault]
    exact shelved.kept

theorem Calm.like (calm : Calm host world) (like : Like world left) : Calm host left := by
  obtain ⟨unique, settled, shelved, alone, own, lodged⟩ := calm
  rw [← like.findings] at unique settled shelved alone lodged
  rw [← like.home] at shelved own lodged
  rw [← like.tenantFile] at own lodged
  exact ⟨unique, settled, fun finding member held => ⟨(shelved finding member held).1.like like, (shelved finding member held).2⟩,
    alone, own, lodged⟩

theorem Calm.goes (calm : Calm host world) (process : Process Content Hash) : Calm host (world.goes process) :=
  calm.like (like_goes world process)

theorem Copying.like (copying : Copying host world job) (like : Like world left) : Copying host left job where
  calm := copying.calm.like like
  member := by
    rw [like.findings]
    exact copying.member
  active := copying.active
  username := by
    rw [like.username]
    exact copying.username
  named := by
    rw [like.homeName, like.username]
    exact copying.named
  source := by
    rw [like.home]
    exact copying.source

theorem Filled.like (filled : Filled host world job) (like : Like world left) : Filled host left job := by
  refine ⟨?_, filled.size⟩
  rw [like.vault]
  exact filled.copy

theorem Marked.like (marked : Marked host world job) (like : Like world left) : Marked host left job :=
  marked.touched (like.touches job.finding) like.findings like.vault

theorem Reading.like (reading : Reading host world task) (like : Like world left) : Reading host left task where
  calm := reading.calm.like like
  member := by
    rw [like.findings]
    exact reading.member
  quarantined := reading.quarantined
  username := by
    rw [like.username]
    exact reading.username
  original := reading.original

theorem Landing.like (landing : Landing host world task) (like : Like world left) : Landing host left task where
  apart := landing.apart.touched (like.touches task.finding)
  member := by
    rw [like.findings]
    exact landing.member
  quarantined := landing.quarantined
  username := by
    rw [like.username]
    exact landing.username
  original := landing.original
  shelved := landing.shelved.like like

theorem Landed.like (landed : Landed host world task) (like : Like world left) : Landed host left task where
  apart := landed.apart.touched (like.touches task.finding)
  row := by
    rw [like.findings]
    exact landed.row
  quarantined := landed.quarantined
  username := by
    rw [like.username]
    exact landed.username
  original := landed.original
  here := by
    rw [like.tenantFile, like.home]
    exact landed.here

theorem Calm.ignored {id : Nat} (calm : Calm host world) (row : ∃ row ∈ world.findings, row.id = id ∧ row.status = .active) :
    Calm host (world.setFinding id fun finding => { finding with status := .ignored }) := by
  obtain ⟨row, member, rfl, active⟩ := row
  have unheld : row.status ≠ .quarantined := by
    rw [active]
    nofun
  have touches : Touches row world (world.setFinding row.id fun finding => { finding with status := .ignored }) :=
    touches_setFinding world fun _ => rfl
  have mem {finding : MalwareFinding Hash} := @mem_setFinding Content Hash world row finding calm.unique member
    fun finding => { finding with status := .ignored }
  have old {finding : MalwareFinding Hash}
      (inside : finding ∈ (world.setFinding row.id fun finding => { finding with status := .ignored }).findings)
      (held : finding.status ≠ .ignored) : finding ∈ world.findings := by
    rcases mem.mp inside with rfl | ⟨before, -⟩
    · exact absurd rfl held
    · exact before
  have held {finding : MalwareFinding Hash} (quarantined : finding.status = .quarantined) : finding.status ≠ .ignored := by
    rw [quarantined]
    nofun
  exact {
    unique := touches.unique calm.unique
    settled := fun finding inside => by
      rcases mem.mp inside with rfl | ⟨before, -⟩
      · exact ⟨nofun, nofun⟩
      · exact calm.settled finding before
    shelved := fun finding inside quarantined => by
      obtain ⟨shelved, gone⟩ := calm.shelved finding (old inside (held quarantined)) quarantined
      exact ⟨⟨shelved.stored, shelved.named, shelved.kept⟩, gone⟩
    alone := fun first inFirst second inSecond quarantined quarantined' =>
      calm.alone first (old inFirst (held quarantined)) second (old inSecond (held quarantined')) quarantined quarantined'
    own := calm.own
    lodged := fun path file tenant => by
      rcases calm.lodged path file tenant with present | ⟨finding, inside, atPath, quarantined⟩
      · exact .inl present
      · refine .inr ⟨finding, mem.mpr (.inr ⟨inside, fun same => unheld ?_⟩), atPath, quarantined⟩
        rw [← calm.eq_of_id member inside same]
        exact quarantined }

/-- The same stage is left by a world that differs in the answer. -/
theorem Stage.answer (stage : Stage host world) (answer : Option Nat) : Stage host { world with answer } := by
  have like := like_answer world answer
  obtain ⟨username, homeName, uid, gid, findings, home, vault, process, tenantFile, old⟩ := world
  cases process with
  | idle => exact Calm.like stage like
  | quarantine _ => exact Calm.like stage like
  | createCopy _ => exact Copying.like stage like
  | fillCopy _ => exact Copying.like stage like
  | chargeCopy _ => exact ⟨stage.1.like like, stage.2.like like⟩
  | verifyCopy _ => exact ⟨stage.1.like like, stage.2.like like⟩
  | markQuarantining _ => exact ⟨stage.1.like like, stage.2.1.like like, stage.2.2⟩
  | unlinkSource _ => exact ⟨stage.1.like like, stage.2⟩
  | unmarkQuarantining _ => exact ⟨stage.1.like like, stage.2⟩
  | syncSource _ => exact ⟨stage.1.like like, stage.2⟩
  | finishQuarantine _ => exact ⟨stage.1.like like, stage.2⟩
  | dropCopy _ => exact ⟨stage.1.like like, stage.2⟩
  | restore _ => exact Calm.like stage like
  | openStored _ => exact Reading.like stage like
  | createTarget _ => exact Reading.like stage like
  | fillTarget _ _ => exact ⟨stage.1.like like, stage.2⟩
  | ownTarget _ => exact ⟨stage.1.like like, stage.2⟩
  | markRestoring _ => exact ⟨stage.1.like like, stage.2⟩
  | dropTarget _ => exact Landing.like stage like
  | unlinkStored _ => exact ⟨stage.1.like like, stage.2.like like⟩
  | unmarkRestoring _ => exact ⟨stage.1.like like, stage.2.like like⟩
  | syncStored _ => exact Landed.like stage like
  | finishRestore _ => exact Landed.like stage like
  | ignore _ => exact Calm.like stage like
  | writeIgnored _ => exact ⟨stage.1.like like, stage.2⟩

theorem drops_stage (copying : Copying host world job) : Stage host (world.goes (.dropCopy job)) :=
  ⟨copying.calm.goes _, copying.drops.2⟩

end

section
variable {Content Hash : Type} [DecidableEq Hash] {host : Host Content Hash} {world left : World Content Hash}
  {finding : MalwareFinding Hash} {job : Quarantine Content Hash} {task : Restore Hash} {outcome : Outcome} {content : Content}

theorem createCopy_stage (running : world.process = .createCopy job) (copying : Copying host world job) :
    Stage host (world.advance host outcome content) := by
  unfold World.advance
  rw [running]
  dsimp only
  have created := copying.putVault (some ⟨host.empty, 0, 0, 0o600⟩)
  split
  · exact drops_stage copying
  · cases outcome with
    | ok => exact created.like (like_goes _ _)
    | fails => exact drops_stage copying
    | lost => exact drops_stage created

theorem fillCopy_stage (running : world.process = .fillCopy job) (copying : Copying host world job) :
    Stage host (world.advance host outcome content) := by
  unfold World.advance
  rw [running]
  dsimp only
  split
  · exact drops_stage copying
  · next small =>
    cases outcome with
    | ok =>
      have filled := copying.putVault (some ⟨job.source.content, 0, 0, 0o600⟩)
      exact ⟨filled.like (like_goes _ _), ⟨_, Function.update_self .., rfl⟩, Nat.not_lt.mp small⟩
    | fails => exact drops_stage (copying.putVault _)
    | lost => exact drops_stage (copying.putVault _)

theorem chargeCopy_stage (running : world.process = .chargeCopy job) (copying : Copying host world job)
    (filled : Filled host world job) : Stage host (world.advance host outcome content) := by
  unfold World.advance
  rw [running]
  dsimp only
  split
  · obtain ⟨copy, stored, same⟩ := filled.copy
    refine ⟨(copying.putVault _).like (like_goes _ _), ⟨{ copy with uid := job.source.uid, gid := job.source.gid }, ?_, same⟩,
      filled.size⟩
    rw [stored]
    exact Function.update_self ..
  · exact drops_stage copying

theorem verifyCopy_stage (running : world.process = .verifyCopy job) (copying : Copying host world job)
    (filled : Filled host world job) : Stage host (world.advance host outcome content) := by
  unfold World.advance
  rw [running]
  dsimp only
  split
  · next passes => exact ⟨copying.like (like_goes _ _), filled.like (like_goes _ _), passes.2.1⟩
  · exact drops_stage copying

theorem markQuarantining_stage (running : world.process = .markQuarantining job) (copying : Copying host world job)
    (filled : Filled host world job) (sha256 : host.sha256 job.source.content = job.finding.fileSha256)
    (careful : outcome ≠ .lost) : Stage host (world.advance host outcome content) := by
  unfold World.advance
  rw [running]
  dsimp only
  split
  · cases outcome with
    | ok => exact ⟨(copying.mark filled sha256).like (like_goes _ _), copying.source⟩
    | fails => exact drops_stage copying
    | lost => exact absurd rfl careful
  · exact drops_stage copying

theorem unlinkSource_stage (running : world.process = .unlinkSource job) (marked : Marked host world job)
    (source : world.home job.finding.relativePath = some job.source) (careful : outcome ≠ .lost) :
    Stage host (world.advance host outcome content) := by
  unfold World.advance
  rw [running]
  cases outcome with
  | ok =>
    have gone := marked.touched (touches_putHome world none) rfl rfl
    exact ⟨gone.like (like_goes _ _), putHome_own ..⟩
  | fails => exact ⟨marked.like (like_goes _ _), source⟩
  | lost => exact absurd rfl careful

theorem unmarkQuarantining_stage (running : world.process = .unmarkQuarantining job) (marked : Marked host world job)
    (source : world.home job.finding.relativePath = some job.source) (careful : outcome ≠ .fails) :
    Stage host (world.advance host outcome content) := by
  unfold World.advance
  rw [running]
  obtain ⟨calm, row⟩ := marked.unmarked source
  cases outcome with
  | ok => exact ⟨calm.goes _, row⟩
  | fails => exact absurd rfl careful
  | lost => exact calm.goes _

theorem dropCopy_stage (running : world.process = .dropCopy job) (calm : Calm host world)
    (row : ∃ row ∈ world.findings, row.id = job.finding.id ∧ row.status = .active) :
    Stage host (world.advance host outcome content) := by
  unfold World.advance
  rw [running]
  obtain ⟨own, member, same, active⟩ := row
  have owned : job.target.findingId = own.id := same.symm
  have dropped := calm.putVault member active owned none
  cases outcome with
  | ok => exact dropped.goes _
  | fails => exact calm.goes _
  | lost => exact dropped.goes _

theorem openStored_stage (running : world.process = .openStored task) (reading : Reading host world task) :
    Stage host (world.advance host outcome content) := by
  unfold World.advance
  rw [running]
  dsimp only
  split
  · split
    · exact reading.like (like_goes _ _)
    · exact reading.calm.goes _
  · exact reading.calm.goes _

theorem createTarget_stage (running : world.process = .createTarget task) (reading : Reading host world task)
    (careful : outcome ≠ .lost) : Stage host (world.advance host outcome content) := by
  obtain ⟨file, copy, tenant, stored, same, -⟩ := reading.stored
  have absent : ¬ (world.home task.finding.relativePath).isSome = true := by
    rw [reading.shelved.2]
    nofun
  unfold World.advance
  rw [running]
  dsimp only
  rw [if_neg absent, stored]
  cases outcome with
  | ok => exact ⟨(reading.lands _).like (like_goes _ _), file, tenant, same⟩
  | fails => exact reading.calm.goes _
  | lost => exact absurd rfl careful

theorem fillTarget_stage {stored : Content} (running : world.process = .fillTarget task stored)
    (landing : Landing host world task)
    (complete : ∃ file, world.tenantFile task.finding.relativePath = some file ∧ stored = file.content) :
    Stage host (world.advance host outcome content) := by
  obtain ⟨file, tenant, same⟩ := complete
  unfold World.advance
  rw [running]
  dsimp only
  split
  · exact ⟨(landing.putHome _).like (like_goes _ _), file, _, tenant, putHome_own .., same⟩
  · exact (landing.putHome _).like (like_goes _ _)

theorem ownTarget_stage (running : world.process = .ownTarget task) (landing : Landing host world task)
    (complete : ∃ file here, world.tenantFile task.finding.relativePath = some file ∧
      world.home task.finding.relativePath = some here ∧ here.content = file.content) :
    Stage host (world.advance host outcome content) := by
  obtain ⟨file, here, tenant, found, same⟩ := complete
  unfold World.advance
  rw [running]
  dsimp only
  split
  · refine ⟨(landing.putHome _).like (like_goes _ _), file, _, tenant, ?_, landing.owned tenant same⟩
    rw [found]
    exact putHome_own ..
  · exact landing.like (like_goes _ _)

theorem markRestoring_stage (running : world.process = .markRestoring task) (landing : Landing host world task)
    (complete : ∃ file here, world.tenantFile task.finding.relativePath = some file ∧
      world.home task.finding.relativePath = some here ∧ here.Same file) (careful : outcome ≠ .lost) :
    Stage host (world.advance host outcome content) := by
  unfold World.advance
  rw [running]
  dsimp only
  split
  · cases outcome with
    | ok =>
      obtain ⟨landed, shelved⟩ := landing.mark complete
      exact ⟨landed.like (like_goes _ _), shelved.like (like_goes _ _)⟩
    | fails => exact landing.like (like_goes _ _)
    | lost => exact absurd rfl careful
  · exact landing.like (like_goes _ _)

theorem dropTarget_stage (running : world.process = .dropTarget task) (landing : Landing host world task)
    (careful : outcome ≠ .fails) : Stage host (world.advance host outcome content) := by
  unfold World.advance
  rw [running]
  cases outcome with
  | ok => exact landing.dropped.goes _
  | fails => exact absurd rfl careful
  | lost => exact landing.dropped.goes _

theorem unlinkStored_stage (running : world.process = .unlinkStored task) (landed : Landed host world task)
    (shelved : Shelved host world task.marked) (careful : outcome ≠ .lost) :
    Stage host (world.advance host outcome content) := by
  unfold World.advance
  rw [running]
  cases outcome with
  | ok => exact landed.putVault.like (like_goes _ _)
  | fails => exact ⟨landed.like (like_goes _ _), shelved.like (like_goes _ _)⟩
  | lost => exact absurd rfl careful

theorem begins_stage {id : Nat} (calm : Calm host world) (running : world.process = .quarantine id ∨
    world.process = .restore id ∨ world.process = .ignore id) : Stage host (world.advance host outcome content) := by
  unfold World.advance
  rcases running with running | running | running
  · rw [running]
    dsimp only
    split
    · next job begun =>
      obtain ⟨member, active, username, named, source⟩ := beginQuarantine_some begun
      have copying : Copying host world job := ⟨calm, member, active, username, named, source⟩
      exact copying.like (like_goes _ _)
    · exact calm.goes _
  · rw [running]
    dsimp only
    split
    · next task begun => exact (beginRestore_some calm begun).like (like_goes _ _)
    · exact calm.goes _
  · rw [running]
    dsimp only
    split
    · next passes => exact ⟨calm.goes _, statusOf_some passes.2⟩
    · exact calm.goes _

theorem advance_stage (stage : Stage host world) (careful : Careful.next outcome world.process) :
    Stage host (world.advance host outcome content) := by
  unfold Stage at stage
  cases running : world.process with
  | idle =>
    rw [running] at stage
    have still : world.advance host outcome content = world := by
      unfold World.advance
      rw [running]
    rw [still]
    unfold Stage
    rw [running]
    exact stage
  | quarantine id =>
    rw [running] at stage
    exact begins_stage stage (.inl running)
  | restore id =>
    rw [running] at stage
    exact begins_stage stage (.inr (.inl running))
  | ignore id =>
    rw [running] at stage
    exact begins_stage stage (.inr (.inr running))
  | createCopy job =>
    rw [running] at stage
    exact createCopy_stage running stage
  | fillCopy job =>
    rw [running] at stage
    exact fillCopy_stage running stage
  | chargeCopy job =>
    rw [running] at stage
    exact chargeCopy_stage running stage.1 stage.2
  | verifyCopy job =>
    rw [running] at stage
    exact verifyCopy_stage running stage.1 stage.2
  | markQuarantining job =>
    rw [running] at stage careful
    exact markQuarantining_stage running stage.1 stage.2.1 stage.2.2 careful
  | unlinkSource job =>
    rw [running] at stage careful
    exact unlinkSource_stage running stage.1 stage.2 careful
  | syncSource job =>
    rw [running] at stage careful
    have ok : outcome = .ok := careful
    unfold World.advance
    rw [running, ok]
    exact ⟨stage.1.like (like_goes _ _), stage.2⟩
  | unmarkQuarantining job =>
    rw [running] at stage careful
    exact unmarkQuarantining_stage running stage.1 stage.2 careful
  | dropCopy job =>
    rw [running] at stage
    exact dropCopy_stage running stage.1 stage.2
  | finishQuarantine job =>
    rw [running] at stage careful
    have calm := (stage.1.finished stage.2).1
    unfold World.advance
    rw [running]
    cases outcome with
    | ok => exact (calm.goes _).like (like_answer _ _)
    | fails => exact absurd rfl careful
    | lost => exact calm.goes _
  | openStored task =>
    rw [running] at stage
    exact openStored_stage running stage
  | createTarget task =>
    rw [running] at stage careful
    exact createTarget_stage running stage careful
  | fillTarget task stored =>
    rw [running] at stage
    exact fillTarget_stage running stage.1 stage.2
  | ownTarget task =>
    rw [running] at stage
    exact ownTarget_stage running stage.1 stage.2
  | markRestoring task =>
    rw [running] at stage careful
    exact markRestoring_stage running stage.1 stage.2 careful
  | unlinkStored task =>
    rw [running] at stage careful
    exact unlinkStored_stage running stage.1 stage.2 careful
  | syncStored task =>
    rw [running] at stage careful
    have ok : outcome = .ok := careful
    unfold World.advance
    rw [running, ok]
    exact Landed.like stage (like_goes _ _)
  | unmarkRestoring task =>
    rw [running] at stage careful
    have ok : outcome = .ok := careful
    unfold World.advance
    rw [running, ok]
    exact (stage.1.unmarked stage.2).like (like_goes _ _)
  | dropTarget task =>
    rw [running] at stage careful
    exact dropTarget_stage running stage careful
  | finishRestore task =>
    rw [running] at stage careful
    have calm := Landed.finished stage
    unfold World.advance
    rw [running]
    cases outcome with
    | ok => exact calm.goes _
    | fails => exact absurd rfl careful
    | lost => exact calm.goes _
  | writeIgnored id =>
    rw [running] at stage
    have calm := stage.1.ignored stage.2
    unfold World.advance
    rw [running]
    cases outcome with
    | ok => exact calm.goes _
    | fails => exact stage.1.goes _
    | lost => exact calm.goes _

end

end Boron.Malware
