import Boron.Malware.Stages
import Mathlib.Data.Option.Basic

namespace Boron.Malware

section
variable {Content Hash : Type}

/-- The row that the session of `quarantine` writes. -/
def Quarantine.marked (job : Quarantine Content Hash) : MalwareFinding Hash :=
  { job.finding with
    status := .quarantining
    quarantinePath := some job.target
    originalMeta := some { uid := job.source.uid, gid := job.source.gid, mode := job.source.mode } }

def Restore.marked (job : Restore Hash) : MalwareFinding Hash := { job.finding with status := .restoring }

section
variable (host : Host Content Hash) (world : World Content Hash)

structure Copying (job : Quarantine Content Hash) : Prop where
  calm : Calm host world
  member : job.finding ∈ world.findings
  active : job.finding.status = .active
  username : job.username = world.username
  named : world.homeName = world.username
  source : world.home job.finding.relativePath = some job.source

structure Filled (job : Quarantine Content Hash) : Prop where
  copy : ∃ copy, world.vault job.target = some copy ∧ copy.content = job.source.content
  size : host.size job.source.content ≤ maxFileBytes

/-- The row is `quarantining`. -/
structure Marked (job : Quarantine Content Hash) : Prop where
  apart : Apart host world job.finding
  row : job.marked ∈ world.findings
  username : job.username = world.username
  named : world.homeName = world.username
  tenant : ∃ file, world.tenantFile job.finding.relativePath = some file ∧ job.source.Same file
  filled : Filled host world job
  sha256 : host.sha256 job.source.content = job.finding.fileSha256

/-- `restore` has found its row and has not touched the target. -/
structure Reading (job : Restore Hash) : Prop where
  calm : Calm host world
  member : job.finding ∈ world.findings
  quarantined : job.finding.status = .quarantined
  username : job.username = world.username
  original : job.finding.originalMeta = some job.original

/-- The target is being written. -/
structure Landing (job : Restore Hash) : Prop where
  apart : Apart host world job.finding
  member : job.finding ∈ world.findings
  quarantined : job.finding.status = .quarantined
  username : job.username = world.username
  original : job.finding.originalMeta = some job.original
  shelved : Shelved host world job.finding

/-- The target is complete, and the row is `restoring`. -/
structure Landed (job : Restore Hash) : Prop where
  apart : Apart host world job.finding
  row : job.marked ∈ world.findings
  quarantined : job.finding.status = .quarantined
  username : job.username = world.username
  original : job.finding.originalMeta = some job.original
  here : ∃ file here, world.tenantFile job.finding.relativePath = some file ∧
    world.home job.finding.relativePath = some here ∧ here.Same file

/-- What holds before the next system call. -/
def Stage : Prop :=
  match world.process with
  | .idle => Calm host world
  | .quarantine _ => Calm host world
  | .createCopy job => Copying host world job
  | .fillCopy job => Copying host world job
  | .chargeCopy job => Copying host world job ∧ Filled host world job
  | .verifyCopy job => Copying host world job ∧ Filled host world job
  | .markQuarantining job => Copying host world job ∧ Filled host world job ∧
      host.sha256 job.source.content = job.finding.fileSha256
  | .unlinkSource job => Marked host world job ∧ world.home job.finding.relativePath = some job.source
  | .unmarkQuarantining job => Marked host world job ∧ world.home job.finding.relativePath = some job.source
  | .syncSource job => Marked host world job ∧ world.home job.finding.relativePath = none
  | .finishQuarantine job => Marked host world job ∧ world.home job.finding.relativePath = none
  | .dropCopy job => Calm host world ∧ ∃ row ∈ world.findings, row.id = job.finding.id ∧ row.status = .active
  | .restore _ => Calm host world
  | .openStored job => Reading host world job
  | .createTarget job => Reading host world job
  | .fillTarget job stored => Landing host world job ∧
      ∃ file, world.tenantFile job.finding.relativePath = some file ∧ stored = file.content
  | .ownTarget job => Landing host world job ∧ ∃ file here, world.tenantFile job.finding.relativePath = some file ∧
      world.home job.finding.relativePath = some here ∧ here.content = file.content
  | .markRestoring job => Landing host world job ∧ ∃ file here, world.tenantFile job.finding.relativePath = some file ∧
      world.home job.finding.relativePath = some here ∧ here.Same file
  | .dropTarget job => Landing host world job
  | .unlinkStored job => Landed host world job ∧ Shelved host world job.marked
  | .unmarkRestoring job => Landed host world job ∧ Shelved host world job.marked
  | .syncStored job => Landed host world job
  | .finishRestore job => Landed host world job
  | .ignore _ => Calm host world
  | .writeIgnored findingId => Calm host world ∧ ∃ row ∈ world.findings, row.id = findingId ∧ row.status = .active

end

variable {host : Host Content Hash} {world left : World Content Hash} {finding : MalwareFinding Hash}
  {job : Quarantine Content Hash} {task : Restore Hash} {outcome : Outcome} {content : Content}

theorem findingById_eq (unique : Rows.Unique MalwareFinding.id world.findings) (member : finding ∈ world.findings) :
    findingById world.findings finding.id = some finding := Rows.byKey_of_mem unique member

theorem statusOf_eq (unique : Rows.Unique MalwareFinding.id world.findings) (member : finding ∈ world.findings) :
    world.statusOf finding.id = some finding.status := by
  unfold World.statusOf
  rw [findingById_eq unique member]
  rfl

theorem statusOf_some {id : Nat} {status : Status} (known : world.statusOf id = some status) :
    ∃ row ∈ world.findings, row.id = id ∧ row.status = status := by
  obtain ⟨row, found, is⟩ := Option.map_eq_some_iff.mp known
  obtain ⟨member, same⟩ := Rows.byKey_some found
  exact ⟨row, member, same, is⟩

theorem beginQuarantine_some {id : Nat} (begun : world.beginQuarantine id = some job) :
    job.finding ∈ world.findings ∧ job.finding.status = .active ∧ job.username = world.username ∧
      world.homeName = world.username ∧ world.home job.finding.relativePath = some job.source := by
  unfold World.beginQuarantine at begun
  simp only [Option.bind_eq_bind, Option.bind_eq_some_iff, Option.guard_eq_some'] at begun
  obtain ⟨finding, found, -, active, source, opened, same⟩ := begun
  cases same
  unfold World.openRegular at opened
  split at opened
  · next named => exact ⟨(Rows.byKey_some found).1, active, rfl, named, opened⟩
  · cases opened

theorem beginRestore_some [DecidableEq Hash] {id : Nat} (calm : Calm host world) (begun : world.beginRestore id = some task) :
    Reading host world task := by
  unfold World.beginRestore at begun
  simp only [Option.bind_eq_bind, Option.bind_eq_some_iff, Option.guard_eq_some'] at begun
  obtain ⟨finding, found, -, quarantined, stored, -, -, -, -, -, -, -, same⟩ := begun
  cases same
  have member := (Rows.byKey_some found).1
  obtain ⟨-, -, original, -, -, kept, -⟩ := (calm.shelved finding member quarantined).1.kept
  refine ⟨calm, member, quarantined, rfl, ?_⟩
  rw [kept]
  rfl

theorem Calm.putVault [DecidableEq Hash] (calm : Calm host world) {row : MalwareFinding Hash} (member : row ∈ world.findings)
    (active : row.status = .active) {stored : StoredPath Hash} (own : stored.findingId = row.id)
    (file : Option (File Content)) : Calm host (world.putVault stored file) := by
  have touches : Touches row world (world.putVault stored file) := touches_putVault world file own
  exact {
    unique := calm.unique
    settled := calm.settled
    shelved := fun finding inside quarantined => by
      obtain ⟨shelved, gone⟩ := calm.shelved finding inside quarantined
      refine ⟨shelved.touched touches fun same => ?_, gone⟩
      rw [calm.eq_of_id member inside same, active] at quarantined
      cases quarantined
    alone := calm.alone
    own := calm.own
    lodged := calm.lodged }

section
variable (copying : Copying host world job)
include copying

theorem Copying.putVault [DecidableEq Hash] (file : Option (File Content)) :
    Copying host (world.putVault job.target file) job where
  calm := copying.calm.putVault copying.member copying.active rfl file
  member := copying.member
  active := copying.active
  username := copying.username
  named := copying.named
  source := copying.source

theorem Copying.drops : Calm host world ∧ ∃ row ∈ world.findings, row.id = job.finding.id ∧ row.status = .active :=
  ⟨copying.calm, job.finding, copying.member, rfl, copying.active⟩

theorem Copying.tenant : ∃ file, world.tenantFile job.finding.relativePath = some file ∧ job.source.Same file :=
  copying.calm.own _ _ copying.source

theorem Copying.mark (filled : Filled host world job)
    (sha256 : host.sha256 job.source.content = job.finding.fileSha256) :
    Marked host (world.setFinding job.finding.id fun finding => { finding with
      status := .quarantining
      quarantinePath := some job.target
      originalMeta := some { uid := job.source.uid, gid := job.source.gid, mode := job.source.mode } }) job := by
  have present : (world.home job.finding.relativePath).isSome = true := by
    rw [copying.source]
    rfl
  have unheld : job.finding.status ≠ .quarantined := by
    rw [copying.active]
    nofun
  have apart := copying.calm.apart_of_present copying.member unheld present
  refine ⟨apart.touched (touches_setFinding world fun _ => rfl), ?_, copying.username, copying.named, copying.tenant,
    ⟨filled.copy, filled.size⟩, sha256⟩
  exact (mem_setFinding copying.calm.unique copying.member).mpr (.inl rfl)

end

section
variable (marked : Marked host world job)
include marked

theorem Marked.touched (touches : Touches job.finding world left)
    (findings : left.findings = world.findings) (vault : left.vault = world.vault) : Marked host left job where
  apart := marked.apart.touched touches
  row := by
    rw [findings]
    exact marked.row
  username := by
    rw [touches.username]
    exact marked.username
  named := by
    rw [touches.homeName, touches.username]
    exact marked.named
  tenant := by
    rw [touches.tenantFile]
    exact marked.tenant
  filled := by
    refine ⟨?_, marked.filled.size⟩
    rw [vault]
    exact marked.filled.copy
  sha256 := marked.sha256

theorem Marked.unmarked (source : world.home job.finding.relativePath = some job.source) :
    Calm host (world.setFinding job.finding.id World.unmark) ∧
      ∃ row ∈ (world.setFinding job.finding.id World.unmark).findings, row.id = job.finding.id ∧ row.status = .active := by
  have keeps (row : MalwareFinding Hash) : (World.unmark row).id = row.id := by
    unfold World.unmark
    split <;> rfl
  have apart := marked.apart.touched (touches_setFinding world keeps)
  have row : World.unmark job.marked ∈ (world.setFinding job.finding.id World.unmark).findings :=
    (@mem_setFinding Content Hash world job.marked _ marked.apart.unique marked.row World.unmark).mpr (.inl rfl)
  exact ⟨apart.calm_of_present row rfl rfl nofun ⟨nofun, nofun⟩ source marked.tenant, _, row, rfl, rfl⟩

theorem Marked.shelved : Shelved host world { job.marked with status := .quarantined } := by
  have target : job.target = ⟨world.username, job.finding.id, job.finding.fileSha256⟩ := by
    unfold Quarantine.target
    rw [marked.username]
  obtain ⟨file, owned, same⟩ := marked.tenant
  obtain ⟨copy, stored, content⟩ := marked.filled.copy
  refine ⟨congrArg some target, marked.named, file, copy, _, owned, ?_, rfl, content.trans same.content, ?_, ?_, same.uid,
    same.gid, same.mode⟩
  · exact target ▸ stored
  · rw [content]
    exact marked.sha256
  · rw [content]
    exact marked.filled.size

theorem Marked.finished (gone : world.home job.finding.relativePath = none) :
    Calm host (world.setFinding job.finding.id fun finding => { finding with status := .quarantined }) ∧
      { job.marked with status := .quarantined } ∈
        (world.setFinding job.finding.id fun finding => { finding with status := .quarantined }).findings := by
  have touches : Touches job.finding world
      (world.setFinding job.finding.id fun finding => { finding with status := .quarantined }) :=
    touches_setFinding world fun _ => rfl
  have row : { job.marked with status := .quarantined } ∈
      (world.setFinding job.finding.id fun finding => { finding with status := .quarantined }).findings :=
    (@mem_setFinding Content Hash world job.marked _ marked.apart.unique marked.row
      fun finding => { finding with status := .quarantined }).mpr (.inl rfl)
  refine ⟨(marked.apart.touched touches).calm_of_shelved row rfl rfl rfl ?_ gone, row⟩
  exact ⟨marked.shelved.stored, marked.shelved.named, marked.shelved.kept⟩

end

theorem Reading.shelved (reading : Reading host world task) :
    Shelved host world task.finding ∧ world.home task.finding.relativePath = none :=
  reading.calm.shelved task.finding reading.member reading.quarantined

theorem Reading.stored (reading : Reading host world task) :
    ∃ file copy, world.tenantFile task.finding.relativePath = some file ∧ world.vault task.stored = some copy ∧
      copy.content = file.content ∧ host.sha256 copy.content = task.finding.fileSha256 ∧
      host.size copy.content ≤ maxFileBytes := by
  obtain ⟨file, copy, -, owned, stored, -, content, sha256, size, -⟩ := reading.shelved.1.kept
  refine ⟨file, copy, owned, ?_, content, sha256, size⟩
  unfold Restore.stored
  rw [reading.username]
  exact stored

theorem Shelved.putHome (shelved : Shelved host world finding) (path : String) (file : Option (File Content)) :
    Shelved host (world.putHome path file) finding := ⟨shelved.stored, shelved.named, shelved.kept⟩

theorem Reading.lands (reading : Reading host world task) (file : Option (File Content)) :
    Landing host (world.putHome task.finding.relativePath file) task where
  apart := (reading.calm.apart_of_quarantined reading.member reading.quarantined).touched (touches_putHome world file)
  member := reading.member
  quarantined := reading.quarantined
  username := reading.username
  original := reading.original
  shelved := reading.shelved.1.putHome _ file

theorem Landing.putHome (landing : Landing host world task) (file : Option (File Content)) :
    Landing host (world.putHome task.finding.relativePath file) task where
  apart := landing.apart.touched (touches_putHome world file)
  member := landing.member
  quarantined := landing.quarantined
  username := landing.username
  original := landing.original
  shelved := landing.shelved.putHome _ file

theorem putHome_own (world : World Content Hash) (path : String) (file : Option (File Content)) :
    (world.putHome path file).home path = file := Function.update_self ..

/-- Owner and mode come from the row. -/
theorem Landing.owned (landing : Landing host world task) {file here : File Content}
    (tenant : world.tenantFile task.finding.relativePath = some file) (content : here.content = file.content) :
    File.Same { here with uid := task.original.uid, gid := task.original.gid, mode := task.original.mode % 0o1000 } file := by
  obtain ⟨other, -, original, owned, -, held, -, -, -, uid, gid, mode⟩ := landing.shelved.kept
  rw [tenant] at owned
  cases owned
  rw [landing.original] at held
  cases held
  refine ⟨content, uid, gid, ?_⟩
  rw [← mode]
  exact Nat.mod_mod _ _

theorem Landing.mark (landing : Landing host world task) (here : ∃ file here,
    world.tenantFile task.finding.relativePath = some file ∧ world.home task.finding.relativePath = some here ∧ here.Same file) :
    Landed host (world.setFinding task.finding.id fun finding => { finding with status := .restoring }) task ∧
      Shelved host (world.setFinding task.finding.id fun finding => { finding with status := .restoring }) task.marked := by
  refine ⟨⟨landing.apart.touched (touches_setFinding world fun _ => rfl), ?_, landing.quarantined, landing.username,
    landing.original, here⟩,
    landing.shelved.stored, landing.shelved.named, landing.shelved.kept⟩
  exact (mem_setFinding landing.apart.unique landing.member).mpr (.inl rfl)

theorem Landing.dropped (landing : Landing host world task) : Calm host (world.putHome task.finding.relativePath none) := by
  have dropped := landing.putHome none
  exact dropped.apart.calm_of_shelved dropped.member rfl rfl dropped.quarantined dropped.shelved (putHome_own ..)

theorem Landed.unmarked (landed : Landed host world task) (shelved : Shelved host world task.marked) :
    Landing host (world.setFinding task.finding.id World.unmarkRestored) task := by
  have keeps (row : MalwareFinding Hash) : (World.unmarkRestored row).id = row.id := by
    unfold World.unmarkRestored
    split <;> rfl
  have is : World.unmarkRestored task.marked = task.finding := by
    have quarantined := landed.quarantined
    obtain ⟨⟨id, path, sha256, status, stored, held⟩, username, identity⟩ := task
    cases quarantined
    rfl
  have row : World.unmarkRestored task.marked ∈ (world.setFinding task.finding.id World.unmarkRestored).findings :=
    (@mem_setFinding Content Hash world task.marked _ landed.apart.unique landed.row World.unmarkRestored).mpr (.inl rfl)
  rw [is] at row
  exact ⟨landed.apart.touched (touches_setFinding world keeps), row, landed.quarantined, landed.username, landed.original,
    shelved.stored, shelved.named, shelved.kept⟩

theorem Landed.putVault [DecidableEq Hash] (landed : Landed host world task) : Landed host (world.putVault task.stored none) task where
  apart := landed.apart.touched (touches_putVault world none rfl)
  row := landed.row
  quarantined := landed.quarantined
  username := landed.username
  original := landed.original
  here := landed.here

theorem Landed.finished (landed : Landed host world task) : Calm host (world.setFinding task.finding.id fun finding =>
    { finding with status := .restored, quarantinePath := none }) := by
  have touches : Touches task.finding world (world.setFinding task.finding.id fun finding =>
      { finding with status := .restored, quarantinePath := none }) := touches_setFinding world fun _ => rfl
  have row : { task.marked with status := .restored, quarantinePath := none } ∈ (world.setFinding task.finding.id fun finding =>
      { finding with status := .restored, quarantinePath := none }).findings :=
    (@mem_setFinding Content Hash world task.marked _ landed.apart.unique landed.row
      fun finding => { finding with status := .restored, quarantinePath := none }).mpr (.inl rfl)
  obtain ⟨file, here, tenant, found, same⟩ := landed.here
  exact (landed.apart.touched touches).calm_of_present row rfl rfl nofun ⟨nofun, nofun⟩ found ⟨file, tenant, same⟩

end

end Boron.Malware
