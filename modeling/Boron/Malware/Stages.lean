import Boron.Malware.Quarantine

namespace Boron.Malware
open List

section
variable {Content Hash : Type} {host : Host Content Hash} {world left : World Content Hash}
  {finding other row : MalwareFinding Hash} {file here : File Content}

theorem File.Same.refl (file : File Content) : file.Same file := ⟨rfl, rfl, rfl, rfl⟩

/-- The copy of a finding in quarantine, with what `restore` needs of its row. -/
structure Shelved (host : Host Content Hash) (world : World Content Hash) (finding : MalwareFinding Hash) : Prop where
  stored : finding.quarantinePath =
    some { username := world.username, findingId := finding.id, fileSha256 := finding.fileSha256 }
  named : world.homeName = world.username
  kept : ∃ file copy original, world.tenantFile finding.relativePath = some file ∧
    world.vault { username := world.username, findingId := finding.id, fileSha256 := finding.fileSha256 } = some copy ∧
    finding.originalMeta = some original ∧ copy.content = file.content ∧ host.sha256 copy.content = finding.fileSha256 ∧
    host.size copy.content ≤ maxFileBytes ∧ original.uid = file.uid ∧ original.gid = file.gid ∧
    original.mode % 0o1000 = file.mode % 0o1000

/-- No call has left anything half done. -/
structure Calm (host : Host Content Hash) (world : World Content Hash) : Prop where
  unique : Rows.Unique MalwareFinding.id world.findings
  settled : ∀ finding ∈ world.findings, finding.status ≠ .quarantining ∧ finding.status ≠ .restoring
  shelved : ∀ finding ∈ world.findings, finding.status = .quarantined →
    Shelved host world finding ∧ world.home finding.relativePath = none
  alone : ∀ finding ∈ world.findings, ∀ other ∈ world.findings, finding.status = .quarantined →
    other.status = .quarantined → finding.relativePath = other.relativePath → finding.id = other.id
  own : ∀ path here, world.home path = some here → ∃ file, world.tenantFile path = some file ∧ here.Same file
  lodged : ∀ path file, world.tenantFile path = some file → (world.home path).isSome = true ∨
    ∃ finding ∈ world.findings, finding.relativePath = path ∧ finding.status = .quarantined

structure Apart (host : Host Content Hash) (world : World Content Hash) (finding : MalwareFinding Hash) : Prop where
  unique : Rows.Unique MalwareFinding.id world.findings
  settled : ∀ other ∈ world.findings, other.id ≠ finding.id → other.status ≠ .quarantining ∧ other.status ≠ .restoring
  shelved : ∀ other ∈ world.findings, other.id ≠ finding.id → other.status = .quarantined →
    Shelved host world other ∧ world.home other.relativePath = none ∧ other.relativePath ≠ finding.relativePath
  alone : ∀ first ∈ world.findings, first.id ≠ finding.id → ∀ second ∈ world.findings, second.id ≠ finding.id →
    first.status = .quarantined → second.status = .quarantined → first.relativePath = second.relativePath →
      first.id = second.id
  own : ∀ path here, path ≠ finding.relativePath → world.home path = some here →
    ∃ file, world.tenantFile path = some file ∧ here.Same file
  lodged : ∀ path file, path ≠ finding.relativePath → world.tenantFile path = some file → (world.home path).isSome = true ∨
    ∃ other ∈ world.findings, other.id ≠ finding.id ∧ other.relativePath = path ∧ other.status = .quarantined

section
variable (calm : Calm host world)
include calm

theorem Calm.holds {path : String} (tenant : world.tenantFile path = some file) : world.Holds path file := by
  rcases calm.lodged path file tenant with present | ⟨finding, member, atPath, quarantined⟩
  · obtain ⟨here, found⟩ := Option.isSome_iff_exists.mp present
    obtain ⟨tenants, owned, same⟩ := calm.own path here found
    rw [tenant] at owned
    cases owned
    exact .inl ⟨here, found, same.content⟩
  · obtain ⟨shelved, -⟩ := calm.shelved finding member quarantined
    obtain ⟨tenants, copy, -, owned, stored, -, content, -⟩ := shelved.kept
    rw [atPath, tenant] at owned
    cases owned
    exact .inr ⟨finding, member, atPath, _, copy, shelved.stored, stored, content⟩

section
variable (member : finding ∈ world.findings)
include member

theorem Calm.eq_of_id (inside : other ∈ world.findings) (same : other.id = finding.id) : other = finding :=
  inj_on_of_nodup_map calm.unique inside member same

theorem Calm.apart_of_present
    (unheld : finding.status ≠ .quarantined) (present : (world.home finding.relativePath).isSome = true) :
    Apart host world finding where
  unique := calm.unique
  settled other inside _ := calm.settled other inside
  shelved other inside _ quarantined := by
    obtain ⟨shelved, gone⟩ := calm.shelved other inside quarantined
    refine ⟨shelved, gone, fun same => ?_⟩
    rw [← same, gone] at present
    cases present
  alone first inFirst _ second inSecond _ := calm.alone first inFirst second inSecond
  own path here _ := calm.own path here
  lodged path file _ tenant := by
    rcases calm.lodged path file tenant with here | ⟨other, inside, atPath, quarantined⟩
    · exact .inl here
    · refine .inr ⟨other, inside, fun same => ?_, atPath, quarantined⟩
      rw [calm.eq_of_id member inside same] at quarantined
      exact unheld quarantined

theorem Calm.apart_of_quarantined (quarantined : finding.status = .quarantined) : Apart host world finding where
  unique := calm.unique
  settled other inside _ := calm.settled other inside
  shelved other inside apart held := by
    obtain ⟨shelved, gone⟩ := calm.shelved other inside held
    exact ⟨shelved, gone, fun same => apart (calm.alone other inside finding member held quarantined same)⟩
  alone first inFirst _ second inSecond _ := calm.alone first inFirst second inSecond
  own path here _ := calm.own path here
  lodged path file elsewhere tenant := by
    rcases calm.lodged path file tenant with here | ⟨other, inside, atPath, held⟩
    · exact .inl here
    · refine .inr ⟨other, inside, fun same => elsewhere ?_, atPath, held⟩
      rw [← atPath, calm.eq_of_id member inside same]

end

end

theorem Apart.calm_of_present (apart : Apart host world finding) (member : row ∈ world.findings) (same : row.id = finding.id)
    (path : row.relativePath = finding.relativePath)
    (unheld : row.status ≠ .quarantined) (settled : row.status ≠ .quarantining ∧ row.status ≠ .restoring)
    (found : world.home finding.relativePath = some here)
    (owned : ∃ file, world.tenantFile finding.relativePath = some file ∧ here.Same file) : Calm host world := by
  have split : ∀ other ∈ world.findings, other = row ∨ other.id ≠ finding.id := by
    intro other inside
    by_cases equal : other.id = finding.id
    · exact .inl (inj_on_of_nodup_map apart.unique inside member (equal.trans same.symm))
    · exact .inr equal
  have others : ∀ other ∈ world.findings, other.status = .quarantined → other.id ≠ finding.id := by
    intro other inside quarantined
    rcases split other inside with rfl | different
    · exact absurd quarantined unheld
    · exact different
  exact {
    unique := apart.unique
    settled := fun other inside => by
      rcases split other inside with rfl | different
      · exact settled
      · exact apart.settled other inside different
    shelved := fun other inside quarantined => by
      obtain ⟨shelved, gone, -⟩ := apart.shelved other inside (others other inside quarantined) quarantined
      exact ⟨shelved, gone⟩
    alone := fun first inFirst second inSecond held held' =>
      apart.alone first inFirst (others first inFirst held) second inSecond (others second inSecond held') held held'
    own := fun place there present => by
      by_cases equal : place = finding.relativePath
      · rw [equal, found] at present
        cases present
        rw [equal]
        exact owned
      · exact apart.own place there equal present
    lodged := fun place file tenant => by
      by_cases equal : place = finding.relativePath
      · left
        rw [equal, found]
        rfl
      · rcases apart.lodged place file equal tenant with present | ⟨other, inside, -, facts⟩
        · exact .inl present
        · exact .inr ⟨other, inside, facts⟩ }

theorem Apart.calm_of_shelved (apart : Apart host world finding) (member : row ∈ world.findings) (same : row.id = finding.id)
    (path : row.relativePath = finding.relativePath) (quarantined : row.status = .quarantined)
    (shelved : Shelved host world row) (gone : world.home finding.relativePath = none) : Calm host world := by
  have split : ∀ other ∈ world.findings, other = row ∨ other.id ≠ finding.id := by
    intro other inside
    by_cases equal : other.id = finding.id
    · exact .inl (inj_on_of_nodup_map apart.unique inside member (equal.trans same.symm))
    · exact .inr equal
  exact {
    unique := apart.unique
    settled := fun other inside => by
      rcases split other inside with rfl | different
      · rw [quarantined]
        exact ⟨nofun, nofun⟩
      · exact apart.settled other inside different
    shelved := fun other inside held => by
      rcases split other inside with rfl | different
      · rw [path]
        exact ⟨shelved, gone⟩
      · obtain ⟨stored, absent, -⟩ := apart.shelved other inside different held
        exact ⟨stored, absent⟩
    alone := fun first inFirst second inSecond held held' equal => by
      rcases split first inFirst with rfl | different
      · rcases split second inSecond with rfl | different'
        · rfl
        · have elsewhere := (apart.shelved second inSecond different' held').2.2
          exact absurd (equal.symm.trans path) elsewhere
      · rcases split second inSecond with rfl | different'
        · have elsewhere := (apart.shelved first inFirst different held).2.2
          exact absurd (equal.trans path) elsewhere
        · exact apart.alone first inFirst different second inSecond different' held held' equal
    own := fun place there present => by
      have equal : place ≠ finding.relativePath := by
        intro equal
        rw [equal, gone] at present
        cases present
      exact apart.own place there equal present
    lodged := fun place file tenant => by
      by_cases equal : place = finding.relativePath
      · exact .inr ⟨row, member, path.trans equal.symm, quarantined⟩
      · rcases apart.lodged place file equal tenant with present | ⟨other, inside, -, facts⟩
        · exact .inl present
        · exact .inr ⟨other, inside, facts⟩ }

theorem mem_setFinding (unique : Rows.Unique MalwareFinding.id world.findings) (member : finding ∈ world.findings)
    {f : MalwareFinding Hash → MalwareFinding Hash} :
    row ∈ (world.setFinding finding.id f).findings ↔
      row = f finding ∨ (row ∈ world.findings ∧ row.id ≠ finding.id) := by
  constructor
  · intro inside
    obtain ⟨old, before, same⟩ := mem_map.mp inside
    by_cases hit : old.id = finding.id
    · rw [if_pos hit, inj_on_of_nodup_map unique before member hit] at same
      exact .inl same.symm
    · rw [if_neg hit] at same
      rw [← same]
      exact .inr ⟨before, hit⟩
  · rintro (rfl | ⟨before, other⟩)
    · refine mem_map.mpr ⟨finding, member, ?_⟩
      rw [if_pos rfl]
    · refine mem_map.mpr ⟨row, before, ?_⟩
      rw [if_neg other]

/-- A step of the call on a finding leaves the rest of the account alone. -/
structure Touches (finding : MalwareFinding Hash) (world left : World Content Hash) : Prop where
  unique : Rows.Unique MalwareFinding.id world.findings → Rows.Unique MalwareFinding.id left.findings
  others : ∀ other, other.id ≠ finding.id → (other ∈ left.findings ↔ other ∈ world.findings)
  home : ∀ path, path ≠ finding.relativePath → left.home path = world.home path
  vault : ∀ stored : StoredPath Hash, stored.findingId ≠ finding.id → left.vault stored = world.vault stored
  username : left.username = world.username
  homeName : left.homeName = world.homeName
  tenantFile : left.tenantFile = world.tenantFile

theorem touches_putHome (world : World Content Hash) (file : Option (File Content)) :
    Touches finding world (world.putHome finding.relativePath file) :=
  ⟨fun unique => unique, fun _ _ => Iff.rfl, fun _ different => Function.update_of_ne different .., fun _ _ => rfl,
    rfl, rfl, rfl⟩

theorem touches_setFinding (world : World Content Hash) {f : MalwareFinding Hash → MalwareFinding Hash}
    (same : ∀ row, (f row).id = row.id) : Touches finding world (world.setFinding finding.id f) := by
  refine ⟨fun unique => Rows.unique_change same unique, fun other different => ?_, fun _ _ => rfl, fun _ _ => rfl, rfl, rfl, rfl⟩
  constructor
  · intro inside
    obtain ⟨old, before, equal⟩ := mem_map.mp inside
    by_cases hit : old.id = finding.id
    · rw [if_pos hit] at equal
      rw [← equal, same old, hit] at different
      exact absurd rfl different
    · rw [if_neg hit] at equal
      rw [← equal]
      exact before
  · intro before
    refine mem_map.mpr ⟨other, before, ?_⟩
    rw [if_neg different]

theorem Shelved.touched (shelved : Shelved host world other) (touches : Touches finding world left)
    (different : other.id ≠ finding.id) : Shelved host left other where
  stored := by
    rw [touches.username]
    exact shelved.stored
  named := by
    rw [touches.homeName, touches.username]
    exact shelved.named
  kept := by
    rw [touches.username, touches.tenantFile, touches.vault _ different]
    exact shelved.kept

theorem Apart.touched (apart : Apart host world finding) (touches : Touches finding world left) : Apart host left finding where
  unique := touches.unique apart.unique
  settled other inside different := apart.settled other ((touches.others other different).mp inside) different
  shelved other inside different held := by
    obtain ⟨shelved, gone, elsewhere⟩ := apart.shelved other ((touches.others other different).mp inside) different held
    refine ⟨shelved.touched touches different, ?_, elsewhere⟩
    rw [touches.home _ elsewhere]
    exact gone
  alone first inFirst apart1 second inSecond apart2 :=
    apart.alone first ((touches.others first apart1).mp inFirst) apart1 second ((touches.others second apart2).mp inSecond) apart2
  own path here elsewhere found := by
    rw [touches.home _ elsewhere] at found
    rw [touches.tenantFile]
    exact apart.own path here elsewhere found
  lodged path file elsewhere tenant := by
    rw [touches.tenantFile] at tenant
    rw [touches.home _ elsewhere]
    rcases apart.lodged path file elsewhere tenant with present | ⟨other, inside, different, facts⟩
    · exact .inl present
    · exact .inr ⟨other, (touches.others other different).mpr inside, different, facts⟩

theorem touches_putVault [DecidableEq Hash] (world : World Content Hash) (file : Option (File Content)) {stored : StoredPath Hash}
    (own : stored.findingId = finding.id) : Touches finding world (world.putVault stored file) := by
  refine ⟨fun unique => unique, fun _ _ => Iff.rfl, fun _ _ => rfl, fun other different => ?_, rfl, rfl, rfl⟩
  refine Function.update_of_ne (fun same => different ?_) ..
  rw [same]
  exact own

end

end Boron.Malware
