import Boron.Lib.Rows
import Boron.Lib.Sys

namespace Boron.Malware

/-- A regular file: its bytes, its owner and its mode. -/
structure File (Content : Type) where
  content : Content
  uid : Nat
  gid : Nat
  mode : Nat

inductive Status
  | active
  | quarantining
  | quarantined
  | restoring
  | restored
  | ignored
  deriving DecidableEq

/-- `original_meta` -/
structure Meta where
  uid : Nat
  gid : Nat
  mode : Nat

/-- `QUARANTINE_ROOT / username / f"{finding.id}-{finding.file_sha256}"` -/
structure StoredPath (Hash : Type) where
  username : String
  findingId : Nat
  fileSha256 : Hash
  deriving DecidableEq

structure MalwareFinding (Hash : Type) where
  id : Nat
  relativePath : String
  fileSha256 : Hash
  status : Status
  quarantinePath : Option (StoredPath Hash)
  originalMeta : Option Meta

/-- The hash and the size of what a file holds, and the file that `O_CREAT` makes. -/
structure Host (Content Hash : Type) where
  sha256 : Content → Hash
  size : Content → Nat
  empty : Content

def maxFileBytes : Nat := 25 * 1024 * 1024

/-- What `quarantine` holds in its variables: the row it has read, the user name, and the source
that it has opened. -/
structure Quarantine (Content Hash : Type) where
  finding : MalwareFinding Hash
  username : String
  source : File Content

def Quarantine.target {Content Hash : Type} (job : Quarantine Content Hash) : StoredPath Hash :=
  { username := job.username, findingId := job.finding.id, fileSha256 := job.finding.fileSha256 }

/-- What `restore` holds in its variables. -/
structure Restore (Hash : Type) where
  finding : MalwareFinding Hash
  username : String
  original : Meta

def Restore.stored {Hash : Type} (job : Restore Hash) : StoredPath Hash :=
  { username := job.username, findingId := job.finding.id, fileSha256 := job.finding.fileSha256 }

/-- The call under way, at its next system call or session. -/
inductive Process (Content Hash : Type)
  | idle
  | quarantine (findingId : Nat)
  | createCopy (job : Quarantine Content Hash)
  | fillCopy (job : Quarantine Content Hash)
  | chargeCopy (job : Quarantine Content Hash)
  | verifyCopy (job : Quarantine Content Hash)
  | markQuarantining (job : Quarantine Content Hash)
  | unlinkSource (job : Quarantine Content Hash)
  | syncSource (job : Quarantine Content Hash)
  | unmarkQuarantining (job : Quarantine Content Hash)
  | dropCopy (job : Quarantine Content Hash)
  | finishQuarantine (job : Quarantine Content Hash)
  | restore (findingId : Nat)
  | openStored (job : Restore Hash)
  | createTarget (job : Restore Hash)
  | fillTarget (job : Restore Hash) (content : Content)
  | ownTarget (job : Restore Hash)
  | markRestoring (job : Restore Hash)
  | unlinkStored (job : Restore Hash)
  | syncStored (job : Restore Hash)
  | unmarkRestoring (job : Restore Hash)
  | dropTarget (job : Restore Hash)
  | finishRestore (job : Restore Hash)
  | ignore (findingId : Nat)
  | writeIgnored (findingId : Nat)

/-- The account under inspection. `tenantFile` and `answer` are in no table: what the tenant has put at a path,
and the finding whose `quarantine` has just returned. -/
structure World (Content Hash : Type) where
  username : String
  /-- The name of its directory under `/home`. -/
  homeName : String
  uid : Nat
  gid : Nat
  findings : List (MalwareFinding Hash)
  home : String → Option (File Content)
  vault : StoredPath Hash → Option (File Content)
  process : Process Content Hash
  tenantFile : String → Option (File Content)
  answer : Option Nat

inductive Operation
  | quarantine (findingId : Nat)
  | restore (findingId : Nat)
  | ignore (findingId : Nat)

/-- How a system call or a session ends. A lost one has taken effect and raises. -/
inductive Outcome
  | ok
  | fails
  | lost
  deriving DecidableEq

/-- How far `rename_account` gets: it also stops between the home directory and the panel's rows. -/
inductive Renaming
  | completes
  | rolledBack
  | interrupted
  deriving DecidableEq

inductive Event (Content Hash : Type)
  | call (operation : Operation)
  /-- The next system call. Where a copy is cut short, `content` is what is in the file. -/
  | next (outcome : Outcome) (content : Content)
  | restart (skipped : Nat → Bool)
  | rename (username : String) (extent : Renaming)
  | scanned (relativePath : String) (fileSha256 : Hash)

section
variable {Content Hash : Type} [DecidableEq Hash]

def findingById (findings : List (MalwareFinding Hash)) (id : Nat) : Option (MalwareFinding Hash) :=
  Rows.byKey MalwareFinding.id findings id

namespace World
variable (host : Host Content Hash) (world : World Content Hash)

def setFinding (id : Nat) (f : MalwareFinding Hash → MalwareFinding Hash) : World Content Hash :=
  { world with findings := Rows.change MalwareFinding.id id f world.findings }

def putHome (path : String) (file : Option (File Content)) : World Content Hash :=
  { world with home := Function.update world.home path file }

def putVault (path : StoredPath Hash) (file : Option (File Content)) : World Content Hash :=
  { world with vault := Function.update world.vault path file }

def goes (process : Process Content Hash) : World Content Hash := { world with process }

/-- `_open_regular(HOME_ROOT / account.username, path)` -/
def openRegular (path : String) : Option (File Content) :=
  if world.homeName = world.username then world.home path else none

/-- What comes before the `try` of `_quarantine_locked`. All of it can raise: the queries, the quota,
the free space, the directories. -/
def beginQuarantine (findingId : Nat) : Option (Quarantine Content Hash) := do
  let finding ← findingById world.findings findingId
  guard (finding.status = .active)
  let source ← world.openRegular finding.relativePath
  some { finding, username := world.username, source }

/-- What comes before the `try` of `restore`. -/
def beginRestore (findingId : Nat) : Option (Restore Hash) := do
  let finding ← findingById world.findings findingId
  guard (finding.status = .quarantined)
  let stored ← finding.quarantinePath
  guard (stored = { username := world.username, findingId := finding.id, fileSha256 := finding.fileSha256 })
  guard (world.homeName = world.username)
  let original := finding.originalMeta.getD { uid := world.uid, gid := world.gid, mode := 0o640 }
  guard (finding.originalMeta.isSome = true ∨ (world.uid ≠ 0 ∧ world.gid ≠ 0))
  some { finding, username := world.username, original }

/-- `row.status, row.quarantine_path, row.original_meta = "active", None, {}` -/
def unmark (finding : MalwareFinding Hash) : MalwareFinding Hash :=
  if finding.status = .quarantining then
    { finding with status := .active, quarantinePath := none, originalMeta := none }
  else finding

def unmarkRestored (finding : MalwareFinding Hash) : MalwareFinding Hash :=
  if finding.status = .restoring then { finding with status := .quarantined } else finding

def statusOf (findingId : Nat) : Option Status := (findingById world.findings findingId).map MalwareFinding.status

/-- One session that writes a row: it has happened, or it has not, and it may raise either way. -/
def session (outcome : Outcome) (findingId : Nat) (f : MalwareFinding Hash → MalwareFinding Hash)
    (done raised : Process Content Hash) : World Content Hash :=
  match outcome with
  | .ok => (world.setFinding findingId f).goes done
  | .fails => world.goes raised
  | .lost => (world.setFinding findingId f).goes raised

/-- The next step of `quarantine`, `restore` or `ignore`. -/
def advance (outcome : Outcome) (content : Content) : World Content Hash :=
  match world.process with
  | .idle => world
  | .quarantine findingId => match outcome, world.beginQuarantine findingId with
    | .ok, some job => world.goes (.createCopy job)
    | _, _ => world.goes .idle
  | .createCopy job =>
    -- `O_EXCL`; the handler deletes the name whoever has made it
    if (world.vault job.target).isSome then world.goes (.dropCopy job)
    else match outcome with
      | .ok => (world.putVault job.target (some ⟨host.empty, 0, 0, 0o600⟩)).goes (.fillCopy job)
      | .fails => world.goes (.dropCopy job)
      | .lost => (world.putVault job.target (some ⟨host.empty, 0, 0, 0o600⟩)).goes (.dropCopy job)
  | .fillCopy job =>
    if maxFileBytes < host.size job.source.content then world.goes (.dropCopy job)
    else match outcome with
      | .ok => (world.putVault job.target (some ⟨job.source.content, 0, 0, 0o600⟩)).goes (.chargeCopy job)
      | _ => (world.putVault job.target (some ⟨content, 0, 0, 0o600⟩)).goes (.dropCopy job)
  | .chargeCopy job => match outcome with
    | .ok => (world.putVault job.target
        ((world.vault job.target).map fun copy => { copy with uid := job.source.uid, gid := job.source.gid })).goes
          (.verifyCopy job)
    | _ => world.goes (.dropCopy job)
  | .verifyCopy job =>
    if outcome = .ok ∧ host.sha256 job.source.content = job.finding.fileSha256 ∧ (world.home job.finding.relativePath).isSome then
      world.goes (.markQuarantining job)
    else world.goes (.dropCopy job)
  | .markQuarantining job =>
    if world.statusOf job.finding.id = some .active then
      world.session outcome job.finding.id (fun finding => { finding with
        status := .quarantining
        quarantinePath := some job.target
        originalMeta := some { uid := job.source.uid, gid := job.source.gid, mode := job.source.mode } })
        (.unlinkSource job) (.dropCopy job)
    else world.goes (.dropCopy job)
  | .unlinkSource job => match outcome with
    | .ok => (world.putHome job.finding.relativePath none).goes (.syncSource job)
    | .fails => world.goes (.unmarkQuarantining job)
    | .lost => (world.putHome job.finding.relativePath none).goes (.unmarkQuarantining job)
  | .syncSource job => match outcome with
    | .ok => world.goes (.finishQuarantine job)
    | _ => world.goes (.unmarkQuarantining job)
  | .unmarkQuarantining job => world.session outcome job.finding.id unmark (.dropCopy job) .idle
  | .dropCopy job => match outcome with
    | .fails => world.goes .idle
    | _ => (world.putVault job.target none).goes .idle
  | .finishQuarantine job =>
    let left := world.session outcome job.finding.id (fun finding => { finding with status := .quarantined }) .idle .idle
    if outcome = .ok then { left with answer := some job.finding.id } else left
  | .restore findingId => match outcome, world.beginRestore findingId with
    | .ok, some job => world.goes (.openStored job)
    | _, _ => world.goes .idle
  | .openStored job =>
    -- the handler finds no target of its own while `target_fd` is `None`
    match outcome, world.vault job.stored with
    | .ok, some stored =>
      if host.sha256 stored.content = job.finding.fileSha256 ∧ host.size stored.content ≤ maxFileBytes then
        world.goes (.createTarget job)
      else world.goes .idle
    | _, _ => world.goes .idle
  | .createTarget job =>
    if (world.home job.finding.relativePath).isSome then world.goes .idle
    else match outcome, world.vault job.stored with
      | .fails, _ => world.goes .idle
      | .ok, some stored =>
        (world.putHome job.finding.relativePath (some ⟨host.empty, 0, 0, 0o600⟩)).goes (.fillTarget job stored.content)
      | _, _ => (world.putHome job.finding.relativePath (some ⟨host.empty, 0, 0, 0o600⟩)).goes .idle
  | .fillTarget job stored => match outcome with
    | .ok => (world.putHome job.finding.relativePath (some ⟨stored, 0, 0, 0o600⟩)).goes (.ownTarget job)
    | _ => (world.putHome job.finding.relativePath (some ⟨content, 0, 0, 0o600⟩)).goes (.dropTarget job)
  | .ownTarget job => match outcome with
    | .ok => (world.putHome job.finding.relativePath ((world.home job.finding.relativePath).map fun target =>
        { target with uid := job.original.uid, gid := job.original.gid, mode := job.original.mode % 0o1000 })).goes (.markRestoring job)
    | _ => world.goes (.dropTarget job)
  | .markRestoring job =>
    if world.statusOf job.finding.id = some .quarantined then
      world.session outcome job.finding.id (fun finding => { finding with status := .restoring })
        (.unlinkStored job) (.dropTarget job)
    else world.goes (.dropTarget job)
  | .unlinkStored job => match outcome with
    | .ok => (world.putVault job.stored none).goes (.syncStored job)
    | .fails => world.goes (.unmarkRestoring job)
    | .lost => (world.putVault job.stored none).goes (.unmarkRestoring job)
  | .syncStored job => match outcome with
    | .ok => world.goes (.finishRestore job)
    | _ => world.goes (.unmarkRestoring job)
  | .unmarkRestoring job => world.session outcome job.finding.id unmarkRestored (.dropTarget job) .idle
  | .dropTarget job => match outcome with
    | .fails => world.goes .idle
    | _ => (world.putHome job.finding.relativePath none).goes .idle
  | .finishRestore job =>
    world.session outcome job.finding.id (fun finding => { finding with status := .restored, quarantinePath := none })
      .idle .idle
  | .ignore findingId =>
    if outcome = .ok ∧ world.statusOf findingId = some .active then world.goes (.writeIgnored findingId)
    else world.goes .idle
  | .writeIgnored findingId =>
    world.session outcome findingId (fun finding => { finding with status := .ignored }) .idle .idle

/-- `reconcile_quarantine_ownership`: a stored file gets its owner back, unless that is skipped. -/
def reconcile (skipped : Nat → Bool) (path : StoredPath Hash) (file : File Content) : File Content :=
  match findingById world.findings path.findingId with
  | none => file
  | some finding =>
    let original := finding.originalMeta.getD { uid := world.uid, gid := world.gid, mode := 0o640 }
    if finding.status = .quarantined ∧ finding.quarantinePath = some path ∧ path.username = world.username ∧
        path.fileSha256 = finding.fileSha256 ∧ 0 < original.uid ∧ 0 < original.gid ∧ skipped finding.id = false then
      { file with uid := original.uid, gid := original.gid }
    else file

def start : Operation → Process Content Hash
  | .quarantine findingId => .quarantine findingId
  | .restore findingId => .restore findingId
  | .ignore findingId => .ignore findingId

def isIdle : Bool := match world.process with
  | .idle => true
  | _ => false

/-- Calls come one after the other. `recover_interrupted` writes no finding. -/
def step (event : Event Content Hash) : World Content Hash :=
  let world := { world with answer := none }
  match event with
  | .call operation => if world.isIdle then world.goes (start operation) else world
  | .next outcome content => advance host world outcome content
  | .restart skipped => { world with
      process := .idle
      vault := fun path => (world.vault path).map (world.reconcile skipped path) }
  | .rename username extent =>
    if world.isIdle && decide (username ≠ world.username) then
      match extent with
      | .completes => { world with username, homeName := username }
      | .rolledBack => world
      | .interrupted => { world with homeName := username }
    else world
  | .scanned relativePath fileSha256 =>
    if world.isIdle then { world with findings := world.findings ++ [{
      id := Rows.next MalwareFinding.id world.findings, relativePath, fileSha256
      status := .active, quarantinePath := none, originalMeta := none }] }
    else world

/-- The account before anything was found. -/
def clean (username : String) (uid gid : Nat) (files : String → Option (File Content)) : World Content Hash where
  username := username
  homeName := username
  uid := uid
  gid := gid
  findings := []
  home := files
  vault _ := none
  process := .idle
  tenantFile := files
  answer := none

end World
end

end Boron.Malware

namespace Boron.Malware

section
variable {Content Hash : Type} [DecidableEq Hash]

/-- The same bytes, owner and permission bits. -/
structure File.Same (file other : File Content) : Prop where
  content : file.content = other.content
  uid : file.uid = other.uid
  gid : file.gid = other.gid
  mode : file.mode % 0o1000 = other.mode % 0o1000

namespace World
variable (host : Host Content Hash) (world : World Content Hash)

/-- The bytes are at the path, or under the quarantine name that a finding of the path records. -/
def Holds (path : String) (file : File Content) : Prop :=
  (∃ here, world.home path = some here ∧ here.content = file.content) ∨
    ∃ finding ∈ world.findings, finding.relativePath = path ∧ ∃ stored copy,
      finding.quarantinePath = some stored ∧ world.vault stored = some copy ∧ copy.content = file.content

/-- A call, and the system calls after it, none of which fails. -/
def completes (operation : Operation) : Nat → World Content Hash
  | 0 => world.step host (.call operation)
  | steps + 1 => (completes operation steps).step host (.next .ok host.empty)

/-- `restore` brings the tenant's file back to its path. -/
def Restorable (finding : MalwareFinding Hash) : Prop :=
  ∃ file, world.tenantFile finding.relativePath = some file ∧
    (world.completes host (.restore finding.id) 9).statusOf finding.id = some .restored ∧
    ∃ here, (world.completes host (.restore finding.id) 9).home finding.relativePath = some here ∧ here.Same file

/-- An operation is offered for the finding and can be used, or the finding is done with. -/
def Usable (finding : MalwareFinding Hash) : Prop :=
  match finding.status with
  | .active => (world.completes host (.ignore finding.id) 2).statusOf finding.id = some .ignored
  | .quarantined => world.Restorable host finding
  | .restored => True
  | .ignored => True
  | .quarantining => False
  | .restoring => False

end World

structure Kept (host : Host Content Hash) (world : World Content Hash) : Prop where
  held : ∀ path file, world.tenantFile path = some file → world.Holds path file
  usable : world.isIdle = true → ∀ finding ∈ world.findings, world.Usable host finding
  answered : ∀ id, world.answer = some id → ∃ finding ∈ world.findings, finding.id = id ∧
    world.home finding.relativePath = none ∧ world.Restorable host finding

/-- A call is between two system calls that only it can bring to an end. -/
def Process.Halfway : Process Content Hash → Prop
  | .unlinkSource _ => True
  | .syncSource _ => True
  | .unmarkQuarantining _ => True
  | .finishQuarantine _ => True
  | .fillTarget _ _ => True
  | .ownTarget _ => True
  | .markRestoring _ => True
  | .unlinkStored _ => True
  | .syncStored _ => True
  | .unmarkRestoring _ => True
  | .dropTarget _ => True
  | .finishRestore _ => True
  | _ => False

/-- A system call does not end in the way that its handler does not expect. -/
def Careful.next (outcome : Outcome) : Process Content Hash → Prop
  | .markQuarantining _ => outcome ≠ .lost
  | .unlinkSource _ => outcome ≠ .lost
  | .syncSource _ => outcome = .ok
  | .unmarkQuarantining _ => outcome ≠ .fails
  | .finishQuarantine _ => outcome ≠ .fails
  | .createTarget _ => outcome ≠ .lost
  | .markRestoring _ => outcome ≠ .lost
  | .unlinkStored _ => outcome ≠ .lost
  | .syncStored _ => outcome = .ok
  | .unmarkRestoring _ => outcome = .ok
  | .dropTarget _ => outcome ≠ .fails
  | .finishRestore _ => outcome ≠ .fails
  | _ => True

def Careful (world : World Content Hash) : Event Content Hash → Prop
  | .next outcome _ => Careful.next outcome world.process
  | .restart _ => ¬ world.process.Halfway
  -- the stored path has the user name in it
  | .rename _ extent => extent ≠ .rolledBack → ∀ finding ∈ world.findings, finding.status ≠ .quarantined
  | _ => True

end

end Boron.Malware
