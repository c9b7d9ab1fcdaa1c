import Mathlib.Algebra.Group.Nat.Defs
import Boron.Lib.Sys
import Boron.Lib.Rows

namespace Boron.StackManager
open Checks

/-- `COMPONENTS` -/
inductive Component | openlitespeed | php | mariadb
  deriving DecidableEq

/-- `ACTIONS` -/
inductive Action | install | update | remove
  deriving DecidableEq

inductive Status | queued | running | completed | failed | cancelled
  deriving DecidableEq

structure StackJob where
  id : Nat
  component : Component
  action : Action
  target : String
  status : Status
  phase : String
  progressPct : Nat
  detail : Option String
  error : Option String
  cancelRequested : Bool

def StackJob.isActive (job : StackJob) : Bool := job.status = .queued || job.status = .running

/-- An account or a domain of one, as far as its PHP version goes. -/
structure Account where
  username : String
  live : Bool
  phpVersion : String

structure Domain where
  domain : String
  username : String
  phpVersion : Option String

structure Hosting where
  accounts : List Account
  domains : List Domain

/-- `version_usage`, its count -/
def versionUsage (hosting : Hosting) (version : String) : Nat :=
  (hosting.accounts.filter fun account => account.phpVersion = version ∧ account.live).length +
    (hosting.domains.filter fun domain => domain.phpVersion = some version ∧
      hosting.accounts.any fun account => account.username = domain.username ∧ account.live).length

structure UpdateState where
  checking : Bool
  checkedAtEpoch : Nat
  pendingUpdateCount : Nat
  error : Option String

def UpdateState.empty : UpdateState := { checking := false, checkedAtEpoch := 0, pendingUpdateCount := 0, error := none }

def updateIntervalSeconds : Nat := 24 * 60 * 60

/-- The packages of the host: those installed under a pattern, those that can be had, and
those of which a newer version can be. -/
structure Packages where
  installed : String → List String
  available : String → Bool
  newer : String → Bool

def phpTargets : List String := ["8.1", "8.2", "8.3", "8.4", "8.5"]

def phpPackageSuffixes : List String := ["", "-common", "-mysql", "-curl", "-opcache", "-intl", "-zip"]

def compact (target : String) : String := String.ofList (target.toList.filter (· ≠ '.'))

def candidates (apt : Packages) (component : Component) (action : Action) (target : String) : Except String (List String) :=
  match component with
  | .openlitespeed => do
    raiseIf (target ≠ "latest-supported") "Unsupported OpenLiteSpeed target"
    return ["openlitespeed"]
  | .php => do
    raiseIf (target ∉ phpTargets) "Unsupported PHP version"
    return if action = .install then phpPackageSuffixes.map fun suffix => "lsphp" ++ compact target ++ suffix
      else apt.installed ("lsphp" ++ compact target ++ "*")
  | .mariadb => do
    raiseIf (target ≠ "10.11") "Only the certified MariaDB 10.11 series is supported"
    let names := if action = .update then apt.installed "mariadb-*" else ["mariadb-server", "mariadb-client"]
    return names.filter fun name => !("-dbgsym".toList.isSuffixOf name.toList)

def packageCatalog (apt : Packages) (component : Component) (action : Action) (target : String) :
    Except String (List String × List String) := do
  raiseIf (action = .remove ∧ component ≠ .php) "Only PHP runtimes can be removed from Stack Manager"
  let names ← candidates apt component action target
  if action = .remove then return (names, [])
  return (names.filter fun name => apt.available name && (action ≠ .update || apt.newer name),
    names.filter fun name => !apt.available name)

structure Request where
  component : Component
  action : Action
  target : String
  confirm : Bool

/-- A PHP version is asked to be removed; nothing else can be. -/
def Request.removes (request : Request) (version : String) : Prop := request.action = .remove ∧ request.target = version

def StackJob.removes (job : StackJob) (version : String) : Prop := job.action = .remove ∧ job.target = version

/-- What a turn finds outside the database: the time, an error that stops it, the packages,
the free disk space, the size of the databases where it can be measured, the path of a
recovery backup, what a check for updates comes to. -/
structure Mark where
  now : Nat
  raises : Option String
  apt : Packages
  free : Nat
  databaseBytes : Option (Option Nat)
  backupPath : String
  checked : Except String Nat

def gib : Nat := 1024 ^ 3

/-- The blockers of `preview`. -/
def blockers (mark : Mark) (hosting : Hosting) (request : Request) (packages : List String) : List String :=
  let removal := request.component = .php ∧ request.action = .remove
  let usage := versionUsage hosting request.target
  (if mark.free < 2 * gib then ["At least 2 GiB of free disk space is required"] else []) ++
  (if request.component = .mariadb ∧ request.action = .update then
    match mark.databaseBytes with
    | none => []
    | some none => ["Could not calculate MariaDB backup space requirements"]
    | some (some bytes) =>
      if 4 * mark.free < 5 * bytes + 8 * gib then
        ["Free disk space must cover a full MariaDB recovery backup plus 2 GiB working space"] else []
    else []) ++
  (if request.action = .update ∧ packages = [] then ["No package updates are currently available for this component"]
    else []) ++
  (if request.action = .install ∧ packages = [] then ["No installable packages are available for this target"] else []) ++
  (if removal ∧ usage ≠ 0 then
    ["PHP " ++ request.target ++ " is still assigned to " ++ toString usage ++ " account or domain setting(s)"] else []) ++
  (if removal ∧ packages = [] then ["PHP " ++ request.target ++ " is not installed"] else [])

/-- `preview`, and what `start` makes of it. -/
def preview (mark : Mark) (hosting : Hosting) (request : Request) : Except String Unit := do
  let (packages, _) ← packageCatalog mark.apt request.component request.action request.target
  let found := blockers mark hosting request packages
  raiseIf (found ≠ []) ("; ".intercalate found)
  raiseIf (request.confirm = false) "Stack maintenance requires confirm=true"

def newJob (id : Nat) (request : Request) : StackJob :=
  { id, component := request.component, action := request.action, target := request.target, status := .queued
    phase := "queued", progressPct := 0, detail := none, error := none, cancelRequested := false }

/-- `_set` -/
def setJob (id : Nat) (f : StackJob → StackJob) (rows : List StackJob) : List StackJob := Rows.change StackJob.id id f rows

theorem preview_unused {mark : Mark} {hosting : Hosting} {request : Request} (ran : preview mark hosting request = .ok ())
    {version : String} (removes : request.removes version) : versionUsage hosting version = 0 := by
  obtain ⟨remove, rfl⟩ := removes
  unfold preview at ran
  simp only [bind_eq_ok, raiseIf_eq_ok] at ran
  obtain ⟨⟨packages, skipped⟩, listed, _, clear, _⟩ := ran
  unfold packageCatalog at listed
  simp only [bind_eq_ok, raiseIf_eq_ok] at listed
  obtain ⟨_, removable, _⟩ := listed
  have php : request.component = .php := by
    by_contra other
    exact removable ⟨remove, other⟩
  by_contra used
  refine clear ?_
  unfold blockers
  simp [php, remove, used]

end Boron.StackManager

namespace Boron.StackManager

inductive Start
  | idle
  | previewing (request : Request)
  | admitting (request : Request)
  | inserting (request : Request)
  | submitting (id : Nat)

inductive Inventory
  | idle
  | marking (state : UpdateState)
  | submitting

/-- Where a `check_updates` stands; it has the lock after `waiting`. -/
inductive Check
  | waiting
  | querying (previous : UpdateState)
  | checking (previous : UpdateState)
  | writing (result : UpdateState)

/-- Where `_run_job` stands after its first write. `failing` is the exception handler. -/
inductive Stage
  | preflight
  | index
  | refreshing
  | simulation
  | examine
  | backup
  | preparing
  | decide
  | cancelling
  | installing
  | install
  | validating
  | validate
  | complete (detail : String)
  | checking (check : Check)
  | failing (error : String)

inductive Item
  | runJob (id : Nat)
  | checkUpdates

/-- What the thread of the executor is at; a job goes on with the row as it was first read. -/
inductive Work
  | begin (id : Nat)
  | job (job : StackJob) (stage : Stage)
  | check (check : Check)

/-- The removals are not stored: the version of each, and who was assigned what at its time. -/
structure Daemon where
  rows : List StackJob
  hosting : Hosting
  updates : UpdateState
  locked : Bool
  queue : List Item
  worker : Option Work
  starts : Nat → Start
  cancels : Nat → Option Nat
  inventories : Nat → Inventory
  checks : Nat → Option Check
  removals : List (String × Hosting)

def Daemon.over (rows : List StackJob) (hosting : Hosting) (updates : UpdateState) (removals : List (String × Hosting)) :
    Daemon :=
  { rows, hosting, updates, locked := false, queue := [], worker := none, starts := fun _ => .idle
    cancels := fun _ => none, inventories := fun _ => .idle, checks := fun _ => none, removals }

def Daemon.fresh : Daemon := .over [] { accounts := [], domains := [] } .empty []

inductive Event
  | call (i : Nat) (request : Request)
  | start (i : Nat) (mark : Mark)
  | cancel (i id : Nat) (mark : Mark)
  | inventory (i : Nat) (mark : Mark)
  | check (i : Nat) (mark : Mark)
  | work (mark : Mark)
  | assign (hosting : Hosting)
  | restart

def Daemon.start (i : Nat) (start : Start) (daemon : Daemon) : Daemon :=
  { daemon with starts := Function.update daemon.starts i start }

def Daemon.inventory (i : Nat) (inventory : Inventory) (daemon : Daemon) : Daemon :=
  { daemon with inventories := Function.update daemon.inventories i inventory }

/-- One turn of `start`. -/
def startTurn (i : Nat) (mark : Mark) (daemon : Daemon) : Daemon :=
  match daemon.starts i with
  | .idle => daemon
  | .previewing request => match preview mark daemon.hosting request with
    | .error _ => daemon.start i .idle
    | .ok () => daemon.start i (.admitting request)
  | .admitting request =>
    if mark.raises.isSome || daemon.rows.any StackJob.isActive then daemon.start i .idle
    else daemon.start i (.inserting request)
  | .inserting request => match mark.raises with
    | some _ => daemon.start i .idle
    | none =>
      let id := Rows.next StackJob.id daemon.rows
      { daemon with rows := daemon.rows ++ [newJob id request] }.start i (.submitting id)
  | .submitting id => match mark.raises with
    | some _ => daemon.start i .idle
    | none => { daemon with queue := daemon.queue ++ [Item.runJob id] }.start i .idle

def cancelDetail : String := "Cancellation requested; the current package-manager transaction will finish safely"

/-- One turn of `cancel`. -/
def cancelTurn (i id : Nat) (mark : Mark) (daemon : Daemon) : Daemon :=
  match daemon.cancels i with
  | none =>
    if (Rows.byKey StackJob.id daemon.rows id).any StackJob.isActive then
      { daemon with cancels := Function.update daemon.cancels i (some id) }
    else daemon
  | some id =>
    let rows := if mark.raises.isSome then daemon.rows
      else setJob id (fun job => { job with cancelRequested := true, detail := some cancelDetail }) daemon.rows
    { daemon with rows, cancels := Function.update daemon.cancels i none }

def UpdateState.due (now : Nat) (state : UpdateState) : Bool :=
  !state.checking && decide (state.checkedAtEpoch + updateIntervalSeconds ≤ now)

/-- One turn of `inventory`. -/
def inventoryTurn (i : Nat) (mark : Mark) (daemon : Daemon) : Daemon :=
  match daemon.inventories i with
  | .idle => if daemon.updates.due mark.now then daemon.inventory i (.marking daemon.updates) else daemon
  | .marking state => match mark.raises with
    | some _ => daemon.inventory i .idle
    | none => { daemon with updates := { state with checking := true } }.inventory i .submitting
  | .submitting => match mark.raises with
    | some _ => daemon.inventory i .idle
    | none => { daemon with queue := daemon.queue ++ [Item.checkUpdates] }.inventory i .idle

inductive Outcome
  | goes (check : Check)
  | returns
  | raises (error : String)

def clip (length : Nat) (text : String) : String := String.ofList (text.toList.take length)

def checkResult (mark : Mark) (previous : UpdateState) : UpdateState :=
  match mark.checked with
  | .ok pending => { checking := false, checkedAtEpoch := mark.now, pendingUpdateCount := pending, error := none }
  | .error error => { previous with checking := false, checkedAtEpoch := mark.now, error := some (clip 2000 error) }

/-- One turn of `check_updates`. -/
def checkTurn (mark : Mark) (daemon : Daemon) : Check → Outcome × Daemon
  | .waiting =>
    if daemon.locked then (.goes .waiting, daemon)
    else (.goes (.querying daemon.updates), { daemon with locked := true })
  | .querying previous => match mark.raises with
    | some error => (.raises error, { daemon with locked := false })
    | none =>
      if daemon.rows.any StackJob.isActive then
        (.goes (.writing { previous with
          checking := false, error := some "Update check deferred while stack maintenance is active" }), daemon)
      else (.goes (.checking previous), daemon)
  | .checking previous => (.goes (.writing (checkResult mark previous)), daemon)
  | .writing result => match mark.raises with
    | some error => (.raises error, { daemon with locked := false })
    | none => (.returns, { daemon with locked := false, updates := result })

/-- A call of `check_updates`; call 0 is `_stack_update_check_loop`, which only makes one that is due. -/
def callTurn (i : Nat) (mark : Mark) (daemon : Daemon) : Daemon :=
  match daemon.checks i with
  | none =>
    if i = 0 ∧ daemon.updates.due mark.now = false then daemon
    else { daemon with checks := Function.update daemon.checks i (some .waiting) }
  | some check =>
    let (outcome, after) := checkTurn mark daemon check
    let next := match outcome with
      | .goes check => some check
      | .returns | .raises _ => none
    { after with checks := Function.update after.checks i next }

def toPhase (phase : String) (progressPct : Nat) (detail : String) (job : StackJob) : StackJob :=
  { job with phase, progressPct, detail := some detail }

/-- The first write of `_run_job`. -/
def beginJob (job : StackJob) : StackJob := { job with status := .running, phase := "preflight", progressPct := 5 }

/-- One turn of `_run_job` in which nothing raises: where it goes, and its `_set`. -/
def stageTurn (mark : Mark) (job : StackJob) (current : Option StackJob) : Stage → Option Stage × (StackJob → StackJob)
  | .preflight => (some .index, id)
  | .index => (some .refreshing, toPhase "package-index" 20 "Refreshing package metadata")
  | .refreshing => match packageCatalog mark.apt job.component job.action job.target with
    | .error error => (some (.failing error), id)
    | .ok (packages, _) =>
      if packages ≠ [] then (some .simulation, id)
      else if job.action = .update then (some (.complete "Already current; no package updates are available"), id)
      else (some (.failing "No installable packages are available for this target"), id)
  | .simulation => (some .examine, toPhase "simulation" 30 "Simulating the package transaction")
  | .examine => (some (if job.component = .mariadb ∧ job.action = .update then .backup else .decide), id)
  | .backup => (some .preparing, toPhase "backup" 38 "Creating and preparing a full MariaDB recovery backup")
  | .preparing =>
    (some .decide, fun row => { row with detail := some ("Prepared recovery backup at " ++ mark.backupPath) })
  | .decide => (some (if current.any StackJob.cancelRequested then .cancelling else .installing), id)
  | .cancelling => (none, fun row => { row with status := .cancelled, phase := "cancelled" })
  | .installing => (some .install, toPhase "installing" 45 "Installing validated packages")
  | .install => (some .validating, id)
  | .validating => (some .validate, toPhase "validating" 85 "Validating service configuration")
  | .validate => (some (.complete "Stack maintenance completed"), id)
  | .complete detail =>
    (some (.checking .waiting),
      fun row => { row with status := .completed, phase := "complete", progressPct := 100, detail := some detail })
  | .checking check => (some (.checking check), id)
  | .failing error => (none, fun row => { row with status := .failed, phase := "failed", error := some (clip 4000 error) })

/-- The thread goes on after a `_set` of its job. -/
def Daemon.goes (job : StackJob) (next : Option Stage × (StackJob → StackJob)) (daemon : Daemon) : Daemon :=
  { daemon with rows := setJob job.id next.2 daemon.rows, worker := next.1.map (.job job) }

/-- The package manager is run; a removal counts even if it breaks off. -/
def Daemon.attempt (job : StackJob) (stage : Stage) (daemon : Daemon) : Daemon :=
  match stage with
  | .install =>
    if job.action = .remove then { daemon with removals := daemon.removals ++ [(job.target, daemon.hosting)] } else daemon
  | _ => daemon

/-- One turn of `_run_job` after its first write. -/
def jobTurn (mark : Mark) (job : StackJob) (stage : Stage) (daemon : Daemon) : Daemon :=
  match stage with
  | .checking check =>
    let (outcome, after) := checkTurn mark daemon check
    match outcome with
    | .goes check => { after with worker := some (.job job (.checking check)) }
    | .returns => { after with worker := none }
    | .raises error => { after with worker := some (.job job (.failing error)) }
  | .failing error => match mark.raises with
    | some _ => { daemon with worker := none }
    | none => daemon.goes job (stageTurn mark job none (.failing error))
  | stage => match mark.raises with
    | some error => (daemon.attempt job stage).goes job (some (.failing error), id)
    | none => (daemon.attempt job stage).goes job
        (stageTurn mark job (Rows.byKey StackJob.id daemon.rows job.id) stage)

def workTurn (mark : Mark) (daemon : Daemon) : Daemon :=
  match daemon.worker with
  | none => match daemon.queue with
    | [] => daemon
    | .runJob id :: rest => { daemon with queue := rest, worker := some (.begin id) }
    | .checkUpdates :: rest => { daemon with queue := rest, worker := some (.check .waiting) }
  | some (.begin id) => match mark.raises, Rows.byKey StackJob.id daemon.rows id with
    | none, some row =>
      { daemon with rows := setJob id beginJob daemon.rows, worker := some (.job (beginJob row) .preflight) }
    | _, _ => { daemon with worker := none }
  | some (.job job stage) => jobTurn mark job stage daemon
  | some (.check check) =>
    let (outcome, after) := checkTurn mark daemon check
    match outcome with
    | .goes check => { after with worker := some (.check check) }
    | .returns | .raises _ => { after with worker := none }

def Daemon.step (event : Event) (daemon : Daemon) : Daemon :=
  match event with
  | .call i request => match daemon.starts i with
    | .idle => daemon.start i (.previewing request)
    | _ => daemon
  | .start i mark => startTurn i mark daemon
  | .cancel i id mark => cancelTurn i id mark daemon
  | .inventory i mark => inventoryTurn i mark daemon
  | .check i mark => callTurn i mark daemon
  | .work mark => workTurn mark daemon
  | .assign hosting => { daemon with hosting }
  | .restart => .over daemon.rows daemon.hosting daemon.updates daemon.removals

end Boron.StackManager
