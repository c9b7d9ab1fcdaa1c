import Mathlib

namespace Boron.Isolation

/-- How an inspection ends: with its value, with a missing file, as for a process
that is gone, or with another `OSError`. -/
inductive Attempt
  | works
  | gone
  | denied
  deriving DecidableEq

inductive Look (α : Type)
  | value (value : α)
  | notFound
  | denied

/-- What an inspection of something says; `none` is what is not there. -/
def Attempt.look {α : Type} (attempt : Attempt) (truth : Option α) : Look α :=
  match attempt, truth with
  | .works, some value => .value value
  | .works, none | .gone, _ => .notFound
  | .denied, _ => .denied

/-- `st_mode` and `st_uid` of a directory or a file. -/
structure Home where
  directory : Bool
  uid : Nat
  mode : Nat

/-- `st_dev` and `st_ino`. -/
abbrev Inode := Nat × Nat

/-- A live PHP worker: what it has, and how each inspection of it ends. -/
structure Worker where
  pid : Nat
  pidNamespace : Nat
  mountNamespace : Nat
  mountinfo : List (List String)
  tmp : Inode
  home : Option Home
  peerHome : Option Home
  homeStat : Attempt
  peerHomeLstat : Attempt
  rootStat : Attempt
  pidStat : Attempt
  hostMountStat : Attempt
  mountStat : Attempt
  mountinfoRead : Attempt
  hostTmpStat : Attempt
  tmpStat : Attempt

/-- The host and the account when the test runs. `ownRun` and `peerRun` are the
commands run where there is no worker, `cgroup` is whether the account's cgroup
exists, where its Linux identity was available. -/
structure Scene where
  uid : Nat
  enabled : Bool
  bubblewrapConfigured : Bool
  other : Option String
  workers : List Worker
  ownRun : Bool
  peerRun : Bool
  hostPidStat : Attempt
  hostPidNamespace : Nat
  hostMountNamespace : Nat
  hostTmp : Inode
  cgroup : Option Bool
  fileManagerStatus : String
  fileManagerExplanation : String

/-- A mount point `/tmp` of a mount table. -/
def listsTmp (mountinfo : List (List String)) : Bool := mountinfo.any fun fields => fields[4]? == some "/tmp"

def privateTmpObserved (worker : Worker) (hostTmp : Option Inode) : Bool :=
  if listsTmp worker.mountinfo then true
  else match hostTmp with
    | none => false
    | some host => match worker.tmpStat.look (some worker.tmp) with
      | .value tmp => tmp != host
      | .notFound | .denied => false

def Home.readable (home : Home) (uid : Nat) : Bool := home.directory && home.uid == uid && home.mode &&& 0o500 == 0o500

/-- `_filesystem_home_checks`: the own home, and the other account's. -/
def filesystemHomeChecks (uid : Nat) (other : Option String) (worker : Worker) : Option Bool × Option Bool :=
  let readable := match worker.homeStat.look worker.home with
    | .value own => own.readable uid
    | .notFound | .denied => false
  let hidden := other.map fun _ => match worker.peerHomeLstat.look worker.peerHome with
    | .value _ => false
    | .notFound => true
    | .denied => false
  match worker.rootStat.look (some ()) with
  | .value _ => (some readable, hidden)
  | .notFound => (none, none)
  | .denied => (some false, other.map fun _ => false)

def combineObservedChecks (values : List (Option Bool)) : Option Bool :=
  if some false ∈ values then some false else if ∀ value ∈ values, value = some true then some true else none

inductive WorkerStatus
  | verified
  | failed
  | exitedDuringCheck
  | inspectionFailed
  deriving DecidableEq

inductive ProcessIsolation
  | configuredNoLiveWorker
  | notConfigured
  | failed
  | inspectionFailed
  | verified
  deriving DecidableEq

def workerStatus (hostPidNamespace : Nat) (worker : Worker) : WorkerStatus :=
  match worker.pidStat.look (some worker.pidNamespace) with
  | .value namespace_ => if namespace_ ≠ hostPidNamespace then .verified else .failed
  | .notFound => .exitedDuringCheck
  | .denied => .inspectionFailed

/-- The mount namespace and the `/tmp` of a worker. -/
def inspectMounts (scene : Scene) (worker : Worker) : Option Bool × Option Bool :=
  match worker.hostMountStat.look (some scene.hostMountNamespace), worker.mountStat.look (some worker.mountNamespace),
      worker.mountinfoRead.look (some ()) with
  | .value host, .value own, .value _ =>
    let hostTmp := match worker.hostTmpStat.look (some scene.hostTmp) with
      | .value tmp => some tmp
      | .notFound | .denied => none
    (some (own != host), some (privateTmpObserved worker hostTmp))
  | _, _, _ => (none, none)

def comparedWorkers (scene : Scene) : List Worker :=
  match scene.hostPidStat.look (some ()) with
  | .value _ => scene.workers
  | .notFound | .denied => []

def workerStatuses (scene : Scene) : List WorkerStatus := (comparedWorkers scene).map (workerStatus scene.hostPidNamespace)

def processIsolation (scene : Scene) : ProcessIsolation :=
  if scene.workers = [] then if scene.bubblewrapConfigured then .configuredNoLiveWorker else .notConfigured
  else match scene.hostPidStat.look (some ()) with
    | .notFound | .denied => .inspectionFailed
    | .value _ =>
      if .failed ∈ workerStatuses scene then .failed
      else if .inspectionFailed ∈ workerStatuses scene then .inspectionFailed
      else if ∀ status ∈ workerStatuses scene, status = .verified then .verified
      else .configuredNoLiveWorker

def ownReadable (scene : Scene) : Option Bool :=
  if scene.workers ≠ [] then
    combineObservedChecks (scene.workers.map fun worker => (filesystemHomeChecks scene.uid scene.other worker).1)
  else if scene.bubblewrapConfigured then none
  else some scene.ownRun

def otherHidden (scene : Scene) : Option Bool :=
  if scene.workers ≠ [] then
    if scene.other.isSome then
      combineObservedChecks (scene.workers.map fun worker => (filesystemHomeChecks scene.uid scene.other worker).2)
    else none
  else if scene.bubblewrapConfigured then none
  else scene.other.map fun _ => scene.peerRun

def mountPrivate (scene : Scene) : Option Bool :=
  if comparedWorkers scene = [] then none
  else combineObservedChecks ((comparedWorkers scene).map fun worker => (inspectMounts scene worker).1)

def tmpPrivate (scene : Scene) : Option Bool :=
  if comparedWorkers scene = [] then none
  else combineObservedChecks ((comparedWorkers scene).map fun worker => (inspectMounts scene worker).2)

inductive CheckStatus
  | passed
  | failed
  | notVerifiable
  deriving DecidableEq

structure Check where
  name : String
  status : CheckStatus
  explanation : String

def resourceStatus (scene : Scene) : CheckStatus :=
  match scene.cgroup with
  | none => .notVerifiable
  | some true => .passed
  | some false => .failed

def fileManagerStatus (scene : Scene) : CheckStatus :=
  if scene.fileManagerStatus = "passed" then .passed
  else if scene.fileManagerStatus = "failed" then .failed
  else .notVerifiable

def filesystemSeen (scene : Scene) : Bool :=
  ownReadable scene = some true ∧ (otherHidden scene = some true ∨ scene.other = none) ∧ mountPrivate scene = some true

def filesystemExposed (scene : Scene) : Bool :=
  ¬scene.enabled ∨ ownReadable scene = some false ∨ otherHidden scene = some false

def filesystemCheck (scene : Scene) : Check where
  name := "Private filesystem"
  status := if filesystemExposed scene then .failed else if filesystemSeen scene then .passed else .notVerifiable
  explanation :=
    if filesystemSeen scene then "The live PHP worker can read its own home and cannot see another account's home."
    else if filesystemExposed scene then
      "The account isolation gate is disabled or a live worker exposed an unexpected filesystem view."
    else "Configured; awaiting a live PHP worker to inspect its filesystem."

def tmpCheck (scene : Scene) : Check where
  name := "Private temp"
  status := match tmpPrivate scene with
    | some false => .failed
    | some true => .passed
    | none => .notVerifiable
  explanation := match tmpPrivate scene with
    | some true => "The live PHP worker uses a private temporary filesystem."
    | some false => "A live PHP worker shares the host temporary filesystem."
    | none => "Configured; awaiting a live PHP worker to inspect its temporary filesystem."

def processCheck (scene : Scene) : Check where
  name := "Process namespace"
  status := match processIsolation scene with
    | .verified => .passed
    | .failed | .inspectionFailed | .notConfigured => .failed
    | .configuredNoLiveWorker => .notVerifiable
  explanation := match processIsolation scene with
    | .verified => "Live PHP workers use a private PID namespace."
    | .failed | .inspectionFailed => "A live PHP worker did not pass PID namespace verification."
    | .notConfigured | .configuredNoLiveWorker =>
      if scene.bubblewrapConfigured then "Configured; awaiting a live PHP worker to inspect process visibility."
      else "Private PHP process namespaces are not configured."

def environmentCheck (scene : Scene) : Check where
  name := "Account environment"
  status := if scene.enabled ∧ ownReadable scene ≠ some false then .passed else .failed
  explanation := if scene.enabled then "The account UID is eligible and its isolation gate is enabled."
    else "The account UID is outside the enabled isolation policy."

def resourceCheck (scene : Scene) : Check where
  name := "Resource budget"
  status := resourceStatus scene
  explanation := match scene.cgroup with
    | none => "The account Linux identity was not available for cgroup verification."
    | some true => "The canonical account cgroup is active."
    | some false => "The canonical account cgroup is missing; rebuild the account resource policy."

def fileManagerCheck (scene : Scene) : Check where
  name := "File Manager path"
  status := fileManagerStatus scene
  explanation := scene.fileManagerExplanation

def checks (scene : Scene) : List Check :=
  [filesystemCheck scene, tmpCheck scene, processCheck scene, environmentCheck scene, resourceCheck scene,
    fileManagerCheck scene]

def failed (scene : Scene) : Bool :=
  ¬scene.enabled ∨ ownReadable scene = some false ∨ otherHidden scene = some false ∨
    processIsolation scene ∈ [.failed, .inspectionFailed, .notConfigured] ∨
    mountPrivate scene = some false ∨ tmpPrivate scene = some false ∨
    resourceStatus scene = .failed ∨ fileManagerStatus scene = .failed

def passed (scene : Scene) : Bool :=
  ¬failed scene ∧ scene.enabled ∧ ownReadable scene = some true ∧ otherHidden scene = some true ∧
    processIsolation scene = .verified

inductive Status
  | failed
  | passed
  | incomplete
  deriving DecidableEq

structure Report where
  status : Status
  namespaceEnabled : Bool
  ownHomeReadable : Option Bool
  otherHomeHidden : Option Bool
  skipped : List String
  processIsolation : ProcessIsolation
  processIsolationWorkers : List (Nat × WorkerStatus)
  checks : List Check

def skipped (scene : Scene) : List String :=
  (if scene.other = none then ["peer_account_visibility"] else []) ++
  (if scene.workers = [] then
    "live_php_worker" :: if scene.bubblewrapConfigured then ["account_home_visibility"] else []
  else if .exitedDuringCheck ∈ workerStatuses scene then ["php_worker_exited_during_check"] else []) ++
  (if scene.workers ≠ [] ∧ ownReadable scene = none then ["account_home_visibility"] else []) ++
  (if scene.workers ≠ [] ∧ scene.other.isSome ∧ otherHidden scene = none then ["peer_account_visibility"] else [])

def selfTest (scene : Scene) : Report where
  status := if failed scene then .failed else if passed scene then .passed else .incomplete
  namespaceEnabled := scene.enabled
  ownHomeReadable := ownReadable scene
  otherHomeHidden := otherHidden scene
  skipped := skipped scene
  processIsolation := processIsolation scene
  processIsolationWorkers := (comparedWorkers scene).map fun worker => (worker.pid, workerStatus scene.hostPidNamespace worker)
  checks := checks scene

end Boron.Isolation
