import Boron.Lib.Sys

namespace Boron.Finalizer

/-- What stands at a path: the directory of a release, or a symbolic link. -/
inductive Entry
  | directory (release : String)
  | link (target : String)
  deriving DecidableEq

abbrev Files := String → Option Entry

namespace Files

def put (files : Files) (path : String) (entry : Option Entry) : Files :=
  fun other => if other = path then entry else files other

def isLink (files : Files) (path : String) : Bool :=
  match files path with
  | some (.link _) => true
  | _ => false

def release (files : Files) (path : String) : Option String :=
  match files path with
  | none => none
  | some (.directory release) => some release
  | some (.link target) => match files target with
    | some (.directory release) => some release
    | _ => none

/-- `os.path.exists`. -/
def present (files : Files) (path : String) : Bool := (files.release path).isSome

/-- `os.symlink`, which replaces nothing. -/
def symlink (files : Files) (target path : String) : Option Files :=
  match files path with
  | some _ => none
  | none => some (files.put path (some (.link target)))

/-- `os.rename`: a link replaces a link, and a directory of a release replaces nothing. -/
def rename (files : Files) (source destination : String) : Option Files :=
  match files source, files destination with
  | some (.link target), some (.link _) | some (.link target), none =>
    some ((files.put destination (some (.link target))).put source none)
  | some (.directory release), none => some ((files.put destination (some (.directory release))).put source none)
  | _, _ => none

/-- `os.unlink`, where it does not fail. -/
def unlink (files : Files) (path : String) : Files :=
  match files path with
  | some (.link _) => files.put path none
  | _ => files

end Files

inductive Mode
  | update
  | rollback
  deriving DecidableEq

/-- The two configuration snapshots of a job. -/
inductive Snapshot
  | target
  | recovery
  deriving DecidableEq

/-- Which directory stands at the configuration path. -/
inductive Config
  | before
  | copy (snapshot : Snapshot)

/-- The host integrations of the new release, and the snapshot of the files before them. -/
structure Runtime where
  migrated : Bool
  backup : Bool

inductive JobStatus
  | finalizing
  | completed
  | failed
  deriving DecidableEq

structure Job where
  status : JobStatus
  rolledBack : Bool
  automaticRollbackAttempted : Bool

/-- `swapped` belongs to the finalizer; `swapBackFailed` is the line of its log. -/
structure Host where
  files : Files
  config : Option Config
  runtime : Runtime
  job : Job
  privateState : Bool
  swapped : Bool
  swapBackFailed : Bool

def Host.claim (host : Host) : Host := { host with job := { host.job with automaticRollbackAttempted := true } }

def Host.finish (written : Bool) (status : JobStatus) (rolledBack : Bool) (host : Host) : Host :=
  if written then { host with job := { host.job with status, rolledBack } } else host

def Host.cleanup (host : Host) : Host := { host with privateState := false }

structure Args where
  live : String
  tmp : String
  newDir : String
  oldDir : String
  mode : Mode
  convertLiveDir : Bool
  units : List String
  alerts : Bool

/-- Where in the run an outside step is taken: before the swap, up to the success, in the
rollback that the run decides on, or in the rollback after an exception. -/
inductive Stage
  | opening
  | forward
  | back
  | handler
  deriving DecidableEq

inductive Exit
  | zero
  | nonzero
  | raises
  deriving DecidableEq

/-- How far a command of the release came that did not succeed. -/
inductive Progress
  | nothing
  | begun
  | finished
  deriving DecidableEq

structure Command where
  succeeds : Bool
  progress : Progress

inductive Reply
  | good
  | bad
  | raises
  deriving DecidableEq

/-- One round of the health check. -/
structure Probe where
  api : Reply
  daemon : Reply

inductive CheckStatus
  | pass
  | warn
  | fail
  | unknown
  deriving DecidableEq

structure Check where
  status : CheckStatus
  critical : Bool

inductive Readiness
  | raises
  | missing
  | checks (checks : List Check)

/-- The steps of `restore_config`, in order. -/
structure Restoring where
  supplied : Bool
  safe : Bool
  copied : Bool
  movedAside : Bool
  installed : Bool
  movedBack : Bool
  removed : Bool

inductive Access
  | claim
  | changes
  | finish
  deriving DecidableEq

/-- How every outside step of a run ends. -/
structure World where
  stop : Stage → String → Exit
  restart : Stage → String → Exit
  probes : Stage → List Probe
  restoring : Snapshot → Stage → Restoring
  symlink : Stage → Bool
  rename : Stage → Bool
  unlink : Stage → Bool
  script : Bool
  python : Bool
  migrate : Command
  commit : Command
  undo : Stage → Command
  readiness : Readiness
  report : Bool
  database : Access → Stage → Bool
  alert : Stage → Reply

end Boron.Finalizer

namespace Boron.Finalizer

abbrev Act := Sys Host Unit

def orRaise {α : Type} : Option α → Act α
  | none => Sys.fail ()
  | some value => pure value

/-- `restore_config`, and what it leaves at the configuration path. -/
def Restoring.run (restoring : Restoring) (snapshot : Snapshot) (config : Option Config) : Bool × Option Config :=
  if restoring.supplied && restoring.safe && restoring.copied && restoring.movedAside && config.isSome then
    if restoring.installed then (restoring.removed, some (.copy snapshot))
    else (false, if restoring.movedBack then config else none)
  else (false, config)

/-- A migration refuses to begin while the snapshot of another one is there. -/
def Runtime.migrate (command : Command) (runtime : Runtime) : Bool × Runtime :=
  if runtime.backup then (false, runtime)
  else if command.succeeds then (true, { migrated := true, backup := true })
  else match command.progress with
    | .nothing => (false, runtime)
    | .begun => (false, { runtime with backup := true })
    | .finished => (false, { migrated := true, backup := true })

def Runtime.commit (command : Command) (runtime : Runtime) : Bool × Runtime :=
  if command.succeeds then (true, { runtime with backup := false })
  else match command.progress with
    | .nothing => (false, runtime)
    | _ => (false, { runtime with backup := false })

/-- Without a snapshot there is nothing to restore; else its unlinking is the last step. -/
def Runtime.undo (command : Command) (runtime : Runtime) : Bool × Runtime :=
  if runtime.backup then
    if command.succeeds then (true, { migrated := false, backup := false })
    else match command.progress with
      | .finished => (false, { migrated := false, backup := false })
      | _ => (false, runtime)
  else (command.succeeds, runtime)

def stopAll (stop : String → Exit) : List String → Option Unit
  | [] => some ()
  | unit :: rest => if unit ≠ "" ∧ stop unit = .raises then none else stopAll stop rest

def restartAll (restart : String → Exit) : List String → Option Bool
  | [] => some true
  | unit :: rest => match restart unit with
    | .raises => none
    | .zero => restartAll restart rest
    | .nonzero => (restartAll restart rest).map fun _ => false

/-- `ok = ok or check()`. -/
def recheck (ok : Bool) (reply : Reply) : Option Bool := if ok then some true else match reply with
    | .good => some true
    | .bad => some false
    | .raises => none

def healthCheck (apiOk daemonOk : Bool) : List Probe → Option Bool
  | [] => some false
  | probe :: rest => match recheck apiOk probe.api with
    | none => none
    | some apiOk => match recheck daemonOk probe.daemon with
      | none => none
      | some daemonOk => if apiOk && daemonOk then some true else healthCheck apiOk daemonOk rest

def Check.fails (check : Check) : Bool := check.critical && (check.status = .fail || check.status = .unknown)

section
variable (args : Args) (world : World)

/-- `readiness`: raised, incomplete, or whether a critical check failed. -/
def readiness : Option (Option Bool) :=
  match args.mode, world.readiness with
  | .rollback, _ => some (some false)
  | .update, .raises => none
  | .update, .missing => some none
  | .update, .checks checks => some (some (checks.any Check.fails))

def claimAutomaticRollback (stage : Stage) : Act Bool := do
  let host ← Sys.get
  if world.database .claim stage && !host.job.automaticRollbackAttempted then do
    Sys.modify Host.claim
    pure true
  else pure false

def finishJob (stage : Stage) (status : JobStatus) (rolledBack : Bool) : Act Unit :=
  Sys.modify (Host.finish (world.database .finish stage) status rolledBack)

def cleanupPrivateState : Act Unit := Sys.modify Host.cleanup

def restoreConfig (snapshot : Snapshot) (stage : Stage) : Act Bool := do
  let host ← Sys.get
  let restored := (world.restoring snapshot stage).run snapshot host.config
  Sys.modify fun host => { host with config := restored.2 }
  pure restored.1

def osRename (stage : Stage) (source destination : String) : Act Unit := do
  let host ← Sys.get
  match host.files.rename source destination, world.rename stage with
  | some files, true => Sys.modify fun host => { host with files }
  | _, _ => Sys.fail ()

def osSymlink (stage : Stage) (target path : String) : Act Unit := do
  let host ← Sys.get
  match host.files.symlink target path, world.symlink stage with
  | some files, true => Sys.modify fun host => { host with files }
  | _, _ => Sys.fail ()

def osUnlink (stage : Stage) (path : String) : Act Unit :=
  Sys.modify fun host => if world.unlink stage then { host with files := host.files.unlink path } else host

def swapSymlink (stage : Stage) (target : String) : Act Unit := Sys.handle (do
      osSymlink world stage target args.tmp
      osRename world stage args.tmp args.live)
    fun _ => do
      osUnlink world stage args.tmp
      Sys.fail ()

def convertLiveDir : Act Unit := do
  let host ← Sys.get
  if host.files.isLink args.live || host.files.present args.oldDir then Sys.fail ()
  else do
    osRename world .opening args.live args.oldDir
    swapSymlink args world .forward args.newDir

def stopServicesForRollback (stage : Stage) : Act Unit := orRaise (stopAll (world.stop stage) args.units)

def restartServices (stage : Stage) : Act Bool := orRaise (restartAll (world.restart stage) args.units)

def releaseCommand (action : Runtime → Bool × Runtime) (runtime : Runtime) : Bool × Runtime :=
  if args.mode = .update ∧ world.script then
    if world.python then action runtime else (false, runtime)
  else (true, runtime)

def runRuntimeMigrations : Act Bool := do
  let host ← Sys.get
  let migrated := releaseCommand args world (Runtime.migrate world.migrate) host.runtime
  Sys.modify fun host => { host with runtime := migrated.2 }
  pure migrated.1

/-- `control_runtime_migration` with one of its two actions. -/
def controlRuntimeMigration (action : Runtime → Bool × Runtime) : Act Bool := do
  let host ← Sys.get
  let controlled := releaseCommand args world action host.runtime
  Sys.modify fun host => { host with runtime := controlled.2 }
  pure controlled.1

/-- `collect_runtime_changes` and `store_runtime_changes`. -/
def recordRuntimeChanges : Bool :=
  (args.mode = .rollback || !world.script || world.report) && world.database .changes .forward

def alertAdmin (stage : Stage) : Act Unit :=
  if args.alerts ∧ world.alert stage = .raises then Sys.fail () else pure ()

def swapBack (stage : Stage) : Act Bool := do
  let host ← Sys.get
  if host.swapped then
    Sys.handle (do
        swapSymlink args world stage args.oldDir
        pure true)
      fun _ => do
        Sys.modify fun host => { host with swapBackFailed := true }
        pure false
  else pure true

def resume (stage : Stage) (swapBackOk : Bool) : Act Unit :=
  if swapBackOk then do
    let _ ← restartServices args world stage
    let _ ← orRaise (healthCheck false false (world.probes stage))
    pure ()
  else pure ()

def failAndSwapBack (stage : Stage) : Act Nat := do
  let claimed ← claimAutomaticRollback world stage
  if claimed then do
    stopServicesForRollback args world stage
    let runtimeOk ← controlRuntimeMigration args world (Runtime.undo (world.undo stage))
    let configOk ← restoreConfig world .recovery stage
    let swapBackOk ← swapBack args world stage
    resume args world stage swapBackOk
    let host ← Sys.get
    finishJob world stage .failed (host.swapped && swapBackOk && runtimeOk && configOk)
    alertAdmin args world stage
    cleanupPrivateState
    pure (if swapBackOk && runtimeOk && configOk then 1 else 2)
  else do
    finishJob world stage .failed false
    cleanupPrivateState
    pure 2

/-- The rollback could not get its configuration: nothing is swapped. -/
def giveUp : Act Nat := do
  let _ ← restartServices args world .opening
  finishJob world .opening .failed false
  cleanupPrivateState
  pure 2

def succeed : Act Nat := do
  finishJob world .forward .completed false
  cleanupPrivateState
  pure 0

def confirm : Act Nat := do
  let ready ← orRaise (readiness args world)
  if ready = some false ∧ recordRuntimeChanges args world then do
    let committed ← controlRuntimeMigration args world (Runtime.commit world.commit)
    if committed then succeed world else failAndSwapBack args world .back
  else failAndSwapBack args world .back

/-- `restarts_ok`. -/
def startRelease (migrated : Bool) : Act Bool := if migrated then restartServices args world .forward else pure false

/-- `healthy`. -/
def checkRelease (restarted : Bool) : Act Bool :=
  if restarted then orRaise (healthCheck false false (world.probes .forward)) else pure false

def afterSwap : Act Nat := do
  let migrated ← runRuntimeMigrations args world
  let restarted ← startRelease args world migrated
  let healthy ← checkRelease world restarted
  if healthy then confirm args world else failAndSwapBack args world .back

def swapLive : Act Unit := if args.convertLiveDir then convertLiveDir args world else do
    let host ← Sys.get
    if host.files.isLink args.live then swapSymlink args world .forward args.newDir else Sys.fail ()

def swap : Act Unit := do
  swapLive args world
  Sys.modify fun host => { host with swapped := true }

def openRollback : Act Bool :=
  if args.mode = .rollback then do
    stopServicesForRollback args world .opening
    restoreConfig world .target .opening
  else pure true

def protectedRun : Act Nat := do
  let restored ← openRollback args world
  if restored then do
    swap args world
    afterSwap args world
  else giveUp args world

def run : Act Nat := Sys.handle (protectedRun args world) fun _ => failAndSwapBack args world .handler

end

end Boron.Finalizer
