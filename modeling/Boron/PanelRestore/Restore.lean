import Boron.Lib.Sys

namespace Boron.PanelRestore

structure Database (Content Change : Type) where
  main : Content
  wal : List Change

/-- What the panel does to its database between two steps of the script. -/
inductive Move (Change : Type)
  | write (change : Change)
  | checkpoint

/-- How `systemctl` ends: it returns 0, it returns another code, or `subprocess` raises. -/
inductive Ended
  | done
  | failed (effective : Bool)
  | raised (effective : Bool)
  deriving DecidableEq

def Ended.effective : Ended → Bool
  | .done => true
  | .failed effective => effective
  | .raised effective => effective

def Ended.raises : Ended → Bool
  | .raised _ => true
  | _ => false

inductive Action
  | stop
  | start
  deriving DecidableEq

/-- The four loops over the services: the two of the restore and the two of its recovery. -/
inductive Stage
  | stopping
  | starting
  | stoppingAgain
  | startingAgain
  deriving DecidableEq

def Stage.action : Stage → Action
  | .stopping => .stop
  | .starting => .start
  | .stoppingAgain => .stop
  | .startingAgain => .start

/-- `state` of the status file. -/
inductive State
  | queued
  | validating
  | stopping
  | starting
  | completed
  | failed
  deriving DecidableEq

structure Status where
  state : State
  rolledBack : Option Bool
  recoveryHealthy : Option Bool

/-- Where the panel may write. -/
inductive Point
  | copying
  | service (stage : Stage) (unit : String)
  | replacing
  | replaced
  | restoring
  | restored

/-- What every call of one run meets. `healthy` is none where the check raises. -/
structure World (Content Change : Type) where
  apply : Change → Content → Content
  units : List String
  source : Content
  found : Bool
  written : State → Bool
  intact : Bool
  rescued : Bool
  replaced : Bool
  restored : Bool
  healthy : Option Bool
  healthyAgain : Option Bool
  systemctl : Stage → String → Ended
  moves : Point → List (Move Change)

/-- The files and the services. `halted`, `before` and `log` are not stored: whether all services
have stopped once, the content just before the target is first replaced, and every call of `systemctl`. -/
structure Machine (Content Change : Type) where
  database : Database Content Change
  rescue : Option Content
  running : String → Bool
  status : Status
  halted : Bool
  before : Option Content
  log : List (Action × String)

variable {Content Change : Type}

/-- The write-ahead file is replayed into whatever main file is beside it. -/
def World.effective (world : World Content Change) (database : Database Content Change) : Content :=
  database.wal.foldl (fun content change => world.apply change content) database.main

def World.move (world : World Content Change) (database : Database Content Change) : Move Change → Database Content Change
  | .write change => { database with wal := database.wal ++ [change] }
  | .checkpoint => { main := world.effective database, wal := [] }

/-- The panel writes as long as its services have not all stopped. -/
def World.pause (world : World Content Change) (point : Point) (machine : Machine Content Change) : Machine Content Change :=
  if machine.halted then machine else { machine with database := (world.moves point).foldl world.move machine.database }

inductive Failure
  | missing
  | integrity
  | copy
  | status
  | systemctl
  | services
  | health
  deriving DecidableEq

abbrev Act (Content Change : Type) := Sys (Machine Content Change) Failure

section
variable (world : World Content Change)

def expect (holds : Bool) (failure : Failure) : Act Content Change Unit := if holds then pure () else Sys.fail failure

def writeStatus (state : State) (f : Status → Status) : Act Content Change Unit := do
  expect (world.written state) .status
  Sys.modify fun machine => { machine with status := f { machine.status with state } }

/-- The effect of one call of `systemctl`. -/
def World.serve (stage : Stage) (unit : String) (machine : Machine Content Change) : Machine Content Change :=
  let machine := world.pause (.service stage unit) machine
  let running (other : String) : Bool :=
    if other = unit ∧ (world.systemctl stage unit).effective then stage.action = .start else machine.running other
  { machine with
    running := running
    halted := machine.halted || world.units.all fun unit => !running unit
    log := machine.log ++ [(stage.action, unit)] }

def services (stage : Stage) : List String → Act Content Change Bool
  | [] => pure true
  | unit :: rest => do
    Sys.modify (world.serve stage unit)
    expect (!(world.systemctl stage unit).raises) .systemctl
    let others ← services stage rest
    pure (world.systemctl stage unit = .done && others)

/-- `_online_copy` of the target to the rescue file. The target is read as it is at the moment. -/
def copyRescue : Act Content Change Unit := do
  Sys.modify (world.pause .copying)
  expect world.rescued .copy
  Sys.modify fun machine => { machine with rescue := some (world.effective machine.database) }

def World.replacedBy (machine : Machine Content Change) : Machine Content Change :=
  world.pause .replaced { machine with
    database := { machine.database with main := world.source }
    before := some (world.effective machine.database) }

/-- The main file of the target is the rescue copy. -/
def World.restoredFrom (content : Content) (machine : Machine Content Change) : Machine Content Change :=
  world.pause .restored { machine with database := { machine.database with main := content } }

/-- `_online_copy` of the source to the target: only the main file is replaced, and that last. -/
def replaceTarget : Act Content Change Unit := do
  Sys.modify (world.pause .replacing)
  expect world.replaced .copy
  Sys.modify world.replacedBy

/-- `_online_copy` of the rescue file to the target. -/
def restoreTarget : Act Content Change Unit := do
  Sys.modify (world.pause .restoring)
  expect world.restored .copy
  let machine ← Sys.get
  match machine.rescue with
  | none => Sys.fail .copy
  | some content => Sys.modify (world.restoredFrom content)

/-- `_healthy` -/
def checkHealth : Option Bool → Act Content Change Bool
  | none => Sys.fail .health
  | some healthy => pure healthy

/-- Down to the `try`. -/
def prepare : Act Content Change Unit := do
  expect world.found .missing
  writeStatus world .validating id
  expect world.intact .integrity
  copyRescue world
  writeStatus world .stopping id
  let _ ← services world .stopping world.units

/-- The `try` once the target is replaced. -/
def bringUp : Act Content Change Nat := do
  writeStatus world .starting id
  let started ← services world .starting world.units.reverse
  expect started .services
  let healthy ← checkHealth world.healthy
  expect healthy .health
  writeStatus world .completed fun status => { status with rolledBack := some false }
  pure 0

def recover : Act Content Change Bool := do
  let _ ← services world .stoppingAgain world.units
  Sys.handle (do
      restoreTarget world
      let _ ← services world .startingAgain world.units.reverse
      checkHealth world.healthyAgain)
    fun _ => pure false

def conclude (rolledBack recovered : Bool) : Act Content Change Nat := do
  writeStatus world .failed fun status => { status with rolledBack := some rolledBack, recoveryHealthy := some recovered }
  pure (if recovered then 1 else 2)

/-- `run`. Its `restored` tells whether the target was replaced. -/
def restore : Act Content Change Nat := do
  prepare world
  let replaced ← Sys.caught (replaceTarget world)
  match replaced with
  | .error _ => do
    let _ ← services world .starting world.units.reverse
    conclude world false true
  | .ok _ => Sys.handle (bringUp world) fun _ => do
    let recovered ← recover world
    conclude world true recovered

/-- The content of the snapshot with the exit code 0, or the content that the panel had committed;
every service is started, or a start attempted, after a stop; and the status is a final one. -/
structure Kept (ended : Except Failure Nat × Machine Content Change) : Prop where
  content : (ended.1 = .ok 0 ∧ world.effective ended.2.database = world.source) ∨
    world.effective ended.2.database = ended.2.before.getD (world.effective ended.2.database)
  served : ∀ unit ∈ world.units, ∀ earlier stopped later, ended.2.log = earlier ++ (.stop, stopped) :: later →
    (.start, unit) ∈ later
  final : ended.2.status.state = .completed ∨ ended.2.status.state = .failed

end

end Boron.PanelRestore
