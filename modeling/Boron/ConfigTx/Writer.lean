import Boron.Lib.Sys

namespace Boron.ConfigTx

abbrev Bytes := List UInt8

structure StepResult where
  ok : Bool
  message : String

/-- How a callable supplied by the subsystem ends: with a result or by raising. -/
inductive Reply
  | returns (result : StepResult)
  | raises (message : String)

structure ConfigTxResult where
  applied : Bool
  rolledBack : Bool
  steps : List (String × StepResult)

def ConfigTxResult.ok (r : ConfigTxResult) : Bool := r.applied && !r.rolledBack

/-- The files kept for one target: the live file, the temporary beside it and
the backup copy the running transaction takes of it. -/
structure Slot where
  target : Option Bytes
  temporary : Option Bytes
  backup : Option Bytes

/-- The host during a transaction. `loaded` is what the service read from
every target at its last successful reload. -/
structure World (Name : Type) where
  files : Name → Slot
  loaded : Name → Option Bytes

inductive TxError
  | undecodable
  | missing
  | raised (message : String)

/-- What the transaction meets: the text codec of the platform, and the
behaviour of each callable at each of its calls. -/
structure Host (Name : Type) where
  readText : Bytes → Option String
  writeText : String → Bytes
  backupPath : Name → String
  validate : Reply
  reload : Reply
  rollbackReload : Reply
  verify : Reply

abbrev Tx (Name : Type) := Sys (World Name) TxError

section
variable {Name : Type} [DecidableEq Name]

def World.onSlot (w : World Name) (n : Name) (f : Slot → Slot) : World Name :=
  { w with files := Function.update w.files n (f (w.files n)) }

def call : Reply → Tx Name StepResult
  | .returns result => pure result
  | .raises message => Sys.fail (.raised message)

/-- A successful reload makes the service read the targets as they are now. -/
def callReload (reply : Reply) : Tx Name StepResult := do
  let result ← call reply
  if result.ok then Sys.modify fun w => { w with loaded := fun n => (w.files n).target } else pure ()
  return result

def callValidate (reply : Reply) : Tx Name StepResult :=
  Sys.handle (call reply) fun
    | .raised message => pure { ok := false, message := "validator raised: " ++ message }
    | e => Sys.fail e

/-- `verify` is only meaningful, and only called, after a successful reload. -/
def callVerify (reload : StepResult) (reply : Reply) : Tx Name StepResult :=
  if reload.ok then call reply else pure { ok := false, message := "skipped: reload failed" }

variable (host : Host Name)

/-- `target.exists() and target.read_text() == content` -/
def targetHolds (content : String) (n : Name) : Tx Name Bool := do
  let w ← Sys.get
  match (w.files n).target with
  | none => return false
  | some bytes => match host.readText bytes with
    | none => Sys.fail .undecodable
    | some text => return text = content

/-- `all(...)` over the targets, stopping at the first that differs. -/
def allHold (contents : Name → String) : List Name → Tx Name Bool
  | [] => return true
  | n :: rest => do
    if ← targetHolds host (contents n) n then allHold contents rest else return false

def writeTemporary (contents : Name → String) (n : Name) : Tx Name Unit :=
  Sys.modify fun w => w.onSlot n fun f => { f with temporary := some (host.writeText (contents n)) }

def unlinkTemporary (n : Name) : Tx Name Unit :=
  Sys.modify fun w => w.onSlot n fun f => { f with temporary := none }

/-- `os.replace(tmp_path, target_path)` -/
def replaceTarget (n : Name) : Tx Name Unit := do
  let w ← Sys.get
  match (w.files n).temporary with
  | none => Sys.fail .missing
  | some bytes => Sys.modify fun w => w.onSlot n fun f => { f with target := some bytes, temporary := none }

/-- `shutil.copy2(target_path, backup_path)`, where the target exists. -/
def backUp (n : Name) : Tx Name Bool := do
  let w ← Sys.get
  match (w.files n).target with
  | none => return false
  | some bytes => do
    Sys.modify fun w => w.onSlot n fun f => { f with backup := some bytes }
    return true

/-- `shutil.copy2(backup_path, target_path)` -/
def copyBackup (n : Name) : Tx Name Unit := do
  let w ← Sys.get
  match (w.files n).backup with
  | none => Sys.fail .missing
  | some bytes => Sys.modify fun w => w.onSlot n fun f => { f with target := some bytes }

def unlinkTarget (n : Name) : Tx Name Unit := Sys.modify fun w => w.onSlot n fun f => { f with target := none }

def passed (message : String) : StepResult := { ok := true, message }

def unchanged : ConfigTxResult := { applied := true, rolledBack := false, steps := [("unchanged", passed "")] }

/-- `ConfigWriter._apply` on the single target `n`. -/
def ConfigWriter.apply (n : Name) (content : String) : Tx Name ConfigTxResult := do
  if ← targetHolds host content n then
    return unchanged
  else
    writeTemporary host (fun _ => content) n
    let validated ← callValidate host.validate
    if validated.ok = false then
      unlinkTemporary n
      return { applied := false, rolledBack := false, steps := [("validate", validated)] }
    else
      let backedUp ← backUp n
      replaceTarget n
      let reloaded ← callReload host.reload
      let verified ← callVerify reloaded host.verify
      let steps := [("validate", validated),
        ("backup", passed (if backedUp then host.backupPath n else "no prior file")),
        ("apply", passed ""), ("reload", reloaded), ("verify", verified)]
      if reloaded.ok ∧ verified.ok then
        return { applied := true, rolledBack := false, steps }
      else if backedUp then
        copyBackup n
        let restored ← callReload host.rollbackReload
        return { applied := true, rolledBack := true, steps := steps ++ [("rollback_reload", restored)] }
      else
        unlinkTarget n
        return { applied := true, rolledBack := true, steps := steps ++ [("rollback_remove", passed "")] }

/-- The backup loop of `ConfigWriterMulti`: the targets it found and copied. -/
def backUpAll : List Name → Tx Name (List Name)
  | [] => return []
  | n :: rest => do
    let copied ← backUp n
    let others ← backUpAll rest
    return if copied then n :: others else others

def restoreTarget (backups : List Name) (n : Name) : Tx Name Unit :=
  if n ∈ backups then copyBackup n else unlinkTarget n

/-- `ConfigWriterMulti._apply` on the targets, in their order. -/
def ConfigWriterMulti.apply (targets : List Name) (contents : Name → String) : Tx Name ConfigTxResult := do
  if ← allHold host contents targets then
    return unchanged
  else
    Sys.each (writeTemporary host contents) targets
    let validated ← callValidate host.validate
    if validated.ok = false then
      Sys.each unlinkTemporary targets
      return { applied := false, rolledBack := false, steps := [("validate", validated)] }
    else
      let backups ← backUpAll targets
      Sys.each replaceTarget targets
      let reloaded ← callReload host.reload
      let verified ← callVerify reloaded host.verify
      let steps := [("validate", validated), ("backup", passed (if backups = [] then "no prior files"
          else ", ".intercalate (backups.map host.backupPath))),
        ("apply", passed ""), ("reload", reloaded), ("verify", verified)]
      if reloaded.ok ∧ verified.ok then
        return { applied := true, rolledBack := false, steps }
      else
        Sys.each (restoreTarget backups) targets
        let restored ← callReload host.rollbackReload
        return { applied := true, rolledBack := true, steps := steps ++ [("rollback_reload", restored)] }

end

end Boron.ConfigTx
