import Boron.Lib.Sys
import Boron.Databases.Registry

namespace Boron.Databases.Rename

/-- How a call ends: it returns, it raises without effect, or it takes effect and raises. -/
inductive Outcome
  | done
  | refused
  | late
  deriving DecidableEq

/-- An entry of `failures`. -/
inductive Failure
  | restoreGrant (login : Login)
  | restoreRegistration
  | removeGrant (login : Login)
  | removeReplacement

/-- The stores, and the local variables that the exception handler reads. -/
structure Work where
  server : Server
  registry : Registry
  switched : Bool
  revoked : List Assignment

structure Request where
  username : String
  name : String
  newName : String

/-- What the calls of one rename do. A restore that returns and leaves as many tables as the
old database has is a complete copy. -/
structure World where
  owned : Bool
  assigned : Outcome
  existence : Bool
  grantees : Bool
  safety : Bool
  dumped : Bool
  counted : Bool
  create : Outcome
  restore : Outcome
  copy : Content → Content
  recounted : Bool
  grant : Login → Outcome
  switch : Outcome
  revoke : Login → Outcome
  drop : Outcome
  grantBack : Login → Outcome
  switchBack : Outcome
  revokeNew : Login → Outcome
  dropNew : Outcome
  complete : ∀ content, (copy content).length = content.length → copy content = content

/-- An exception carries the failures of the recovery that it reports. -/
abbrev Act := Sys Work (List Failure)

def orRaise {α : Type} : Option α → Act α
  | none => Sys.fail []
  | some value => pure value

def expect (holds : Bool) : Act Unit := if holds then pure () else Sys.fail []

def perform (outcome : Outcome) (effect : Work → Work) : Act Unit :=
  match outcome with
  | .done => Sys.modify effect
  | .refused => Sys.fail []
  | .late => do
    Sys.modify effect
    Sys.fail []

def onServer (outcome : Outcome) (effect : Server → Server) : Act Unit :=
  perform outcome fun work => { work with server := effect work.server }

/-- What `rename_database` has read before it creates the new database. -/
structure Plan where
  accountId : Nat
  grantId : Nat
  old : String
  new : String
  assignments : List Assignment

end Rename

def Registry.ownedDatabase (registry : Registry) (username name : String) : Option DatabaseGrant := do
  let name ← registry.resolveExistingDbName username name
  let account ← registry.account username
  registry.databaseOf account.id name

def Registry.renameGrant (registry : Registry) (grantId : Nat) (name : String) : Registry :=
  { registry with grants := Rows.change DatabaseGrant.id grantId (fun grant => { grant with dbName := name }) registry.grants }

namespace Rename

section
variable (world : World) (request : Request) (plan : Plan)

def ownedDatabase : Act DatabaseGrant := do
  expect world.owned
  let work ← Sys.get
  orRaise (work.registry.ownedDatabase request.username request.name)

/-- The session that reads `assignments`. -/
def readAssignments (grant : DatabaseGrant) (new : String) : Act (List Assignment) := do
  let work ← Sys.get
  expect !(work.registry.grants.any (·.dbName = new))
  let registry ← orRaise (work.registry.ensureUserRows grant.accountId)
  perform world.assigned fun work => { work with registry }
  pure (registry.databaseAssignments grant.id)

/-- The checks, the safety copy and the count of its tables. -/
def prepare : Act Plan := do
  let grant ← ownedDatabase world request
  let new ← orRaise (scopedName request.username request.newName)
  expect (grant.dbName ≠ new)
  let assignments ← readAssignments world grant new
  let work ← Sys.get
  expect (world.existence && (work.server.databases new).isNone)
  expect (world.grantees && !work.server.isGranted new)
  expect world.safety
  expect (world.dumped && (work.server.databases grant.dbName).isSome)
  expect world.counted
  pure ⟨grant.accountId, grant.id, grant.dbName, new, assignments⟩

def grantAssignment (outcome : Login → Outcome) (name : String) (assignment : Assignment) : Act Unit := do
  let work ← Sys.get
  let granted ← orRaise (normalizeDatabasePrivileges assignment.preset assignment.custom)
  expect (assignment.login ∈ work.server.logins)
  onServer (outcome assignment.login) (Server.grantPrivileges name assignment.login granted)

def revokeAll (outcome : Login → Outcome) (name : String) (assignment : Assignment) : Act Unit :=
  onServer (outcome assignment.login) (Server.revokeAll name assignment.login)

/-- `restore_database` of the dump, and the comparison of the two counts. -/
def copyDatabase (saved : Content) : Act Unit := do
  onServer world.restore (Server.fill plan.new (world.copy saved))
  expect world.recounted
  let work ← Sys.get
  expect (saved.length = work.server.tableCount plan.new)

def switchRow : Act Unit := do
  let work ← Sys.get
  let row ← orRaise (Rows.byKey DatabaseGrant.id work.registry.grants plan.grantId)
  expect (row.accountId = plan.accountId && row.dbName = plan.old)
  perform world.switch fun work => { work with registry := work.registry.renameGrant plan.grantId plan.new }
  Sys.modify fun work => { work with switched := true, revoked := [] }

def revokeOld (assignment : Assignment) : Act Unit := do
  revokeAll world.revoke plan.old assignment
  Sys.modify fun work => { work with revoked := work.revoked ++ [assignment] }

def fillNew (saved : Content) : Act Unit := do
  copyDatabase world plan saved
  Sys.each (grantAssignment world.grant plan.new) plan.assignments

def retireOld : Act Unit := do
  switchRow world plan
  Sys.each (revokeOld world plan) plan.assignments
  onServer world.drop (Server.dropDatabase plan.old)

/-- The body of the `try`. -/
def replace (saved : Content) : Act Unit := do
  fillNew world plan saved
  retireOld world plan

/-- A step of the recovery: an exception is noted, and the recovery goes on. -/
def attempt (failure : Failure) (step : Act Unit) : Act (List Failure) := Sys.handle (do
      step
      pure [])
    fun _ => pure [failure]

def attemptAll (failure : Login → Failure) (step : Assignment → Act Unit) : List Assignment → Act (List Failure)
  | [] => pure []
  | assignment :: rest => do
    let first ← attempt (failure assignment.login) (step assignment)
    let others ← attemptAll failure step rest
    pure (first ++ others)

def restoreRegistration : Act Unit := do
  let work ← Sys.get
  match Rows.byKey DatabaseGrant.id work.registry.grants plan.grantId with
  | some row =>
    perform world.switchBack fun work =>
      if row.dbName = plan.new then { work with registry := work.registry.renameGrant plan.grantId plan.old } else work
  | none => perform world.switchBack id

def restoreIfSwitched : Act (List Failure) := do
  let work ← Sys.get
  if work.switched then attempt .restoreRegistration (restoreRegistration world plan) else pure []

/-- The exception handler, up to `_raise_with_cleanup`. -/
def recover : Act Unit := do
  let work ← Sys.get
  let grants ← attemptAll .restoreGrant (grantAssignment world.grantBack plan.old) work.revoked
  let registration ← restoreIfSwitched world plan
  let others ← attemptAll .removeGrant (revokeAll world.revokeNew plan.new) plan.assignments
  let replacement ← attempt .removeReplacement (onServer world.dropNew (Server.dropDatabase plan.new))
  Sys.fail (grants ++ registration ++ others ++ replacement)

def exchange : Act Unit := do
  let work ← Sys.get
  onServer world.create (Server.createDatabase plan.new)
  Sys.modify fun work => { work with switched := false, revoked := [] }
  Sys.handle (replace world plan ((work.server.databases plan.old).getD [])) fun _ => recover world plan

def renameDatabase : Act Unit := do
  let plan ← prepare world request
  exchange world plan

end

end Rename

end Boron.Databases
