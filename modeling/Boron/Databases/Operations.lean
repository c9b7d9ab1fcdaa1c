import Boron.Databases.Recovered

namespace Boron.Databases

namespace Server

/-- `grant_all`: the hosted privileges, on top of what the login holds. -/
def grantHosted (name : String) (login : Login) (server : Server) : Server :=
  { server with held := server.held ∪ (hostedPrivileges.map (⟨name, login, ·⟩)).toFinset }

end Server

namespace Registry
variable (registry : Registry)

/-- The rows of a new database; none if one of the unique columns has the value already. -/
def registerDatabase (accountId : Nat) (name : String) : Option Registry :=
  let grantId := Rows.next DatabaseGrant.id registry.grants
  let userId := Rows.next DatabaseUser.id registry.users
  if registry.grants.any (·.dbName = name) ∨ registry.users.any (·.login = ⟨name, "localhost"⟩) then none
  else
    let grant : DatabaseGrant := ⟨grantId, accountId, name, name⟩
    let added : Registry := { registry.addUser accountId ⟨name, "localhost"⟩ with grants := registry.grants ++ [grant] }
    some (added.addLink grantId userId .all [])

def registerUser (accountId : Nat) (login : Login) : Option Registry :=
  if registry.users.any (·.login = login) then none else some (registry.addUser accountId login)

def saveLink (grantId userId : Nat) (preset : Preset) (custom : List Privilege) : Registry :=
  match registry.link grantId userId with
  | none => registry.addLink grantId userId preset custom
  | some link =>
    { registry with
      links := Rows.change DatabaseUserGrant.id link.id
        (fun link => { link with privileges := preset, privilegeList := custom }) registry.links }

def deleteLink (linkId : Nat) : Registry :=
  { registry with links := registry.links.filter fun link => link.id ≠ linkId }

def deleteUser (userId : Nat) : Registry :=
  { registry with
    users := registry.users.filter fun user => user.id ≠ userId
    links := registry.links.filter fun link => link.databaseUserId ≠ userId }

def renameUser (userId : Nat) (login : Login) : Option Registry :=
  match Rows.byKey DatabaseUser.id registry.users userId with
  | none => none
  | some _ =>
    if registry.users.any (·.login = login) then none
    else some { registry with
      users := Rows.change DatabaseUser.id userId (fun user => { user with dbUser := login.user }) registry.users }

/-- A login assigned to a database and named like its own. -/
def isNamesake (grantId : Nat) (dbUser : String) (user : DatabaseUser) : Bool :=
  user.dbUser = dbUser && registry.links.any fun link => link.databaseGrantId = grantId && link.databaseUserId = user.id

/-- A database with its assignments and, if they go with it, the logins named like its own. A login
with another assignment cannot be deleted. -/
def deleteDatabase (grantId : Nat) (dbUser : String) (userDropped : Bool) : Option Registry :=
  match Rows.byKey DatabaseGrant.id registry.grants grantId with
  | none => some registry
  | some _ =>
    let links := registry.links.filter fun link => link.databaseGrantId ≠ grantId
    let goes (user : DatabaseUser) : Bool := userDropped && registry.isNamesake grantId dbUser user
    if registry.users.any fun user => goes user && links.any fun link => link.databaseUserId = user.id then none
    else some { registry with
      grants := registry.grants.filter fun grant => grant.id ≠ grantId
      users := registry.users.filter fun user => !goes user
      links := links }

/-- `has_other_assignments`. -/
def isAssignedElsewhere (grantId userId : Nat) : Bool :=
  registry.links.any fun link => link.databaseUserId = userId && link.databaseGrantId ≠ grantId

end Registry

namespace Panel

inductive Failure
  | refused
  | mariadb
  | constraint
  deriving DecidableEq

/-- The stores, how many calls to the server come before the one that fails, and the local
variable `revoked`. -/
structure Work where
  server : Server
  registry : Registry
  failAt : Option Nat
  revoked : List Assignment

abbrev Act := Sys Work Failure

def orRaise {α : Type} : Option α → Act α
  | none => Sys.fail .refused
  | some value => pure value

def expect (holds : Bool) : Act Unit := if holds then pure () else Sys.fail .refused

def call (effect : Server → Server) : Act Unit where
  run work := match work.failAt with
    | some 0 => (.error .mariadb, { work with failAt := none })
    | some (left + 1) => (.ok (), { work with failAt := some left, server := effect work.server })
    | none => (.ok (), { work with server := effect work.server })

/-- A call that reads, or sets the limits of a login. -/
def ask : Act Unit := call id

/-- A session of the panel's own database. -/
def session (change : Registry → Option Registry) : Act Unit where
  run work := match change work.registry with
    | none => (.error .constraint, work)
    | some registry => (.ok (), { work with registry })

/-- The body of a `try` whose handler undoes it and raises again. -/
def compensated (body undo : Act Unit) : Act Unit := Sys.handle body fun failure => do
  undo
  Sys.fail failure

/-- A request to create a database. The account may have no capacity left, and the password may be refused. -/
structure CreateDatabase where
  username : String
  name : String
  capacity : Bool
  password : Bool

structure CreateUser where
  username : String
  name : String
  host : String
  password : Bool

structure GrantUser where
  username : String
  user : String
  database : String
  host : String
  preset : Preset
  privileges : List Privilege

structure RevokeUser where
  username : String
  user : String
  database : String
  host : String

structure DropUser where
  username : String
  user : String
  host : String

structure RenameUser where
  username : String
  user : String
  newName : String
  host : String

structure DropDatabase where
  username : String
  name : String

/-- The checks of `create_database`, down to the password. -/
def checkNewDatabase (request : CreateDatabase) : Act (Nat × String) := do
  let name ← orRaise (scopedName request.username request.name)
  let work ← Sys.get
  let account ← orRaise (work.registry.account request.username)
  expect (account.status = .active || account.status = .suspended)
  expect !(work.registry.grants.any (·.dbName = name))
  expect request.capacity
  ask
  expect (work.server.databases name).isNone
  ask
  expect !work.server.isGranted name
  ask
  expect (⟨name, "localhost"⟩ ∉ work.server.logins)
  expect request.password
  pure (account.id, name)

def createDatabase (request : CreateDatabase) : Act Unit := do
  let (accountId, name) ← checkNewDatabase request
  let login : Login := ⟨name, "localhost"⟩
  let undo : Act Unit := do
    call (Server.dropLogin login)
    call (Server.dropDatabase name)
  call (Server.createDatabase name)
  compensated (do
      call (Server.createLogin login)
      call (Server.grantHosted name login)
      ask)
    undo
  compensated (session fun registry => registry.registerDatabase accountId name) undo

/-- `_ensure_user_rows` in a session that goes on to read. -/
def ensured (accountId : Nat) : Act Registry := do
  let work ← Sys.get
  orRaise (work.registry.ensureUserRows accountId)

def commit (registry : Registry) : Act Unit := Sys.modify fun work => { work with registry }

def checkNewUser (request : CreateUser) : Act (Nat × Login) := do
  let name ← orRaise (scopedName request.username request.name)
  expect request.password
  let work ← Sys.get
  let account ← orRaise (work.registry.account request.username)
  let registry ← ensured account.id
  expect !(registry.users.any (·.login = ⟨name, request.host⟩))
  commit registry
  ask
  expect (⟨name, request.host⟩ ∉ work.server.logins)
  pure (account.id, ⟨name, request.host⟩)

def createUser (request : CreateUser) : Act Unit := do
  let (accountId, login) ← checkNewUser request
  call (Server.createLogin login)
  compensated (do
      ask
      session fun registry => registry.registerUser accountId login)
    (call (Server.dropLogin login))

def ownedUserAndDatabase (username user database host : String) : Act (DatabaseUser × DatabaseGrant) := do
  let work ← Sys.get
  let account ← orRaise (work.registry.account username)
  let registry ← ensured account.id
  let userName ← orRaise (registry.resolveExistingDbName username user)
  let databaseName ← orRaise (registry.resolveExistingDbName username database)
  let user ← orRaise (registry.userOf account.id ⟨userName, host⟩)
  let database ← orRaise (registry.databaseOf account.id databaseName)
  commit registry
  pure (user, database)

def grantUser (request : GrantUser) : Act Unit := do
  let privileges ← orRaise (normalizeDatabasePrivileges request.preset request.privileges)
  let (user, database) ← ownedUserAndDatabase request.username request.user request.database request.host
  let work ← Sys.get
  expect (user.login ∈ work.server.logins)
  call (Server.grantPrivileges database.dbName user.login privileges)
  session fun registry =>
    some (registry.saveLink database.id user.id request.preset (if request.preset = .custom then privileges else []))

def revokeUser (request : RevokeUser) : Act Unit := do
  let (user, database) ← ownedUserAndDatabase request.username request.user request.database request.host
  expect !(decide (database.dbUser = user.dbUser) && decide (request.host = "localhost"))
  let work ← Sys.get
  let link ← orRaise (work.registry.link database.id user.id)
  call (Server.revokeAll database.dbName user.login)
  session fun registry => some (registry.deleteLink link.id)

/-- The login of a request, which must not be the own login of a database of the account. -/
def ownedUser (username user host : String) : Act DatabaseUser := do
  let work ← Sys.get
  let account ← orRaise (work.registry.account username)
  let registry ← ensured account.id
  let name ← orRaise (registry.resolveExistingDbName username user)
  let user ← orRaise (registry.userOf account.id ⟨name, host⟩)
  expect !(decide (host = "localhost") &&
    registry.grants.any fun grant => grant.accountId = account.id && grant.dbUser = name)
  commit registry
  pure user

def dropUser (request : DropUser) : Act Unit := do
  let user ← ownedUser request.username request.user request.host
  call (Server.dropLogin user.login)
  session fun registry => some (registry.deleteUser user.id)

def checkNewName (request : RenameUser) (user : DatabaseUser) : Act Login := do
  let name ← orRaise (scopedName request.username request.newName)
  let login : Login := ⟨name, user.host⟩
  let work ← Sys.get
  expect !(work.registry.users.any (·.login = login))
  ask
  expect (login ∉ work.server.logins)
  pure login

def renameUser (request : RenameUser) : Act Unit := do
  let user ← ownedUser request.username request.user request.host
  let login ← checkNewName request user
  call (Server.renameLogin user.login login)
  compensated (session fun registry => registry.renameUser user.id login) (call (Server.renameLogin login user.login))

/-- What `drop_database` reads first: the database, its assignments, and whether its own login
is assigned elsewhere. -/
structure Doomed where
  grant : DatabaseGrant
  assignments : List Assignment
  elsewhere : Bool

def readDoomed (request : DropDatabase) : Act Doomed := do
  let work ← Sys.get
  let name ← orRaise (work.registry.resolveExistingDbName request.username request.name)
  let account ← orRaise (work.registry.account request.username)
  let grant ← orRaise (work.registry.databaseOf account.id name)
  let registry ← ensured account.id
  let elsewhere := (registry.userOf account.id ⟨grant.dbUser, "localhost"⟩).any fun user =>
    registry.isAssignedElsewhere grant.id user.id
  commit registry
  Sys.modify fun work => { work with revoked := [] }
  pure { grant := grant, assignments := registry.databaseAssignments grant.id, elsewhere := elsewhere }

def revokeOne (name : String) (assignment : Assignment) : Act Unit := do
  call (Server.revokeAll name assignment.login)
  Sys.modify fun work => { work with revoked := work.revoked ++ [assignment] }

def grantAssignment (name : String) (assignment : Assignment) : Act Unit := do
  let privileges ← orRaise (normalizeDatabasePrivileges assignment.preset assignment.custom)
  call (Server.grantPrivileges name assignment.login privileges)

def regrant (name : String) : Act Unit := do
  let work ← Sys.get
  Sys.each (grantAssignment name) work.revoked

/-- `user_dropped`. An error of the drop is only reported. -/
def dropOwnLogin (doomed : Doomed) : Act Bool := if doomed.elsewhere then pure false else Sys.handle (do
      call (Server.dropLogin ⟨doomed.grant.dbUser, "localhost"⟩)
      pure true)
    fun _ => pure false

def dropDatabase (request : DropDatabase) : Act Unit := do
  let doomed ← readDoomed request
  compensated (do
      Sys.each (revokeOne doomed.grant.dbName) doomed.assignments
      call (Server.dropDatabase doomed.grant.dbName))
    (regrant doomed.grant.dbName)
  let userDropped ← dropOwnLogin doomed
  session fun registry => registry.deleteDatabase doomed.grant.id doomed.grant.dbUser userDropped

def terminateDatabase (grant : DatabaseGrant) : Act Unit := do
  call (Server.dropDatabase grant.dbName)
  call (Server.dropLogin ⟨grant.dbUser, "localhost"⟩)
  session fun registry => registry.deleteDatabase grant.id grant.dbUser true

def terminateUser (user : DatabaseUser) : Act Unit := do
  call (Server.dropLogin user.login)
  session fun registry => some (registry.deleteUser user.id)

def terminateAccountDatabases (accountId : Nat) : Act Unit := do
  let work ← Sys.get
  Sys.each terminateDatabase (work.registry.grants.filter (·.accountId = accountId))
  Sys.each terminateUser (work.registry.users.filter (·.accountId = accountId))

inductive Operation
  | createDatabase (request : CreateDatabase)
  | createUser (request : CreateUser)
  | grantUser (request : GrantUser)
  | revokeUser (request : RevokeUser)
  | dropUser (request : DropUser)
  | renameUser (request : RenameUser)
  | dropDatabase (request : DropDatabase)
  | terminateAccountDatabases (accountId : Nat)

def Operation.act : Operation → Act Unit
  | .createDatabase request => Panel.createDatabase request
  | .createUser request => Panel.createUser request
  | .grantUser request => Panel.grantUser request
  | .revokeUser request => Panel.revokeUser request
  | .dropUser request => Panel.dropUser request
  | .renameUser request => Panel.renameUser request
  | .dropDatabase request => Panel.dropDatabase request
  | .terminateAccountDatabases accountId => Panel.terminateAccountDatabases accountId

/-- The two stores between operations. -/
structure Stores where
  server : Server
  registry : Registry

/-- An operation of which the call after `failAt` others fails, if it gets there. -/
def Stores.step (turn : Operation × Option Nat) (stores : Stores) : Stores :=
  let left := (turn.1.act.run ⟨stores.server, stores.registry, turn.2, []⟩).2
  { server := left.server, registry := left.registry }

end Panel

end Boron.Databases
