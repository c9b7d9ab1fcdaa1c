import Boron.Lib.Rows
import Boron.Lib.Sql

namespace Boron.Administrators

inductive Role
  | admin
  | reseller
  | customer
  deriving DecidableEq

structure PanelUser where
  id : Int
  username : String
  role : Role
  disabled : Bool
  passwordHash : String

structure TotpCredential where
  panelUserId : Int
  enabled : Bool

structure Session where
  id : Int
  panelUserId : Int
  revoked : Bool

structure SecurityPolicySettings where
  requireAdmin2fa : Bool
  admin2faGraceDays : Int
  admin2faEnabledAt : Option Nat

/-- The tables the four requests use. Recovery codes, login challenges and
impersonations are kept as the panel users they belong to. -/
structure Database where
  users : List PanelUser
  policy : Option SecurityPolicySettings
  credentials : List TotpCredential
  recoveryCodes : List Int
  sessions : List Session
  loginChallenges : List Int
  impersonations : List Int

def PanelUser.enabledAdministrator (user : PanelUser) : Bool := user.role = .admin && !user.disabled

namespace Database

def administrator (db : Database) (username : String) : Option PanelUser :=
  db.users.find? fun user => user.username = username ∧ user.role = .admin

def userById (db : Database) (id : Int) : Option PanelUser := Rows.byKey PanelUser.id db.users id

def enabledAdministrators (db : Database) : Nat := db.users.countP PanelUser.enabledAdministrator

def hasTwoFactor (db : Database) (id : Int) : Bool :=
  db.credentials.any fun row => row.panelUserId = id ∧ row.enabled

def protectedAdministrators (db : Database) : Nat :=
  db.users.countP fun user => user.enabledAdministrator && db.hasTwoFactor user.id

def requiresTwoFactor (db : Database) : Bool := db.policy.any (·.requireAdmin2fa)

def openSessions (db : Database) (id : Int) : List Int :=
  (db.sessions.filter fun row => row.panelUserId = id ∧ row.revoked = false).map Session.id

def impersonated (db : Database) (id : Int) : Bool := id ∈ db.impersonations

/-- `UPDATE panel_users SET disabled`; no row at all is a stale update. -/
def setDisabled (id : Int) (disabled : Bool) (db : Database) : Option Database :=
  if db.users.any (·.id = id) then
    some { db with users := db.users.map fun user => if user.id = id then { user with disabled } else user }
  else none

def setPassword (id : Int) (passwordHash : String) (db : Database) : Option Database :=
  if db.users.any (·.id = id) then
    some { db with users := db.users.map fun user => if user.id = id then { user with passwordHash } else user }
  else none

def revokeSessions (ids : List Int) (db : Database) : Option Database :=
  if ids.all fun id => db.sessions.any (·.id = id) then
    some { db with sessions := db.sessions.map fun row => if row.id ∈ ids then { row with revoked := true } else row }
  else none

def deleteLoginChallenges (id : Int) (db : Database) : Option Database :=
  some { db with loginChallenges := db.loginChallenges.filter (· ≠ id) }

def deleteRecoveryCodes (id : Int) (db : Database) : Option Database :=
  some { db with recoveryCodes := db.recoveryCodes.filter (· ≠ id) }

def deleteCredentials (id : Int) (db : Database) : Option Database :=
  some { db with credentials := db.credentials.filter (·.panelUserId ≠ id) }

def deleteSessions (id : Int) (db : Database) : Option Database :=
  some { db with sessions := db.sessions.filter (·.panelUserId ≠ id) }

def deleteUser (id : Int) (db : Database) : Option Database :=
  if db.impersonated id then none else some { db with users := db.users.filter (·.id ≠ id) }

def insertPolicy (row : SecurityPolicySettings) (db : Database) : Option Database :=
  if db.policy.isSome then none else some { db with policy := some row }

/-- `UPDATE security_policy_settings` with the columns that changed. -/
def updatePolicy (require : Option Bool) (graceDays : Option Int) (enabledAt : Option (Option Nat))
    (db : Database) : Option Database :=
  db.policy.map fun row => { db with policy := some {
    requireAdmin2fa := require.getD row.requireAdmin2fa
    admin2faGraceDays := graceDays.getD row.admin2faGraceDays
    admin2faEnabledAt := enabledAt.getD row.admin2faEnabledAt } }

end Database

end Boron.Administrators

namespace Boron.Administrators

abbrev Request := Sql.Request Database

/-- One `SELECT` and what the request does with its answer. -/
def query {α : Type} (q : Database → α) (next : α → Request) : Request := .select fun db => next (q db)

/-- `_panel_username` -/
def isPanelUsername (username : String) : Bool :=
  match username.toList with
  | [] => false
  | first :: rest => first.isAlphanum && rest.length ≤ 63 &&
      rest.all fun c => c.isAlphanum || c = '_' || c = '.' || c = '-'

structure StatusParams where
  username : String
  actorUsername : String
  disabled : Bool

/-- The sessions that are not revoked yet, revoked; nothing is sent for none. -/
def revokeAll (ids : List Int) (next : Request) : Request :=
  if ids = [] then next else .write (Database.revokeSessions ids) next

def revokeOpenSessions (params : StatusParams) (user : PanelUser) : Request :=
  if params.disabled then query (·.openSessions user.id) fun ids => revokeAll ids .commit else .commit

/-- The change of the row is sent when it is one, before the sessions are read. -/
def applyStatus (params : StatusParams) (user : PanelUser) : Request :=
  if user.disabled = params.disabled then revokeOpenSessions params user
  else .write (Database.setDisabled user.id params.disabled) (revokeOpenSessions params user)

def keepProtected : String :=
  "Keep at least one active administrator with 2FA while the administrator 2FA policy is required"

def keepTwoFactor : String :=
  "Keep 2FA enabled on at least one active administrator while the administrator 2FA policy is required"

def setAdministratorStatus (params : StatusParams) : Request :=
  if ¬ isPanelUsername params.username then .raise "Enter a valid administrator login name"
  else query (·.administrator params.username) fun
    | none => .raise ("administrator '" ++ params.username ++ "' not found")
    | some user =>
      if params.disabled ∧ params.username = params.actorUsername then
        .raise "you cannot disable your own administrator login"
      else if params.disabled ∧ user.disabled = false then
        query Database.enabledAdministrators fun enabledCount =>
          if enabledCount ≤ 1 then .raise "at least one administrator must remain enabled"
          else query Database.requiresTwoFactor fun required =>
            query (·.hasTwoFactor user.id) fun credential =>
              if required ∧ credential then
                query Database.protectedAdministrators fun protectedCount =>
                  if protectedCount ≤ 1 then .raise keepProtected else applyStatus params user
              else applyStatus params user
      else applyStatus params user

inductive AdministratorAction
  | password
  | resetTwoFactor
  | delete
  deriving DecidableEq

/-- `action` is absent when it is none of the three. `passwordHash` is what the
strength check and the hash of a new password give. -/
structure ManageParams where
  username : String
  actorUsername : String
  action : Option AdministratorAction
  passwordHash : Except String String

def removeTwoFactor (user : PanelUser) (next : Request) : Request :=
  let remove : Request := .write (Database.deleteRecoveryCodes user.id)
    (.write (Database.deleteCredentials user.id) next)
  query Database.requiresTwoFactor fun required =>
    query (·.hasTwoFactor user.id) fun credential =>
      if required ∧ credential then
        query Database.protectedAdministrators fun protectedCount =>
          if protectedCount ≤ 1 then .raise keepTwoFactor else remove
      else remove

def finishAction (passwordHash : String) (user : PanelUser) : AdministratorAction → Request
  | .password => .write (Database.setPassword user.id passwordHash) .commit
  | .resetTwoFactor => removeTwoFactor user .commit
  | .delete => removeTwoFactor user
      (.write (Database.deleteSessions user.id) (.write (Database.deleteUser user.id) .commit))

def revokeCredentials (passwordHash : String) (user : PanelUser) (action : AdministratorAction) : Request :=
  query (·.openSessions user.id) fun ids => revokeAll ids
    (.write (Database.deleteLoginChallenges user.id) (finishAction passwordHash user action))

def manage (username passwordHash : String) (action : AdministratorAction) : Request :=
  query (·.administrator username) fun
    | none => .raise "Administrator not found"
    | some user => query Database.enabledAdministrators fun enabled =>
      if action = .delete ∧ user.disabled = false ∧ enabled ≤ 1 then
        .raise "At least one administrator must remain enabled"
      else if action = .delete then query (·.impersonated user.id) fun impersonated =>
        if impersonated then
          .raise "This administrator has impersonation history. Disable the login to retain that history."
        else revokeCredentials passwordHash user action
      else revokeCredentials passwordHash user action

def manageAdministrator (params : ManageParams) : Request :=
  if ¬ isPanelUsername params.username then .raise "Enter a valid administrator login name"
  else match params.action with
    | none => .raise "Choose a supported administrator action"
    | some action =>
      if params.username = params.actorUsername then
        .raise "Use your own account security settings to change your login"
      else if action = .password then match params.passwordHash with
        | .error message => .raise message
        | .ok passwordHash => manage params.username passwordHash action
      else manage params.username "" action

def disableTotp (panelUserId : Int) : Request :=
  let remove : Request := .write (Database.deleteRecoveryCodes panelUserId)
    (query (fun db => db.credentials.any (·.panelUserId = panelUserId)) fun found =>
      if found then .write (Database.deleteCredentials panelUserId) .commit else .commit)
  .beginImmediate (query (·.userById panelUserId) fun user =>
    query Database.requiresTwoFactor fun required =>
      if user.any (·.role = .admin) ∧ required then
        query Database.protectedAdministrators fun protectedCount =>
          if protectedCount ≤ 1 then .raise keepTwoFactor else remove
      else remove)

/-- `admin_2fa_grace_days` may be left out, or be no whole number. -/
structure PolicyParams where
  requireAdmin2fa : Option Bool
  admin2faGraceDays : Option (Option Int)
  now : Nat

def changed {α : Type} [DecidableEq α] (old new : α) : Option α := if new = old then none else some new

def updatePolicyRow (row : SecurityPolicySettings) (required : Bool) (grace : Int) (enabledAt : Option Nat) :
    Request :=
  let require := changed row.requireAdmin2fa required
  let graceDays := changed row.admin2faGraceDays grace
  let enabledAt := changed row.admin2faEnabledAt enabledAt
  if require = none ∧ graceDays = none ∧ enabledAt = none then .commit
  else .write (Database.updatePolicy require graceDays enabledAt) .commit

def setPolicyRow (params : PolicyParams) (row : SecurityPolicySettings) : Request :=
  match params.admin2faGraceDays.getD (some row.admin2faGraceDays) with
  | none => .raise "2FA grace period must be a whole number of days"
  | some grace =>
    if params.admin2faGraceDays.isSome ∧ ¬ (0 ≤ grace ∧ grace ≤ 30) then
      .raise "2FA grace period must be between 0 and 30 days"
    else
      let required := params.requireAdmin2fa.getD row.requireAdmin2fa
      if required ∧ row.requireAdmin2fa = false then
        query Database.protectedAdministrators fun protectedCount =>
          if protectedCount < 1 then
            .raise "Enable 2FA for at least one active administrator before requiring it"
          else updatePolicyRow row required grace (some params.now)
      else updatePolicyRow row required grace (if required then row.admin2faEnabledAt else none)

def defaultPolicy : SecurityPolicySettings :=
  { requireAdmin2fa := false, admin2faGraceDays := 7, admin2faEnabledAt := none }

/-- `security_policy_set`, up to its commit. -/
def securityPolicySet (params : PolicyParams) : Request :=
  query Database.policy fun
    | some row => setPolicyRow params row
    | none => .write (Database.insertPolicy defaultPolicy) (setPolicyRow params defaultPolicy)

inductive Operation
  | setAdministratorStatus (params : StatusParams)
  | manageAdministrator (params : ManageParams)
  | disableTotp (panelUserId : Int)
  | securityPolicySet (params : PolicyParams)

def Operation.request : Operation → Request
  | .setAdministratorStatus params => Administrators.setAdministratorStatus params
  | .manageAdministrator params => Administrators.manageAdministrator params
  | .disableTotp panelUserId => Administrators.disableTotp panelUserId
  | .securityPolicySet params => Administrators.securityPolicySet params

end Boron.Administrators
