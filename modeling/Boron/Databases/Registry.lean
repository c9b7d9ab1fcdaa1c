import Mathlib.Data.Finset.Image
import Boron.Accounts.Store

namespace Boron.Databases

structure Login where
  user : String
  host : String
  deriving DecidableEq

abbrev Privilege := String

/-- Every table with its definition and its rows. -/
abbrev Content := List (String × String)

structure Held where
  database : String
  login : Login
  privilege : Privilege
  deriving DecidableEq

structure Server where
  databases : String → Option Content
  logins : Finset Login
  held : Finset Held

/-- `HOSTED_DB_PRIVILEGE_NAMES`. -/
def hostedPrivileges : List Privilege :=
  ["SELECT", "INSERT", "UPDATE", "DELETE", "CREATE", "DROP", "ALTER", "INDEX", "REFERENCES",
    "CREATE TEMPORARY TABLES", "LOCK TABLES"]

/-- `READ_ONLY_DB_PRIVILEGES`. -/
def readOnlyPrivileges : List Privilege := ["SELECT"]

inductive Preset
  | all
  | readOnly
  | custom
  deriving DecidableEq

def normalizeDatabasePrivileges : Preset → List Privilege → Option (List Privilege)
  | .all, _ => some hostedPrivileges
  | .readOnly, _ => some readOnlyPrivileges
  | .custom, custom => if custom.all (· ∈ hostedPrivileges) && !custom.isEmpty then some custom.eraseDups else none

def Held.isHosted (held : Held) (name : String) (login : Login) : Bool :=
  held.database = name && held.login = login && decide (held.privilege ∈ hostedPrivileges)

namespace Server

/-- `database_statistics`: a database that is not there has no tables. -/
def tableCount (server : Server) (name : String) : Nat := ((server.databases name).getD []).length

/-- `database_grantees` finds somebody. -/
def isGranted (server : Server) (name : String) : Bool := decide (∃ held ∈ server.held, held.database = name)

def createDatabase (name : String) (server : Server) : Server :=
  if (server.databases name).isSome then server
  else { server with databases := Function.update server.databases name (some []) }

def fill (name : String) (content : Content) (server : Server) : Server :=
  { server with databases := Function.update server.databases name (some content) }

def dropDatabase (name : String) (server : Server) : Server :=
  { server with databases := Function.update server.databases name none }

def createLogin (login : Login) (server : Server) : Server := { server with logins := insert login server.logins }

def dropLogin (login : Login) (server : Server) : Server :=
  { server with
    logins := server.logins.erase login
    held := server.held.filter fun held => held.login ≠ login }

def renameLogin (old new : Login) (server : Server) : Server :=
  { server with
    logins := insert new (server.logins.erase old)
    held := server.held.image fun held => if held.login = old then { held with login := new } else held }

/-- `_revoke_hosted_privileges`: the other privileges of the login stay. -/
def revokeAll (name : String) (login : Login) (server : Server) : Server :=
  { server with held := server.held.filter fun held => !held.isHosted name login }

def grantPrivileges (name : String) (login : Login) (granted : List Privilege) (server : Server) : Server :=
  { server with held := (server.revokeAll name login).held ∪ (granted.map (⟨name, login, ·⟩)).toFinset }

section
variable {server : Server} {name other : String} {login : Login} {granted : List Privilege} {content : Content}
  {held : Held}

theorem createDatabase_eq : (server.createDatabase name).logins = server.logins ∧
    (server.createDatabase name).held = server.held := by
  unfold createDatabase
  split <;> exact ⟨rfl, rfl⟩

theorem createDatabase_other (apart : other ≠ name) :
    (server.createDatabase name).databases other = server.databases other := by
  unfold createDatabase
  split
  · rfl
  · exact Function.update_of_ne apart ..

theorem dropDatabase_other (apart : other ≠ name) : (server.dropDatabase name).databases other = server.databases other :=
  Function.update_of_ne apart ..

@[simp] theorem dropDatabase_self : (server.dropDatabase name).databases name = none := Function.update_self ..

theorem fill_other (apart : other ≠ name) : (server.fill name content).databases other = server.databases other :=
  Function.update_of_ne apart ..

@[simp] theorem fill_self : (server.fill name content).databases name = some content := Function.update_self ..

theorem mem_revokeAll : held ∈ (server.revokeAll name login).held ↔ held ∈ server.held ∧ held.isHosted name login = false := by
  simp [revokeAll]

theorem mem_grantPrivileges : held ∈ (server.grantPrivileges name login granted).held ↔
    (held ∈ server.held ∧ held.isHosted name login = false) ∨
      (held.database = name ∧ held.login = login ∧ held.privilege ∈ granted) := by
  obtain ⟨database, who, privilege⟩ := held
  simp only [grantPrivileges, Finset.mem_union, mem_revokeAll, List.mem_toFinset, List.mem_map, Held.mk.injEq]
  refine or_congr Iff.rfl ?_
  constructor
  · rintro ⟨_, member, rfl, rfl, rfl⟩
    exact ⟨rfl, rfl, member⟩
  · rintro ⟨rfl, rfl, member⟩
    exact ⟨privilege, member, rfl, rfl, rfl⟩

end

end Server

end Boron.Databases

namespace Boron.Databases

open Accounts (Status)

structure Account where
  id : Nat
  username : String
  status : Status
  deriving DecidableEq

structure DatabaseGrant where
  id : Nat
  accountId : Nat
  dbName : String
  dbUser : String
  deriving DecidableEq

structure DatabaseUser where
  id : Nat
  accountId : Nat
  dbUser : String
  host : String
  deriving DecidableEq

def DatabaseUser.login (user : DatabaseUser) : Login := ⟨user.dbUser, user.host⟩

structure DatabaseUserGrant where
  id : Nat
  databaseGrantId : Nat
  databaseUserId : Nat
  privileges : Preset
  privilegeList : List Privilege
  deriving DecidableEq

/-- Every table is in the order of its ids. -/
structure Registry where
  accounts : List Account
  grants : List DatabaseGrant
  users : List DatabaseUser
  links : List DatabaseUserGrant
  deriving DecidableEq

/-- The primary keys and unique columns of the schema. -/
structure Registry.Sound (registry : Registry) : Prop where
  usernames : Rows.Unique Account.username registry.accounts
  accountIds : Rows.Unique Account.id registry.accounts
  grantIds : Rows.Unique DatabaseGrant.id registry.grants
  names : Rows.Unique DatabaseGrant.dbName registry.grants
  userIds : Rows.Unique DatabaseUser.id registry.users
  logins : Rows.Unique DatabaseUser.login registry.users
  linkIds : Rows.Unique DatabaseUserGrant.id registry.links
  pairs : Rows.Unique (fun link : DatabaseUserGrant => (link.databaseGrantId, link.databaseUserId)) registry.links

structure Assignment where
  login : Login
  preset : Preset
  custom : List Privilege
  deriving DecidableEq

def isIdentifierTail (c : Char) : Bool := c.isLower || c.isDigit || c = '_'

def validateDbIdentifier (maxLen : Nat) (name : String) : Option String :=
  match name.toList with
  | [] => none
  | first :: rest =>
    if first.isLower && rest.all isIdentifierTail && decide (rest.length ≤ 62) && decide (rest.length + 1 ≤ maxLen)
    then some name else none

def scopedName (username suffix : String) : Option String := do
  let suffix ← validateDbIdentifier 40 suffix
  validateDbIdentifier 64 (username ++ "_" ++ suffix)

namespace Registry
variable (registry : Registry)

def account (username : String) : Option Account := Rows.byKey Account.username registry.accounts username

def resolveExistingDbName (username name : String) : Option String := do
  let candidate ← validateDbIdentifier 64 name
  let known := match registry.account username with
    | none => false
    | some account =>
      registry.grants.any (fun grant => grant.accountId = account.id && grant.dbName = candidate)
        || registry.users.any fun user => user.accountId = account.id && user.dbUser = candidate
  if known || (username ++ "_").toList.isPrefixOf candidate.toList then some candidate
  else scopedName username candidate

def databaseOf (accountId : Nat) (name : String) : Option DatabaseGrant :=
  registry.grants.find? fun grant => grant.accountId = accountId && grant.dbName = name

def userOf (accountId : Nat) (login : Login) : Option DatabaseUser :=
  registry.users.find? fun user => user.accountId = accountId && user.login = login

def link (grantId userId : Nat) : Option DatabaseUserGrant :=
  registry.links.find? fun link => link.databaseGrantId = grantId && link.databaseUserId = userId

def addUser (accountId : Nat) (login : Login) : Registry :=
  { registry with users := registry.users ++
      [⟨Rows.next DatabaseUser.id registry.users, accountId, login.user, login.host⟩] }

def addLink (grantId userId : Nat) (preset : Preset) (custom : List Privilege) : Registry :=
  { registry with links := registry.links ++
      [⟨Rows.next DatabaseUserGrant.id registry.links, grantId, userId, preset, custom⟩] }

def ensureLink (grantId userId : Nat) : Registry :=
  if (registry.link grantId userId).isSome then registry else registry.addLink grantId userId .all []

/-- One round of `_ensure_user_rows`; a second row for one login is refused. -/
def ensureUserRow (accountId : Nat) (grant : DatabaseGrant) : Option Registry :=
  match registry.userOf accountId ⟨grant.dbUser, "localhost"⟩ with
  | some user => some (registry.ensureLink grant.id user.id)
  | none =>
    if registry.users.any fun user => user.login = ⟨grant.dbUser, "localhost"⟩ then none
    else some ((registry.addUser accountId ⟨grant.dbUser, "localhost"⟩).ensureLink grant.id
      (Rows.next DatabaseUser.id registry.users))

def ensureUserRows (accountId : Nat) : Option Registry :=
  (registry.grants.filter (·.accountId = accountId)).foldlM (fun registry grant => registry.ensureUserRow accountId grant) registry

/-- The rows of `_database_assignments` after the rows of the users are ensured. -/
def databaseAssignments (grantId : Nat) : List Assignment :=
  registry.users.filterMap fun user =>
    (registry.link grantId user.id).map fun link => ⟨user.login, link.privileges, link.privilegeList⟩

section
variable {registry left : Registry} {name : String} {accountId grantId userId : Nat} {grant : DatabaseGrant} {login : Login}
  {preset : Preset} {custom : List Privilege}

theorem link_none : registry.link grantId userId = none ↔
    ∀ link ∈ registry.links, (link.databaseGrantId, link.databaseUserId) ≠ (grantId, userId) := by
  simp [link]

theorem userOf_some {user : DatabaseUser} (found : registry.userOf accountId login = some user) :
    user ∈ registry.users ∧ user.accountId = accountId ∧ user.login = login := by
  have member : user ∈ registry.users := List.mem_of_find?_eq_some found
  have fits := List.find?_some found
  simp only [Bool.and_eq_true, decide_eq_true_eq] at fits
  exact ⟨member, fits⟩

theorem databaseOf_some (found : registry.databaseOf accountId name = some grant) :
    grant ∈ registry.grants ∧ grant.accountId = accountId ∧ grant.dbName = name := by
  have member : grant ∈ registry.grants := List.mem_of_find?_eq_some found
  have fits := List.find?_some found
  simp only [Bool.and_eq_true, decide_eq_true_eq] at fits
  exact ⟨member, fits⟩

theorem Sound.addUser (sound : registry.Sound) (fresh : ∀ user ∈ registry.users, user.login ≠ login) :
    (registry.addUser accountId login).Sound := by
  refine { sound with userIds := Rows.unique_append sound.userIds fun other inside => ?_,
                      logins := Rows.unique_append sound.logins fresh }
  exact Nat.ne_of_lt (Rows.lt_next inside)

theorem Sound.addLink (sound : registry.Sound) (fresh : registry.link grantId userId = none) :
    (registry.addLink grantId userId preset custom).Sound := by
  refine { sound with linkIds := Rows.unique_append sound.linkIds fun other inside => ?_,
                      pairs := Rows.unique_append sound.pairs (link_none.mp fresh) }
  exact Nat.ne_of_lt (Rows.lt_next inside)

theorem Sound.ensureLink (sound : registry.Sound) : (registry.ensureLink grantId userId).Sound := by
  unfold Registry.ensureLink
  cases found : registry.link grantId userId with
  | some link => exact sound
  | none => exact sound.addLink found

theorem ensureLink_tables (registry : Registry) (grantId userId : Nat) : (registry.ensureLink grantId userId).accounts = registry.accounts ∧
    (registry.ensureLink grantId userId).grants = registry.grants ∧
      (registry.ensureLink grantId userId).users = registry.users := by
  unfold ensureLink
  split <;> exact ⟨rfl, rfl, rfl⟩

theorem ensureUserRow_sound (sound : registry.Sound) (ensured : registry.ensureUserRow accountId grant = some left) :
    left.Sound ∧ left.accounts = registry.accounts ∧ left.grants = registry.grants := by
  unfold ensureUserRow at ensured
  cases found : registry.userOf accountId ⟨grant.dbUser, "localhost"⟩ with
  | some user =>
    simp only [found, Option.some.injEq] at ensured
    subst ensured
    obtain ⟨accounts, grants, _⟩ := ensureLink_tables registry grant.id user.id
    exact ⟨sound.ensureLink, accounts, grants⟩
  | none =>
    simp only [found] at ensured
    split at ensured
    · cases ensured
    · next unknown =>
      cases ensured
      have fresh : ∀ user ∈ registry.users, user.login ≠ ⟨grant.dbUser, "localhost"⟩ := by
        intro user inside same
        exact unknown (List.any_eq_true.mpr ⟨user, inside, decide_eq_true same⟩)
      have tables := ensureLink_tables (registry.addUser accountId ⟨grant.dbUser, "localhost"⟩) grant.id
        (Rows.next DatabaseUser.id registry.users)
      exact ⟨(sound.addUser fresh).ensureLink, tables.1, tables.2.1⟩

theorem foldlM_ensure_sound {grants : List DatabaseGrant} (sound : registry.Sound)
    (ensured : grants.foldlM (fun registry grant => registry.ensureUserRow accountId grant) registry = some left) :
    left.Sound ∧ left.accounts = registry.accounts ∧ left.grants = registry.grants := by
  induction grants generalizing registry with
  | nil =>
    cases ensured
    exact ⟨sound, rfl, rfl⟩
  | cons grant rest ih =>
    obtain ⟨mid, first, later⟩ := Option.bind_eq_some_iff.mp ensured
    obtain ⟨sound', accounts, grants⟩ := ensureUserRow_sound sound first
    obtain ⟨sound'', accounts', grants'⟩ := ih sound' later
    exact ⟨sound'', accounts'.trans accounts, grants'.trans grants⟩

theorem ensureUserRows_sound (sound : registry.Sound) (ensured : registry.ensureUserRows accountId = some left) :
    left.Sound ∧ left.accounts = registry.accounts ∧ left.grants = registry.grants := foldlM_ensure_sound sound ensured

theorem databaseAssignments_nodup (sound : registry.Sound) :
    ((registry.databaseAssignments grantId).map Assignment.login).Nodup := by
  have named : (registry.databaseAssignments grantId).map Assignment.login
      = (registry.users.filter fun user => (registry.link grantId user.id).isSome).map DatabaseUser.login := by
    unfold databaseAssignments
    induction registry.users with
    | nil => rfl
    | cons user rest ih =>
      cases found : registry.link grantId user.id with
      | none => simpa [found] using ih
      | some link => simpa [found] using ih
  rw [named]
  exact Rows.unique_filter sound.logins _

end

end Registry

end Boron.Databases
