import Boron.Accounts.Store
import Boron.Lib.Tasks

namespace Boron.Impersonation

open Accounts (Role Status)

structure Account where
  id : Nat
  username : String
  status : Status

/-- `serial` is not stored: how many users were created before. -/
structure PanelUser where
  id : Nat
  username : String
  role : Role
  disabled : Bool
  serial : Nat

/-- `sessionId` is the digest. -/
structure Session where
  sessionId : String
  panelUserId : Nat
  expiresAt : Int
  revoked : Bool

/-- `createdBy` is not stored: the serial of the administrator who asked for the token. -/
structure ImpersonationToken where
  tokenHash : String
  accountId : Nat
  adminUsername : String
  expiresAt : Int
  usedAt : Option Int
  createdBy : Nat

/-- `openedBy` is not stored: the serial of the administrator. -/
structure ImpersonationSession where
  sessionId : String
  accountId : Nat
  adminPanelUserId : Nat
  adminUsername : String
  adminSessionEnc : Option String
  endedAt : Option Int
  openedBy : Nat

structure Tables where
  accounts : List Account
  users : List PanelUser
  sessions : List Session
  tokens : List ImpersonationToken
  impersonations : List ImpersonationSession

/-- What a transaction did, with the clock and the tables that it found. -/
inductive Event
  | opened (tokenHash sessionId : String) (panelUserId : Nat) (now : Int) (before : Tables)
  | ended (sessionId : String) (proof : Option String) (restored : Bool) (now : Int) (before : Tables)

structure Store where
  tables : Tables
  created : Nat
  log : List Event

/-- Hashes and encryption as other code computes them. -/
structure Host where
  sha256 : String → String
  encryptSecret : String → String
  decryptSecret : String → Option String

def tokenTtl : Int := 5 * 60 * 1000000
def impersonationSessionTtl : Int := 2 * 3600 * 1000000

def sessionDigest (host : Host) (raw : String) : Option String := if raw = "" then none else some (host.sha256 raw)

def PanelUser.isActiveAdmin (user : PanelUser) : Bool := user.role = .admin && !user.disabled

def Account.isImpersonatable (account : Account) : Bool := account.status = .active || account.status = .suspended

structure RedeemParams where
  token : String
  adminUsername : String
  adminPanelUserId : Nat
  adminSessionId : Option String

structure EndParams where
  sessionId : String
  adminSessionId : Option String

namespace Tables
variable (tables : Tables)

def user (id : Nat) : Option PanelUser := Rows.byKey PanelUser.id tables.users id
def account (id : Nat) : Option Account := Rows.byKey Account.id tables.accounts id
def session (digest : String) : Option Session := Rows.byKey Session.sessionId tables.sessions digest
def token (hash : String) : Option ImpersonationToken := Rows.byKey ImpersonationToken.tokenHash tables.tokens hash
def impersonation (digest : String) : Option ImpersonationSession :=
  Rows.byKey ImpersonationSession.sessionId tables.impersonations digest

/-- `create_token`, by the administrator with a serial. -/
def createToken (hash username adminUsername : String) (creator : Nat) (now : Int) : Option Tables := do
  let account ← Rows.byKey Account.username tables.accounts username
  if account.isImpersonatable && (tables.token hash).isNone then
    some { tables with tokens := tables.tokens ++ [⟨hash, account.id, adminUsername, now + tokenTtl, none, creator⟩] }
  else none

/-- The tokens that `redeem_token` accepts. -/
def redeemable (hash adminUsername : String) (now : Int) : Option ImpersonationToken :=
  (tables.token hash).filter fun row => row.usedAt.isNone && decide (now < row.expiresAt) && decide (row.adminUsername = adminUsername)

def redeemer (params : RedeemParams) : Option PanelUser :=
  (tables.user params.adminPanelUserId).filter fun user => user.isActiveAdmin && decide (user.username = params.adminUsername)

def useToken (hash : String) (now : Int) : Tables :=
  { tables with tokens := Rows.change ImpersonationToken.tokenHash hash (fun row => { row with usedAt := some now }) tables.tokens }

def openSession (session : Session) : Option Tables :=
  if (tables.session session.sessionId).isNone && (tables.user session.panelUserId).isSome then
    some { tables with sessions := tables.sessions ++ [session] }
  else none

def addImpersonation (row : ImpersonationSession) : Option Tables :=
  if (tables.impersonation row.sessionId).isNone then
    some { tables with impersonations := tables.impersonations ++ [row] }
  else none

/-- `redeem_token`; `now` was read before the transaction. -/
def redeemToken (host : Host) (params : RedeemParams) (now : Int) (digest : String) : Option Tables := do
  let row ← tables.redeemable (host.sha256 params.token) params.adminUsername now
  let account ← (tables.account row.accountId).filter Account.isImpersonatable
  let admin ← tables.redeemer params
  let opened ← (tables.useToken row.tokenHash now).openSession ⟨digest, admin.id, now + impersonationSessionTtl, false⟩
  opened.addImpersonation ⟨digest, account.id, admin.id, params.adminUsername,
    (params.adminSessionId.filter (· ≠ "")).map host.encryptSecret, none, admin.serial⟩

/-- The session that `end` may restore: live, not scoped, and of the administrator, who is active. -/
def parentIsLive (imp : ImpersonationSession) (parent : Session) (now : Int) : Bool :=
  !parent.revoked && decide (now < parent.expiresAt) && decide (parent.panelUserId = imp.adminPanelUserId)
    && (tables.user imp.adminPanelUserId).any PanelUser.isActiveAdmin
    && (tables.impersonation parent.sessionId).isNone

def isAscii (text : String) : Bool := text.toList.all (·.toNat < 128)

/-- `secrets.compare_digest` raises on other characters than those of ASCII. -/
def compareDigest (left right : String) : Option Bool :=
  if isAscii left && isAscii right then some (left = right) else none

/-- `expected and secrets.compare_digest(proof, expected)`. -/
def matchesProof (expected proof : String) : Option Bool := if expected = "" then some false else compareDigest proof expected

def hasLiveParent (host : Host) (imp : ImpersonationSession) (now : Int) (proof : String) : Option Bool :=
  (sessionDigest host proof).map fun digest => (tables.session digest).any fun parent => tables.parentIsLive imp parent now

/-- The proof of `end` against the session kept with the impersonation; none is an exception. -/
def proves (host : Host) (imp : ImpersonationSession) (now : Int) (proof : String) : Option Bool := do
  let expected ← host.decryptSecret (imp.adminSessionEnc.getD "")
  let same ← matchesProof expected proof
  if same then tables.hasLiveParent host imp now proof else some false

/-- `restored`, when the scoped session is still alive. -/
def restores (host : Host) (imp : ImpersonationSession) (params : EndParams) (now : Nat → Int) : Option Bool :=
  let scopedAlive := imp.endedAt.isNone
    && (tables.session imp.sessionId).any fun row => !row.revoked && decide (now 1 < row.expiresAt)
  match params.adminSessionId with
  | some proof =>
    if scopedAlive && proof ≠ "" && imp.adminSessionEnc.any (· ≠ "") then tables.proves host imp (now 2) proof
    else some false
  | none => some false

def close (digest : String) (now : Int) : Tables :=
  { tables with
    impersonations := Rows.change ImpersonationSession.sessionId digest
      (fun row => { row with endedAt := some (row.endedAt.getD now), adminSessionEnc := none }) tables.impersonations
    sessions := Rows.change Session.sessionId digest (fun row => { row with revoked := true }) tables.sessions }

/-- `UPDATE` of rows that were read before; a row that is gone is a stale update. -/
def revokeSessions (digests : List String) : Option Tables :=
  if digests.all fun digest => (tables.session digest).isSome then
    some { tables with sessions := tables.sessions.map fun row =>
      if row.sessionId ∈ digests then { row with revoked := true } else row }
  else none

def endImpersonations (digests : List String) (now : Int) : Option Tables :=
  if digests.all fun digest => (tables.impersonation digest).isSome then
    some { tables with impersonations := tables.impersonations.map fun row =>
      if row.sessionId ∈ digests then { row with endedAt := some now } else row }
  else none

def setDisabled (id : Nat) (disabled : Bool) : Tables :=
  { tables with users := Rows.change PanelUser.id id (fun user => { user with disabled }) tables.users }

/-- `DELETE` of the sessions of a user, and of the user; a row that still names the user forbids it. -/
def deleteUser (id : Nat) : Option Tables :=
  if tables.impersonations.any (·.adminPanelUserId = id) then none
  else some { tables with
    sessions := tables.sessions.filter fun row => row.panelUserId ≠ id
    users := Rows.drop PanelUser.id id tables.users }

def addAdministrator (username : String) (serial : Nat) : Option Tables :=
  if tables.users.any (·.username = username) then none
  else some { tables with users := tables.users ++
    [⟨Rows.next PanelUser.id tables.users, username, .admin, false, serial⟩] }

def sessionsOf (id : Nat) : List String := (tables.sessions.filter fun row => row.panelUserId = id).map Session.sessionId

end Tables

end Boron.Impersonation

namespace Boron.Impersonation

inductive Call
  | createToken (username adminUsername credential : String)
  | redeemToken (params : RedeemParams)
  | end_ (params : EndParams)
  | revokeSession (sessionId : String)
  | revokeManagedSession (panelUserId : Nat) (digest : String)
  | revokeOtherSessions (panelUserId : Nat) (current : String)
  | login (panelUserId : Nat) (ttl : Int)
  | createAdministrator (username : String)
  | setAdministratorStatus (username : String) (disabled : Bool)
  | deleteAdministrator (username : String)
  | changeAdministratorPassword (username : String)
  | setAccountStatus (id : Nat) (status : Accounts.Status)

/-- What a turn finds outside: the call that begins, whether it raises, the readings of the
clock and what `secrets` draws. -/
structure Moment where
  call : Call
  raises : Bool
  now : Nat → Int
  drawn : String

/-- Where an operation stands between two of its transactions. -/
inductive Task
  | idle
  | createToken (username adminUsername : String) (creator : Nat)
  | redeemToken (params : RedeemParams) (now : Int)
  | revoke (ended sessions : List String)
  | setStatus (id : Nat) (disabled : Bool)
  | delete (id : Nat) (sessions : List String)

namespace Tables
variable (tables : Tables)

/-- The administrator whose live session this credential is, not an impersonation of theirs. -/
def principal (host : Host) (credential : String) (now : Int) : Option PanelUser := do
  let digest ← sessionDigest host credential
  let session ← (tables.session digest).filter fun row => !row.revoked && decide (now < row.expiresAt)
  if (tables.impersonation digest).any (·.endedAt.isNone) then none
  else (tables.user session.panelUserId).filter PanelUser.isActiveAdmin

def administrator (username : String) : Option PanelUser :=
  tables.users.find? fun user => user.username = username && user.role = .admin

def active (sessions : List String) : List String :=
  sessions.filter fun digest => (tables.impersonation digest).any (·.endedAt.isNone)

def openSessions (panelUserId : Nat) (current : String) : List String :=
  (tables.sessions.filter fun row => row.panelUserId = panelUserId && !row.revoked && row.sessionId ≠ current).map Session.sessionId

end Tables

def Store.commit (store : Store) : Option Tables → Store
  | some tables => { store with tables }
  | none => store

/-- `authorize` before `create_token`. -/
def beginCreateToken (host : Host) (username adminUsername credential : String) (moment : Moment) (store : Store) : Task × Store :=
  match store.tables.principal host credential (moment.now 0) with
  | some admin =>
    if admin.username = adminUsername then (.createToken username adminUsername admin.serial, store) else (.idle, store)
  | none => (.idle, store)

def finishRedeem (host : Host) (params : RedeemParams) (now : Int) (moment : Moment) (store : Store) : Store :=
  match sessionDigest host moment.drawn with
  | none => store
  | some digest =>
    match store.tables.redeemToken host params now digest with
    | none => store
    | some tables => { store with
        tables
        log := .opened (host.sha256 params.token) digest params.adminPanelUserId (moment.now 0) store.tables :: store.log }

def runEnd (host : Host) (params : EndParams) (moment : Moment) (store : Store) : Store :=
  match sessionDigest host params.sessionId with
  | none => store
  | some digest =>
    match store.tables.impersonation digest with
    | none => store
    | some imp =>
      match store.tables.restores host imp params moment.now with
      | none => store
      | some restored => { store with
          tables := store.tables.close digest (moment.now 3)
          log := .ended digest params.adminSessionId restored (moment.now 2) store.tables :: store.log }

def begins (host : Host) (moment : Moment) (store : Store) : Task × Store :=
  match moment.call with
  | .createToken username adminUsername credential => beginCreateToken host username adminUsername credential moment store
  | .redeemToken params => (.redeemToken params (moment.now 0), store)
  | .end_ params => (.idle, runEnd host params moment store)
  | .revokeSession sessionId =>
    match (sessionDigest host sessionId).bind store.tables.session with
    | some row => (.revoke [] [row.sessionId], store)
    | none => (.idle, store)
  | .revokeManagedSession panelUserId digest =>
    match store.tables.session digest with
    | some row =>
      if row.panelUserId = panelUserId && !row.revoked then (.revoke (store.tables.active [digest]) [digest], store)
      else (.idle, store)
    | none => (.idle, store)
  | .revokeOtherSessions panelUserId current =>
    let rows := store.tables.openSessions panelUserId current
    (.revoke (store.tables.active rows) rows, store)
  | .login panelUserId ttl =>
    (.idle, store.commit ((sessionDigest host moment.drawn).bind fun digest =>
      store.tables.openSession ⟨digest, panelUserId, moment.now 0 + ttl, false⟩))
  | .createAdministrator username =>
    match store.tables.addAdministrator username store.created with
    | some tables => (.idle, { store with tables, created := store.created + 1 })
    | none => (.idle, store)
  | .setAdministratorStatus username disabled =>
    match store.tables.administrator username with
    | some user => (.setStatus user.id disabled, store)
    | none => (.idle, store)
  | .deleteAdministrator username =>
    match store.tables.administrator username with
    | some user => (.delete user.id (store.tables.sessionsOf user.id), store)
    | none => (.idle, store)
  | .changeAdministratorPassword username =>
    match store.tables.administrator username with
    | some user => (.revoke [] (store.tables.sessionsOf user.id), store)
    | none => (.idle, store)
  | .setAccountStatus id status =>
    (.idle, { store with tables := { store.tables with
      accounts := Rows.change Account.id id (fun row => { row with status }) store.tables.accounts } })

def continues (host : Host) (task : Task) (moment : Moment) (store : Store) : Store :=
  match task with
  | .idle => store
  | .createToken username adminUsername creator =>
    store.commit (store.tables.createToken (host.sha256 moment.drawn) username adminUsername creator (moment.now 0))
  | .redeemToken params now => finishRedeem host params now moment store
  | .revoke ended sessions =>
    store.commit ((store.tables.endImpersonations ended (moment.now 0)).bind (·.revokeSessions sessions))
  | .setStatus id disabled =>
    if disabled then store.commit ((store.tables.setDisabled id disabled).revokeSessions (store.tables.sessionsOf id))
    else store.commit (some (store.tables.setDisabled id disabled))
  | .delete id sessions => store.commit ((store.tables.revokeSessions sessions).bind (·.deleteUser id))

def advance (host : Host) (_ : Nat) (moment : Moment) (task : Task) (store : Store) : Task × Store :=
  if moment.raises then (.idle, store)
  else match task with
    | .idle => begins host moment store
    | _ => (.idle, continues host task moment store)

abbrev Panel := Tasks.Server Nat Task Store

end Boron.Impersonation
