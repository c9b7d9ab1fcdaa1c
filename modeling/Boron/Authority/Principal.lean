import Mathlib.Data.List.DropRight
import Mathlib.Data.Rat.Defs
import Boron.Lib.Sys
import Boron.Lib.Rows

namespace Boron.Authority

/-- A value of a request, as JSON decodes it. Nothing looks inside a list or
an object. -/
inductive Value
  | null
  | bool (b : Bool)
  | int (n : Int)
  | float (q : Rat)
  | text (s : String)
  | compound
  deriving DecidableEq

abbrev Params := String → Option Value

/-- `params.get(key)` -/
def Params.get (params : Params) (key : String) : Value := (params key).getD .null

/-- `isinstance(value, str) and value` -/
def Value.nonempty : Value → Option String
  | .text s => if s = "" then none else some s
  | _ => none

inductive Failure
  | authentication (message : String)
  | authorization (message : String)
  | value (message : String)

inductive Role
  | admin
  | reseller
  | customer
  | cluster
  | updateFinalizer
  deriving DecidableEq

inductive AuthMethod
  | session
  | token
  | cluster
  | updateFinalizer
  deriving DecidableEq

structure Account where
  id : Int
  username : String
  status : String

structure OwnedDomain where
  domain : String
  accountId : Int

structure PanelUser where
  id : Int
  username : String
  role : String
  accountId : Option Int
  disabled : Bool
  passwordHash : String

structure Session where
  sessionId : String
  panelUserId : Int
  expiresAt : Nat
  revoked : Bool

structure ImpersonationSession where
  sessionId : String
  accountId : Int
  adminPanelUserId : Int
  ended : Bool

structure ResellerProfile where
  id : Int
  panelUserId : Int
  status : String

structure ResellerAccount where
  resellerId : Int
  accountId : Int

structure ApiToken where
  tokenHash : String
  label : String
  role : String
  accountId : Option Int
  createdAt : Nat
  revoked : Bool
  scope : String
  expiresAt : Option Nat

structure DnsClusterPeer where
  name : String
  peerType : String
  credentialHash : String
  enabled : Bool

structure UpdateJob where
  id : Int
  finalizerTokenHash : Option String
  status : String
  startedAt : Nat

structure RestoreJob where
  id : Int
  accountId : Int

structure ControlTask where
  id : Int
  operation : String
  accountId : Option Int

structure TotpCredential where
  panelUserId : Int
  enabled : Bool

/-- The tables the policy reads, with the unique columns that identify a
target. -/
structure Database where
  accounts : List Account
  domains : List OwnedDomain
  mailDomains : List OwnedDomain
  panelUsers : List PanelUser
  sessions : List Session
  impersonations : List ImpersonationSession
  resellerProfiles : List ResellerProfile
  resellerAccounts : List ResellerAccount
  apiTokens : List ApiToken
  peers : List DnsClusterPeer
  updateJobs : List UpdateJob
  restoreJobs : List RestoreJob
  controlTasks : List ControlTask
  totpCredentials : List TotpCredential
  usernames : Rows.Unique Account.username accounts
  domainNames : Rows.Unique OwnedDomain.domain domains
  mailDomainNames : Rows.Unique OwnedDomain.domain mailDomains

/-- What the policy calls: the clock, the text functions of the language, the
digests, and the second factor and task lookups of the daemon. -/
structure Host where
  now : Nat
  strip : String → String
  lower : String → String
  encodesIdna : String → Bool
  intOfText : String → Option Int
  sha256 : String → String
  verifyPassword : String → String → Bool
  checkLoginCode : Option Int → String → Except Failure Bool
  ownerAccountId : Value → Value → Except Failure (Option Int)

/-- `int(value)` -/
def Host.int (host : Host) : Value → Option Int
  | .null => none
  | .bool b => some (if b then 1 else 0)
  | .int n => some n
  | .float q => some (q.num.tdiv q.den)
  | .text s => host.intOfText s
  | .compound => none

/-- `value == number`, where a truth value or a float may equal a number. -/
def Value.equalsInt (value : Value) (number : Option Int) : Bool :=
  match value, number with
  | .null, none => true
  | .bool b, some n => (if b then 1 else 0) = n
  | .int m, some n => m = n
  | .float q, some n => q = n
  | _, _ => false

def Host.sessionDigest (host : Host) : Value → Except Failure String
  | .text s => if s = "" then .error (.value "invalid session identifier") else .ok (host.sha256 s)
  | _ => .error (.value "invalid session identifier")

def isLabelChar (c : Char) : Bool := c.isLower || c.isDigit || c = '-'

def isLabel (label : List Char) : Bool :=
  1 ≤ label.length && label.length ≤ 63 && label.all isLabelChar &&
    label.head? ≠ some '-' && label.getLast? ≠ some '-'

/-- `DOMAIN_RE` -/
def isDomain (candidate : List Char) : Bool :=
  1 ≤ candidate.length && candidate.length ≤ 253 && 2 ≤ (candidate.splitOn '.').length &&
    (candidate.splitOn '.').all isLabel

/-- `validate_domain`, its messages apart: the policy replaces each by its own. -/
def Host.validateDomain (host : Host) (domain : String) : Option String :=
  let candidate := String.ofList ((host.lower (host.strip domain)).toList.rdropWhile (· = '.'))
  if host.encodesIdna candidate ∧ isDomain candidate.toList then some candidate else none

end Boron.Authority

namespace Boron.Authority
open Checks

structure Principal where
  role : Role
  username : String
  accountId : Option Int
  panelUserId : Option Int
  authMethod : AuthMethod
  sessionHash : Option String
  resellerId : Option Int
  impersonating : Bool
  readOnly : Bool

/-- A credential in the shape of a panel credential: a dictionary with these
two keys and no other. -/
structure Credential where
  type : Value
  value : Value

def tokenMaxAge : Nat := 90 * 24 * 60 * 60

def authentication (message : String) : Failure := .authentication message

def authorization (message : String) : Failure := .authorization message

variable (host : Host) (db : Database)

def resolveFinalizer (raw : String) : Except Failure Principal := do
  let digest := host.sha256 raw
  let job ← orRaise (db.updateJobs.find? fun job =>
      job.finalizerTokenHash = some digest ∧ job.status = "finalizing")
    (authentication "invalid or expired update finalizer credential")
  raiseIf (job.startedAt + 2 * 60 * 60 ≤ host.now) (authentication "invalid or expired update finalizer credential")
  return { role := .updateFinalizer, username := "update-finalizer-" ++ toString job.id, accountId := none,
           panelUserId := none, authMethod := .updateFinalizer, sessionHash := none, resellerId := none,
           impersonating := false, readOnly := false }

def resolveCluster (raw : String) : Except Failure Principal := do
  let digest := host.sha256 raw
  let peer ← orRaise (db.peers.find? fun peer =>
      peer.credentialHash = digest ∧ peer.peerType = "boron" ∧ peer.enabled)
    (authentication "invalid DNS cluster credential")
  return { role := .cluster, username := peer.name, accountId := none, panelUserId := none,
           authMethod := .cluster, sessionHash := none, resellerId := none, impersonating := false,
           readOnly := false }

/-- An administrator's session while it stands for a customer. -/
def resolveImpersonation (digest : String) (user : PanelUser) (imp : ImpersonationSession) :
    Except Failure Principal := do
  let account ← orRaise (Rows.byKey Account.id db.accounts imp.accountId)
    (authentication "invalid impersonation session")
  raiseIf (user.role ≠ "admin" ∨ imp.adminPanelUserId ≠ user.id) (authentication "invalid impersonation session")
  return { role := .customer, username := user.username, accountId := some account.id,
           panelUserId := some user.id, authMethod := .session, sessionHash := some digest,
           resellerId := none, impersonating := true, readOnly := false }

def activeAccount (accountId : Option Int) (message : String) : Except Failure Unit := do
  let id ← orRaise accountId (authentication message)
  let account ← orRaise (Rows.byKey Account.id db.accounts id) (authentication message)
  raiseIf (account.status ≠ "active") (authentication message)

def panelRole (text : String) : Option Role :=
  if text = "admin" then some .admin
  else if text = "reseller" then some .reseller
  else if text = "customer" then some .customer
  else none

def resolveSession (raw : String) : Except Failure Principal := do
  let digest ← host.sessionDigest (.text raw)
  let session ← orRaise (Rows.byKey Session.sessionId db.sessions digest)
    (authentication "invalid or expired panel session")
  raiseIf (session.revoked ∨ session.expiresAt ≤ host.now) (authentication "invalid or expired panel session")
  let user ← orRaise (Rows.byKey PanelUser.id db.panelUsers session.panelUserId)
    (authentication "panel user unavailable")
  raiseIf user.disabled (authentication "panel user unavailable")
  let role ← orRaise (panelRole user.role) (authentication "panel user unavailable")
  match db.impersonations.find? fun imp => imp.sessionId = digest ∧ imp.ended = false with
  | some imp => resolveImpersonation db digest user imp
  | none =>
    let direct : Principal :=
      { role, username := user.username, accountId := user.accountId, panelUserId := some user.id,
        authMethod := .session, sessionHash := some digest, resellerId := none, impersonating := false,
        readOnly := false }
    match role with
    | .reseller =>
      let profile ← orRaise (db.resellerProfiles.find? fun profile =>
          profile.panelUserId = user.id ∧ profile.status = "active")
        (authentication "reseller unavailable")
      return { direct with resellerId := some profile.id }
    | .customer =>
      activeAccount db user.accountId "customer account unavailable"
      return direct
    | _ => return direct

def tokenRole (text : String) : Option Role :=
  if text = "admin" then some .admin else if text = "customer" then some .customer else none

def tokenAccount (role : Role) (accountId : Option Int) : Except Failure Unit :=
  if role = .customer then activeAccount db accountId "API token account unavailable" else .ok ()

def resolveToken (raw : String) : Except Failure Principal := do
  let digest := host.sha256 raw
  let token ← orRaise (Rows.byKey ApiToken.tokenHash db.apiTokens digest)
    (authentication "invalid or expired API token")
  raiseIf (token.revoked ∨ token.createdAt + tokenMaxAge ≤ host.now ∨
      token.expiresAt.any (· ≤ host.now)) (authentication "invalid or expired API token")
  let role ← orRaise (tokenRole token.role) (authentication "invalid API token role")
  tokenAccount db role token.accountId
  raiseIf (token.scope ≠ "full" ∧ token.scope ≠ "read-only") (authentication "invalid API token scope")
  return { role, username := token.label, accountId := token.accountId, panelUserId := none,
           authMethod := .token, sessionHash := none, resellerId := none, impersonating := false,
           readOnly := token.scope = "read-only" }

/-- `resolve_principal`: identity comes from the database alone. -/
def resolvePrincipal (credential : Option Credential) : Except Failure Principal := do
  let credential ← orRaise credential (authentication "panel credential required")
  let kind ← orRaise credential.type.nonempty (authentication "invalid panel credential")
  let raw ← orRaise credential.value.nonempty (authentication "invalid panel credential")
  raiseIf (4096 < raw.length) (authentication "invalid panel credential")
  if kind = "update-finalizer" then resolveFinalizer host db raw
  else if kind = "cluster" then resolveCluster host db raw
  else if kind = "session" then resolveSession host db raw
  else if kind = "token" then resolveToken host db raw
  else throw (authentication "invalid panel credential")

end Boron.Authority
