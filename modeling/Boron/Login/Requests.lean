import Boron.Lib.Tasks
import Boron.Login.Store

namespace Boron.Login
open Checks

def sessionTtlHours : Int := 24 * 7
def lockoutThreshold : Nat := 5
def lockoutDurationSeconds : Int := 15 * 60
def maxLoginUsernameLength : Nat := 256

/-- The rest of the gate once the window is known. -/
def reserve (request : Nat) (now : Int) (row : LoginAttempt) (store : Store) : Option Int × Store :=
  let failedCount := row.failedCount + 1
  let save := fun row event => { store with
    attempts := Rows.put LoginAttempt.username row store.attempts
    log := event :: store.log }
  if failedCount > lockoutThreshold then
    let lockedUntil := now + seconds lockoutDurationSeconds
    (some lockoutDurationSeconds,
      save { row with lockedUntil := some lockedUntil, failedCount := 0 } (.locked row.username lockedUntil))
  else (none, save { row with failedCount } (.reserved row.username request))

/-- The answer is `retry_after_seconds` when the gate is shut. -/
def checkLoginLockout (request : Nat) (now : Int) (username : String) (store : Store) : Option Int × Store :=
  let fresh := { username, failedCount := 0, lockedUntil := none }
  match store.attempt username with
  | none => reserve request now fresh (store.note (.opened username now))
  | some row => match row.lockedUntil with
    | none => reserve request now row store
    | some lockedUntil =>
      if now < lockedUntil then (some ((lockedUntil - now) / seconds 1), store)
      else reserve request now { row with lockedUntil := none, failedCount := 0 } (store.note (.opened username now))

def recordLoginResult (username : String) (success : Bool) (store : Store) : Store :=
  if success then { store with attempts := Rows.drop LoginAttempt.username username store.attempts,
                               log := .cleared username :: store.log }
  else store

def recordLoginFailure (host : Host) (bucket : String) (origin : Origin) (store : Store) : Store :=
  { store with failures := store.failures ++ [{ bucket, sourceIp := host.sourceIp origin.sourceIp }] }

/-- `_security_policy`: the row is made at the first look. -/
def securityPolicy (store : Store) : SecurityPolicySettings × Store :=
  let row := store.policy.getD { requireAdmin2fa := false, admin2faGraceDays := 7, admin2faEnabledAt := none }
  (row, { store with policy := some row })

def createSession (host : Host) (moment : Moment) (panelUserId : Nat) (origin : Origin) (grant : Option Grant)
    (generation : Nat) : Transaction (String × Int) := fun store => do
  let sessionId := moment.drawn 0
  let expiresAt := moment.now + seconds (sessionTtlHours * 3600)
  let user ← orRaise (store.user panelUserId) "panel user not found or disabled"
  raiseIf user.disabled "panel user not found or disabled"
  raiseIf (store.sessions.any (·.sessionId = host.sessionDigest sessionId)) "UNIQUE constraint failed: sessions.session_id"
  let row := { sessionId := host.sessionDigest sessionId, panelUserId, expiresAt,
               ipAddress := host.sourceIp origin.sourceIp, userAgent := host.userAgent origin.userAgent,
               lastSeenAt := moment.now, revoked := false, grant, generation }
  return ((sessionId, expiresAt), { store with sessions := store.sessions ++ [row] })

def revokeSessions (panelUserId : Nat) (sessions : List Session) : List Session :=
  sessions.map fun row => if row.panelUserId = panelUserId then { row with revoked := true } else row

def setPanelUserPassword (host : Host) (moment : Moment) (username password : String) : Transaction Unit :=
  fun store => do
    let newPassword ← host.validatePasswordStrength password
    let user ← orRaise (store.userNamed username) ("panel user '" ++ username ++ "' not found")
    let passwordHash := host.hashPassword newPassword (moment.drawn 0)
    let users := store.users.map fun row => if row.id = user.id then { row with passwordHash } else row
    return ((), { store with users, sessions := revokeSessions user.id store.sessions,
                             log := .changed user.id :: store.log })

/-- What `login_begin` reads. A field that is no string is `none`. -/
structure BeginParams where
  username : Option String
  password : Option String
  origin : Origin

structure Credentials where
  username : String
  password : String
  origin : Origin

/-- What `login_begin` keeps of the user once the password has passed. -/
structure Verified where
  panelUserId : Nat
  role : String
  accountId : Option Nat
  setupRequired : Bool
  deadline : Option Int
  generation : Nat

inductive Verdict
  | invalid
  | needs2fa (pendingToken : String) (verified : Verified)
  | passed (verified : Verified)

/-- The transaction of `login_begin` that looks at the password. -/
def verifyLogin (host : Host) (moment : Moment) (credentials : Credentials) (bucket : String) :
    Transaction Verdict := fun store => do
  match (store.userNamed credentials.username).filter (!·.disabled) with
  | none => return (.invalid, recordLoginFailure host bucket credentials.origin store)
  | some user =>
    if !host.verifyPassword credentials.password user.passwordHash then
      return (.invalid, recordLoginFailure host bucket credentials.origin store)
    else
      let hasTotp := (store.enabledCredential user.id).isSome
      let (policy, store) := securityPolicy store
      let deadline := if policy.requireAdmin2fa then policy.admin2faEnabledAt.map (· + days policy.admin2faGraceDays) else none
      let verified := { panelUserId := user.id, role := user.role, accountId := user.accountId,
                        setupRequired := user.role = "admin" && policy.requireAdmin2fa && !hasTotp,
                        deadline, generation := store.generation user.id }
      if hasTotp then
        let raw := moment.drawn 0
        let row := { tokenHash := host.sha256 raw, panelUserId := user.id, passwordHash := user.passwordHash,
                     expiresAt := moment.now + seconds (5 * 60), usedAt := none,
                     generation := store.generation user.id }
        raiseIf (store.challenge row.tokenHash).isSome "UNIQUE constraint failed: login_challenges.token_hash"
        return (.needs2fa raw verified, { store with challenges := store.challenges ++ [row] })
      else return (.passed verified, store)

structure FinishParams where
  pendingToken : Option String
  code : Option String
  origin : Origin

/-- What `login_finish` keeps of the challenge and its user. -/
structure SecondFactor where
  digest : String
  code : String
  origin : Origin
  username : String
  panelUserId : Nat
  role : String
  accountId : Option Nat
  generation : Nat

/-- The first transaction of `login_finish`. -/
def openChallenge (digest code : String) (origin : Origin) (now : Int) (store : Store) : Option SecondFactor := do
  let challenge ← store.challenge digest
  if challenge.usedAt.isSome ∨ challenge.expiresAt ≤ now then none
  else
    let user ← store.user challenge.panelUserId
    if user.disabled ∨ user.passwordHash ≠ challenge.passwordHash then none
    else some { digest, code, origin, username := user.username, panelUserId := user.id, role := user.role,
                accountId := user.accountId, generation := challenge.generation }

def LoginChallenge.use (digest : String) (now : Int) (row : LoginChallenge) : LoginChallenge :=
  if row.tokenHash = digest ∧ row.usedAt.isNone then { row with usedAt := some now } else row

/-- `UPDATE … WHERE token_hash = ? AND used_at IS NULL`; the answer is that one row was updated. -/
def consumeChallenge (request : Nat) (digest : String) (now : Int) (store : Store) : Bool × Store :=
  if (store.challenge digest).any (·.usedAt.isNone) then
    (true, { store with challenges := store.challenges.map (LoginChallenge.use digest now),
                        log := .consumed request digest :: store.log })
  else (false, store)

/-- Requests that are one transaction. `outside` is any other change of who may log in:
logins disabled or enabled, a new policy, sessions revoked. -/
inductive Operation
  | createSession (panelUserId : Nat) (origin : Origin)
  | setPanelUserPassword (username password : String)
  | setupTotp (panelUserId : Nat)
  | verifyTotp (panelUserId : Nat) (code : String)
  | disableTotp (panelUserId : Nat)
  | checkLoginCode (panelUserId : Nat) (code : String)
  | outside (disabled : Nat → Bool) (policy : Option SecurityPolicySettings) (revoked : List String)

inductive Answer
  | raised (message : String)
  | invalid
  | locked (retryAfterSeconds : Int)
  | needs2fa (pendingToken : String) (verified : Verified)
  | setupRequired
  | valid (role : String) (accountId : Option Nat) (setup : Option (Bool × Option Int)) (session : String × Int)
  | session (session : String × Int)
  | secret (secret uri : String)
  | enabled (recoveryCodes : List String)
  | code (valid usedRecoveryCode : Bool)
  | done

/-- A request between two of its transactions. -/
inductive Task
  | loginBegin (params : BeginParams)
  | beginGate (credentials : Credentials) (known : Bool)
  | beginVerify (credentials : Credentials) (known : Bool)
  | beginResult (bucket : String) (origin : Origin) (verified : Verified)
  | beginCreate (origin : Origin) (verified : Verified)
  | loginFinish (params : FinishParams)
  | finishGate (factor : SecondFactor)
  | finishCheck (factor : SecondFactor)
  | finishFailure (factor : SecondFactor)
  | finishConsume (factor : SecondFactor)
  | finishResult (factor : SecondFactor)
  | finishCreate (factor : SecondFactor)
  | operation (operation : Operation)
  | ended (answer : Answer)

def Operation.run (host : Host) (moment : Moment) : Operation → Transaction Answer
  | .createSession panelUserId origin => fun store => do
    let (session, store) ← Login.createSession host moment panelUserId origin none (store.generation panelUserId) store
    return (.session session, store)
  | .setPanelUserPassword username password => fun store => do
    let (_, store) ← Login.setPanelUserPassword host moment username password store
    return (.done, store)
  | .setupTotp panelUserId => fun store => do
    let ((secret, uri), store) ← Login.setupTotp host moment panelUserId store
    return (.secret secret uri, store)
  | .verifyTotp panelUserId code => fun store => do
    let (codes, store) ← Login.verifyTotp host moment panelUserId code store
    return (.enabled codes, store)
  | .disableTotp panelUserId => fun store => do
    let (_, store) ← Login.disableTotp panelUserId store
    return (.done, store)
  | .checkLoginCode panelUserId code => fun store => do
    let ((valid, recovery), store) ← Login.checkLoginCode host moment panelUserId code store
    return (.code valid recovery, store)
  | .outside disabled policy revoked => fun store =>
    return (.done, { store with
      users := store.users.map fun row => { row with disabled := disabled row.id }
      policy
      sessions := store.sessions.map fun row => { row with revoked := row.revoked || revoked.contains row.sessionId } })

/-- A look at a password or a code is logged also when the transaction raises later. -/
def Store.look (store : Store) (looked : Bool) (event : Event) : Store := if looked then store.note event else store

def Transaction.turn {α : Type} (transaction : Transaction α) (next : α → Task) (store : Store) : Task × Store :=
  match transaction store with
  | .ok (answer, store) => (next answer, store)
  | .error message => (.ended (.raised message), store)

def gateTurn (gate : Option Int × Store) (next : Task) : Task × Store :=
  match gate.1 with
  | some retryAfterSeconds => (.ended (.locked retryAfterSeconds), gate.2)
  | none => (next, gate.2)

def afterVerify (bucket : String) (origin : Origin) : Verdict → Task
  | .invalid => .ended .invalid
  | .needs2fa raw verified => .ended (.needs2fa raw verified)
  | .passed verified => .beginResult bucket origin verified

/-- One turn of a request: up to the end of its next transaction. -/
def advance (host : Host) (request : Nat) (moment : Moment) (task : Task) (store : Store) : Task × Store :=
  match task with
  | .loginBegin { username := some username, password := some password, origin } =>
    if username = "" then (.ended (.raised "invalid login request"), store)
    else if username.length > maxLoginUsernameLength then (.ended .invalid, store)
    else (.beginGate { username, password, origin } (store.userNamed username).isSome, store)
  | .loginBegin _ => (.ended (.raised "invalid login request"), store)
  | .beginGate credentials known =>
    gateTurn (checkLoginLockout request moment.now (host.loginBucket credentials.username known) store)
      (.beginVerify credentials known)
  | .beginVerify credentials known =>
    let bucket := host.loginBucket credentials.username known
    (verifyLogin host moment credentials bucket).turn (afterVerify bucket credentials.origin)
      (store.look ((store.userNamed credentials.username).any (!·.disabled))
        (.verified request credentials.username moment.now))
  | .beginResult bucket origin verified =>
    let late := verified.setupRequired && verified.deadline.any (· ≤ moment.now)
    (if late then .ended .setupRequired else .beginCreate origin verified, recordLoginResult bucket true store)
  | .beginCreate origin verified =>
    (createSession host moment verified.panelUserId origin (some { request, challenge := none }) verified.generation).turn
      (fun session => .ended (.valid verified.role verified.accountId
        (some (verified.setupRequired, if verified.setupRequired then verified.deadline else none)) session)) store
  | .loginFinish { pendingToken := some raw, code := some code, origin } =>
    if raw = "" then (.ended (.raised "invalid second-factor request"), store)
    else match openChallenge (host.sha256 raw) code origin moment.now store with
      | none => (.ended .invalid, store)
      | some factor => (.finishGate factor, store)
  | .loginFinish _ => (.ended (.raised "invalid second-factor request"), store)
  | .finishGate factor =>
    gateTurn (checkLoginLockout request moment.now (host.loginBucket factor.username true) store) (.finishCheck factor)
  | .finishCheck factor =>
    (checkLoginCode host moment factor.panelUserId factor.code).turn
      (fun answer => if answer.1 then .finishConsume factor else .finishFailure factor)
      (store.look (store.enabledCredential factor.panelUserId).isSome
        (.verified request factor.username moment.now))
  | .finishFailure factor =>
    (.ended .invalid, recordLoginFailure host (host.loginBucket factor.username true) factor.origin store)
  | .finishConsume factor =>
    let consumed := consumeChallenge request factor.digest moment.now store
    (if consumed.1 then .finishResult factor else .ended .invalid, consumed.2)
  | .finishResult factor =>
    (.finishCreate factor, recordLoginResult (host.loginBucket factor.username true) true store)
  | .finishCreate factor =>
    (createSession host moment factor.panelUserId factor.origin (some { request, challenge := some factor.digest })
      factor.generation).turn
      (fun session => .ended (.valid factor.role factor.accountId none session)) store
  | .operation operation => (operation.run host moment).turn .ended store
  | .ended answer => (.ended answer, store)

def Task.Unbegun : Task → Prop
  | .loginBegin _ => True
  | .loginFinish _ => True
  | .operation _ => True
  | _ => False

abbrev Server := Tasks.Server Nat Task Store

/-- Any tables and any requests, before the first turn and with nothing on record. -/
structure Fresh (server : Server) : Prop where
  log : server.store.log = []
  sessions : ∀ row ∈ server.store.sessions, row.grant = none ∧ row.generation = 0
  challenges : ∀ row ∈ server.store.challenges, row.generation = 0
  tasks : ∀ i, (server.task i).Unbegun

abbrev Reaches (host : Host) := Tasks.Reaches (advance host)

def plainHost : Host where
  loginBucket username known := (if known then "$login-user-" else "$login-bucket-") ++ username ++ "$"
  verifyPassword password passwordHash := passwordHash == "#" ++ password
  hashPassword password _ := "#" ++ password
  validatePasswordStrength password := .ok password
  sha256 text := "sha256:" ++ text
  sessionDigest text := "sha256:" ++ text
  generateOtp _ step := if step % 2 = 0 then "111111" else "222222"
  provisioningUri secret username := "otpauth://totp/" ++ username ++ "?secret=" ++ secret
  sourceIp value := value
  userAgent value := value
  strip text := text
  upper text := text

/-- One active administrator, one challenge for it, and a second factor if asked for. -/
def plainStore (credentials : List TotpCredential) : Store where
  users := [{ id := 1, username := "alice", passwordHash := "#old", role := "admin", accountId := none, disabled := false }]
  attempts := []
  failures := []
  challenges := [{ tokenHash := "sha256:token", panelUserId := 1, passwordHash := "#old", expiresAt := seconds 300,
                   usedAt := none, generation := 0 }]
  sessions := []
  credentials
  codes := []
  policy := none
  log := []

def nowhere : Origin := { sourceIp := none, userAgent := none }

/-- `who` takes a turn, with the clock at `now` and every drawn secret `drawn`. -/
def turnAt (who : Nat) (now : Int) (drawn : String) : Nat × Moment := (who, { now, drawn := fun _ => drawn })

end Boron.Login
