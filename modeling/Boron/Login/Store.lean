import Boron.Lib.Sys
import Boron.Lib.Log
import Boron.Lib.Rows

namespace Boron.Login

structure PanelUser where
  id : Nat
  username : String
  passwordHash : String
  role : String
  accountId : Option Nat
  disabled : Bool

structure LoginAttempt where
  username : String
  failedCount : Nat
  lockedUntil : Option Int

structure LoginFailureEvent where
  bucket : String
  sourceIp : Option String

/-- `generation` is not stored: the number of password changes of the user before the
password step of this challenge. -/
structure LoginChallenge where
  tokenHash : String
  panelUserId : Nat
  passwordHash : String
  expiresAt : Int
  usedAt : Option Int
  generation : Nat

/-- The login request that made a session, and the challenge it consumed. -/
structure Grant where
  request : Nat
  challenge : Option String

/-- `grant` and `generation` are not stored: where the session comes from, and the number
of password changes of the user before the check that it rests on. -/
structure Session where
  sessionId : String
  panelUserId : Nat
  expiresAt : Int
  ipAddress : Option String
  userAgent : Option String
  lastSeenAt : Int
  revoked : Bool
  grant : Option Grant
  generation : Nat

def Session.restsOn (digest : String) (row : Session) : Bool := row.grant.any (·.challenge = some digest)

structure TotpCredential where
  panelUserId : Nat
  secret : String
  enabled : Bool
  lastUsedStep : Option Int

structure TotpRecoveryCode where
  panelUserId : Nat
  codeHash : String
  usedAt : Option Int

structure SecurityPolicySettings where
  requireAdmin2fa : Bool
  admin2faGraceDays : Int
  admin2faEnabledAt : Option Int

/-- What a transaction did that later ones are judged by. `opened` is a fresh window of
attempts, `reserved` an attempt that the gate let through, `verified` a look at a
password or a code. -/
inductive Event
  | opened (bucket : String) (now : Int)
  | reserved (bucket : String) (request : Nat)
  | locked (bucket : String) (expiry : Int)
  | cleared (bucket : String)
  | verified (request : Nat) (username : String) (now : Int)
  | enrolled (panelUserId : Nat)
  | acceptedStep (panelUserId : Nat) (step : Int)
  | issued (codeHash : String)
  | acceptedRecovery (codeHash : String)
  | consumed (request : Nat) (tokenHash : String)
  | changed (panelUserId : Nat)
  deriving DecidableEq

structure Store where
  users : List PanelUser
  attempts : List LoginAttempt
  failures : List LoginFailureEvent
  challenges : List LoginChallenge
  sessions : List Session
  credentials : List TotpCredential
  codes : List TotpRecoveryCode
  policy : Option SecurityPolicySettings
  log : List Event

def Store.note (store : Store) (event : Event) : Store := { store with log := event :: store.log }

def Store.generation (store : Store) (panelUserId : Nat) : Nat := store.log.countP (· = .changed panelUserId)

/-- The clock when a transaction runs, and what `secrets` draws for it. -/
structure Moment where
  now : Int
  drawn : Nat → String

/-- Hashes, codes and texts as other code computes them. -/
structure Host where
  loginBucket : String → Bool → String
  verifyPassword : String → String → Bool
  hashPassword : String → String → String
  validatePasswordStrength : String → Except String String
  sha256 : String → String
  sessionDigest : String → String
  generateOtp : String → Int → String
  provisioningUri : String → String → String
  sourceIp : Option String → Option String
  userAgent : Option String → Option String
  strip : String → String
  upper : String → String

structure Origin where
  sourceIp : Option String
  userAgent : Option String

/-- A transaction answers and commits, or raises and leaves nothing. -/
abbrev Transaction (α : Type) := Store → Except String (α × Store)

def seconds (n : Int) : Int := n * 1000000
def days (n : Int) : Int := seconds (n * 86400)

def Store.user (store : Store) (id : Nat) : Option PanelUser := Rows.byKey PanelUser.id store.users id
def Store.userNamed (store : Store) (username : String) : Option PanelUser :=
  Rows.byKey PanelUser.username store.users username
def Store.attempt (store : Store) (username : String) : Option LoginAttempt :=
  Rows.byKey LoginAttempt.username store.attempts username
def Store.challenge (store : Store) (tokenHash : String) : Option LoginChallenge :=
  Rows.byKey LoginChallenge.tokenHash store.challenges tokenHash
def Store.credential (store : Store) (panelUserId : Nat) : Option TotpCredential :=
  Rows.byKey TotpCredential.panelUserId store.credentials panelUserId
def Store.enabledCredential (store : Store) (panelUserId : Nat) : Option TotpCredential :=
  (store.credential panelUserId).filter TotpCredential.enabled

end Boron.Login

namespace Boron.Login
open Checks

def recoveryCodeCount : Nat := 8

def generateRecoveryCode (host : Host) (hex : String) : String :=
  let raw := (host.upper hex).toList
  String.ofList (raw.take 5) ++ "-" ++ String.ofList (raw.drop 5)

def hashCode (host : Host) (code : String) : String := host.sha256 code

/-- `generator.interval` -/
def interval : Int := 30

/-- `_consume_totp`: the step that the code is accepted for. -/
def consumeTotp (host : Host) (now : Int) (credential : TotpCredential) (code : String) : Option Int :=
  if code.length = 6 ∧ code.toList.all Char.isDigit then
    let currentStep := now.tdiv (seconds 1) / interval
    [currentStep, currentStep - 1, currentStep + 1].find? fun step =>
      credential.lastUsedStep.all (· < step) && host.generateOtp credential.secret step == code
  else none

def acceptStep (credential : TotpCredential) (step : Int) (store : Store) : Store :=
  { store with
    credentials := Rows.put TotpCredential.panelUserId { credential with lastUsedStep := some step } store.credentials
    log := .acceptedStep credential.panelUserId step :: store.log }

def setupTotp (host : Host) (moment : Moment) (panelUserId : Nat) : Transaction (String × String) := fun store => do
  let user ← orRaise (store.user panelUserId) "panel user not found"
  let secret := moment.drawn 0
  raiseIf (store.enabledCredential panelUserId).isSome
    "2FA is already enabled -- disable it first to generate a new secret"
  let row := { panelUserId, secret, enabled := false, lastUsedStep := none }
  return ((secret, host.provisioningUri secret user.username),
    { store with credentials := Rows.put TotpCredential.panelUserId row store.credentials,
                 log := .enrolled panelUserId :: store.log })

def deleteCodes (panelUserId : Nat) (codes : List TotpRecoveryCode) : List TotpRecoveryCode :=
  codes.filter fun row => row.panelUserId ≠ panelUserId

def verifyTotp (host : Host) (moment : Moment) (panelUserId : Nat) (code : String) : Transaction (List String) :=
  fun store => do
    let row ← orRaise (store.credential panelUserId) "no pending 2FA setup for this user -- call setup first"
    raiseIf row.enabled "2FA is already enabled"
    let step ← orRaise (consumeTotp host moment.now row (host.strip code)) "invalid or expired code"
    let accepted := acceptStep { row with enabled := true } step store
    let rawCodes := (List.range recoveryCodeCount).map fun k => generateRecoveryCode host (moment.drawn k)
    let fresh := rawCodes.map fun raw => { panelUserId, codeHash := hashCode host raw, usedAt := none }
    let codes := deleteCodes panelUserId store.codes ++ fresh
    raiseIf (¬ Rows.Unique TotpRecoveryCode.codeHash codes) "UNIQUE constraint failed: totp_recovery_codes.code_hash"
    return (rawCodes, { accepted with codes, log := fresh.map (fun row => .issued row.codeHash) ++ accepted.log })

/-- Active administrators with a second factor. -/
def Store.protected (store : Store) : Nat :=
  store.users.countP fun user => user.role = "admin" && !user.disabled && (store.enabledCredential user.id).isSome

def disableTotp (panelUserId : Nat) : Transaction Unit := fun store => do
  let required := (store.user panelUserId).any (·.role = "admin") && store.policy.any (·.requireAdmin2fa)
  raiseIf (required ∧ store.protected ≤ 1)
    "Keep 2FA enabled on at least one active administrator while the administrator 2FA policy is required"
  return ((), { store with codes := deleteCodes panelUserId store.codes,
                           credentials := Rows.drop TotpCredential.panelUserId panelUserId store.credentials })

def useRecoveryCode (now : Int) (codeHash : String) (store : Store) : Store :=
  { store with
    codes := store.codes.map fun row => if row.codeHash = codeHash then { row with usedAt := some now } else row
    log := .acceptedRecovery codeHash :: store.log }

/-- The answer is `valid` and `used_recovery_code`. -/
def checkLoginCode (host : Host) (moment : Moment) (panelUserId : Nat) (code : String) : Transaction (Bool × Bool) :=
  fun store => do
    let code := host.strip code
    let credential ← orRaise (store.enabledCredential panelUserId) "2FA is not enabled for this user"
    match consumeTotp host moment.now credential code with
    | some step => return ((true, false), acceptStep credential step store)
    | none =>
      let codeHash := hashCode host (host.upper code)
      if store.codes.any fun row => row.panelUserId = panelUserId && row.codeHash = codeHash && row.usedAt.isNone then
        return ((true, true), useRecoveryCode moment.now codeHash store)
      else return ((false, false), store)

end Boron.Login
