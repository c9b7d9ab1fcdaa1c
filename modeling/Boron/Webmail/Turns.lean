import Boron.Lib.Rows
import Boron.Lib.Tasks

namespace Boron.Webmail

/-- Drawn by `secrets.token_urlsafe`: numbered in the order of the drawing. A hash is known by what it hashes. -/
structure Token where
  number : Nat
  deriving DecidableEq

structure Credential where
  number : Nat
  deriving DecidableEq

structure Mailbox where
  localPart : String
  domain : String
  deriving DecidableEq

structure Settings where
  webmailLaunchTtlSeconds : Nat
  webmailSessionTtlSeconds : Nat

/-- `max(15, min(settings.webmail_launch_ttl_seconds, 60))` -/
def Settings.launchSeconds (settings : Settings) : Nat := max 15 (min settings.webmailLaunchTtlSeconds 60)

/-- `max(300, min(settings.webmail_session_ttl_seconds, 86400))` -/
def Settings.sessionSeconds (settings : Settings) : Nat := max 300 (min settings.webmailSessionTtlSeconds 86400)

/-- A row of `webmail_launches`. -/
structure Launch where
  id : Nat
  token : Token
  accountId : Nat
  mailbox : Mailbox
  credential : Credential
  expiresAt : Nat
  redeemedAt : Option Nat
  revokedAt : Option Nat
  createdAt : Nat

/-- A row of `webmail_session`. -/
structure Session where
  launchId : Nat
  mailbox : Mailbox
  credential : Credential
  expiresAt : Nat
  revoked : Bool

/-- A credential that `redeem` has handed out, and the launch it is of. -/
structure Redemption where
  token : Token
  accountId : Nat
  mailbox : Mailbox
  credential : Credential
  expiresAt : Nat
  redeemedAt : Nat

/-- Both databases and the clock. What follows `drawn` is in no table: the tokens that `create_launch` has
returned, what `redeem` has handed out, the launches that were superseded or that an operation was asked
to revoke, and the credentials that an operation has revoked for good. -/
structure Store where
  clock : Nat
  launches : List Launch
  sessions : List Session
  drawn : Nat
  returned : List Token
  redemptions : List Redemption
  withdrawn : List Token
  barred : List Credential

def Store.empty : Store where
  clock := 0
  launches := []
  sessions := []
  drawn := 0
  returned := []
  redemptions := []
  withdrawn := []
  barred := []

/-- Dovecot lets a credential in: `s.revoked=0 AND s.expires_at>UTC_TIMESTAMP()`. -/
def Session.live (session : Session) (now : Nat) : Bool := !session.revoked && decide (now < session.expiresAt)

def Store.accepts (store : Store) (mailbox : Mailbox) (credential : Credential) : Prop :=
  ∃ session ∈ store.sessions, session.mailbox = mailbox ∧ session.credential = credential ∧
    session.live store.clock = true

instance (store : Store) (mailbox : Mailbox) (credential : Credential) : Decidable (store.accepts mailbox credential) :=
  inferInstanceAs (Decidable (∃ session ∈ store.sessions, _))

inductive Operation
  | createLaunch (mailbox : Mailbox)
  | redeem (token : Token)
  | revoke (launchId : Nat)
  | revokeMailbox (mailbox : Mailbox)
  | revokeDomain (domain : String)
  | revokeAccount (accountId : Nat)
  | ensureSchema

/-- What a transaction meets: the seconds since the one before, a request, an error of its own, an error
that hides a statement that took effect, and what is known of the account and the mailbox at the time. -/
structure Moment where
  elapsed : Nat
  request : Option Operation
  fails : Bool
  lost : Bool
  /-- The active account that has the name. -/
  account : Option Nat
  /-- The account of the launch is active. -/
  accountActive : Bool
  /-- The mailbox belongs to the account and is enabled. -/
  mailboxOwned : Bool

def Launch.revokeAt (now : Nat) (launch : Launch) : Launch :=
  if launch.revokedAt = none then { launch with revokedAt := some now } else launch

/-- `revoked_at` is set for the launches that a query selects. -/
def Store.revokeLaunches (selected : Launch → Bool) (store : Store) : Store :=
  { store with
    launches := store.launches.map fun launch => if selected launch then launch.revokeAt store.clock else launch }

def Store.withdraw (selected : Launch → Bool) (store : Store) : Store :=
  { store with withdrawn := store.withdrawn ++ (store.launches.filter selected).map Launch.token }

def weekSeconds : Nat := 7 * 24 * 60 * 60

/-- `delete(WebmailLaunch).where(WebmailLaunch.created_at < now - dt.timedelta(days=7))` -/
def Store.prune (now : Nat) (store : Store) : Store :=
  { store with launches := store.launches.filter fun launch => now ≤ launch.createdAt + weekSeconds }

/-- `WebmailLaunch.created_at >= now - dt.timedelta(minutes=1)` -/
def recent (accountId now : Nat) (launches : List Launch) : List Launch :=
  launches.filter fun launch => launch.accountId = accountId && decide (now ≤ launch.createdAt + 60)

/-- The row that `create_launch` adds. -/
def newLaunch (settings : Settings) (now accountId : Nat) (mailbox : Mailbox) (store : Store) : Launch where
  id := Rows.next Launch.id store.launches
  token := ⟨store.drawn⟩
  accountId := accountId
  mailbox := mailbox
  credential := ⟨store.drawn⟩
  expiresAt := now + settings.launchSeconds
  redeemedAt := none
  revokedAt := none
  createdAt := store.clock

def Store.addLaunch (launch : Launch) (store : Store) : Store :=
  { store with launches := store.launches ++ [launch], drawn := store.drawn + 1 }

/-- The SQLite session of `create_launch`. An exception rolls it back. -/
def openLaunch (settings : Settings) (moment : Moment) (now : Nat) (mailbox : Mailbox) (store : Store) :
    Option (Launch × Store) := do
  let store := store.prune now
  let accountId ← moment.account
  guard (moment.mailboxOwned = true)
  guard ((recent accountId now store.launches).length < 10)
  guard (moment.fails = false)
  let launch := newLaunch settings now accountId mailbox store
  let superseded := store.withdraw fun previous => previous.mailbox = mailbox
  some (launch, (superseded.revokeLaunches fun previous =>
    previous.accountId = accountId && previous.mailbox = mailbox).addLaunch launch)

def launchByToken (launches : List Launch) (token : Token) : Option Launch := Rows.byKey Launch.token launches token

def Launch.redemption (now : Nat) (launch : Launch) : Redemption where
  token := launch.token
  accountId := launch.accountId
  mailbox := launch.mailbox
  credential := launch.credential
  expiresAt := launch.expiresAt
  redeemedAt := now

/-- The SQLite session of `redeem`. Every refusal is an exception, so that nothing of it stays. -/
def redeem (moment : Moment) (token : Token) (store : Store) : Option Store := do
  let launch ← launchByToken store.launches token
  guard (launch.redeemedAt = none ∧ launch.revokedAt = none)
  guard (store.clock ≤ launch.expiresAt)
  guard (moment.accountActive = true ∧ moment.mailboxOwned = true)
  guard (moment.fails = false)
  some { store with
    launches := Rows.change Launch.id launch.id
      (fun launch => { launch with redeemedAt := some store.clock }) store.launches
    redemptions := store.redemptions ++ [launch.redemption store.clock] }

/-- `DELETE FROM webmail_session WHERE revoked=1 OR expires_at < UTC_TIMESTAMP()` -/
def Store.purge (store : Store) : Store :=
  { store with sessions := store.sessions.filter fun session => !session.revoked && decide (store.clock ≤ session.expiresAt) }

/-- `UPDATE webmail_session SET revoked=1 WHERE …` -/
def Store.revokeSessions (selected : Session → Bool) (store : Store) : Store :=
  { store with
    sessions := store.sessions.map fun session => if selected session then { session with revoked := true } else session }

def sessionOf (settings : Settings) (now : Nat) (launch : Launch) : Session where
  launchId := launch.id
  mailbox := launch.mailbox
  credential := launch.credential
  expiresAt := now + settings.sessionSeconds
  revoked := false

/-- `INSERT INTO webmail_session …`, refused where the launch id has a row. -/
def Store.insertSession (session : Session) (store : Store) : Option Store :=
  if store.sessions.any (·.launchId = session.launchId) then none
  else some { store with sessions := store.sessions ++ [session] }

def Store.deleteLaunch (id : Nat) (store : Store) : Store :=
  { store with launches := store.launches.filter (·.id ≠ id) }

/-- The credentials that were handed out for some launches are revoked for good. -/
def Store.bar (concerned : Redemption → Bool) (store : Store) : Store :=
  { store with barred := store.barred ++ (store.redemptions.filter concerned).map Redemption.credential }

end Boron.Webmail

namespace Boron.Webmail

/-- What an operation has to change in MariaDB once `ensure_schema` is through. -/
inductive Change
  | supersede (launch : Launch) (now : Nat)
  | revokeLaunch (launchId : Nat)
  | revokeMailbox (mailbox : Mailbox)
  | revokeDomain (domain : String)
  | revokeLaunches (accountId : Nat) (ids : List Nat)
  | nothing

inductive Phase
  | idle
  | start (operation : Operation)
  | draw (mailbox : Mailbox) (now : Nat)
  | schema (change : Change)
  | purge (change : Change)
  | connect (change : Change)
  | write (change : Change)
  | insert (launch : Launch) (now : Nat)
  | undo (launch : Launch)

def unrevokedOf (domain : String) (launch : Launch) : Bool := launch.mailbox.domain = domain && launch.revokedAt.isNone

def unrevokedFor (accountId : Nat) (launch : Launch) : Bool := launch.accountId = accountId && launch.revokedAt.isNone

/-- `revoked_at` is set for the selected launches, on the request of an operation. -/
def Store.revokeSelected (selected : Launch → Bool) (store : Store) : Store :=
  (store.withdraw selected).revokeLaunches selected

/-- The first turn of an operation: the clock is read, or its SQLite session runs. -/
def start (moment : Moment) (operation : Operation) (store : Store) : Phase × Store :=
  match operation with
  | .createLaunch mailbox => (.draw mailbox store.clock, store)
  | .ensureSchema => (.schema .nothing, store)
  | .redeem token => (.idle, (redeem moment token store).getD store)
  | .revoke launchId =>
    if moment.fails then (.idle, store)
    else (.schema (.revokeLaunch launchId), store.revokeSelected fun launch => launch.id = launchId)
  | .revokeMailbox mailbox =>
    if moment.fails then (.idle, store)
    else (.schema (.revokeMailbox mailbox), store.revokeSelected fun launch => launch.mailbox = mailbox)
  | .revokeDomain domain =>
    if moment.fails then (.idle, store)
    -- `if not ids: return`
    else if (store.launches.filter (unrevokedOf domain)).isEmpty then
      (.idle, store.bar fun handed => handed.mailbox.domain = domain)
    else (.schema (.revokeDomain domain), store.revokeSelected (unrevokedOf domain))
  | .revokeAccount accountId =>
    if moment.fails then (.idle, store)
    else
      let ids := (store.launches.filter (unrevokedFor accountId)).map Launch.id
      if ids.isEmpty then (.idle, store.bar fun handed => handed.accountId = accountId)
      else (.schema (.revokeLaunches accountId ids), store.revokeSelected (unrevokedFor accountId))

/-- The `UPDATE` of an operation. With the last one `revoke_mailbox`, `revoke_domain` and `revoke_account` return. -/
def update (change : Change) (store : Store) : Phase × Store :=
  match change with
  | .supersede launch now =>
    (.insert launch now, store.revokeSessions fun session => session.mailbox = launch.mailbox && !session.revoked)
  | .revokeLaunch launchId => (.idle, store.revokeSessions fun session => session.launchId = launchId)
  | .revokeMailbox mailbox =>
    (.idle, ((store.withdraw fun launch => launch.mailbox = mailbox).revokeSessions fun session =>
      session.mailbox = mailbox).bar fun handed => handed.mailbox = mailbox)
  | .revokeDomain domain =>
    (.idle, ((store.withdraw fun launch => launch.mailbox.domain = domain).revokeSessions fun session =>
      session.mailbox.domain = domain).bar fun handed => handed.mailbox.domain = domain)
  | .revokeLaunches accountId [] => (.idle, store.bar fun handed => handed.accountId = accountId)
  | .revokeLaunches accountId (launchId :: ids) =>
    let revoked := store.revokeSessions fun session => session.launchId = launchId
    if ids.isEmpty then (.idle, revoked.bar fun handed => handed.accountId = accountId)
    else (.write (.revokeLaunches accountId ids), revoked)
  | .nothing => (.idle, store)

/-- The same `UPDATE` where its answer is lost: the rows are changed, the operation raises. -/
def updateLost (change : Change) (store : Store) : Store :=
  match change with
  | .supersede launch _ => store.revokeSessions fun session => session.mailbox = launch.mailbox && !session.revoked
  | .revokeLaunch launchId => store.revokeSessions fun session => session.launchId = launchId
  | .revokeMailbox mailbox =>
    (store.withdraw fun launch => launch.mailbox = mailbox).revokeSessions fun session => session.mailbox = mailbox
  | .revokeDomain domain =>
    (store.withdraw fun launch => launch.mailbox.domain = domain).revokeSessions fun session =>
      session.mailbox.domain = domain
  | .revokeLaunches _ [] => store
  | .revokeLaunches _ (launchId :: _) => store.revokeSessions fun session => session.launchId = launchId
  | .nothing => store

/-- Only the statements of `create_launch` are inside its `try`. -/
def Change.raised : Change → Phase
  | .supersede launch _ => .undo launch
  | _ => .idle

/-- The connection is open. `ensure_schema` alone needs no second one. -/
def Change.purged : Change → Phase
  | .nothing => .idle
  | change => .connect change

def run (settings : Settings) (moment : Moment) (phase : Phase) (store : Store) : Phase × Store :=
  match phase with
  | .idle => match moment.request with
    | some operation => (.start operation, store)
    | none => (.idle, store)
  | .start operation => start moment operation store
  | .draw mailbox now => match openLaunch settings moment now mailbox store with
    | some (launch, left) => (.schema (.supersede launch now), left)
    | none => (.idle, store)
  | .schema change => if moment.fails then (.idle, store) else (.purge change, store)
  | .purge change =>
    if moment.fails then (.idle, store) else if moment.lost then (.idle, store.purge) else (change.purged, store.purge)
  | .connect change => if moment.fails then (.idle, store) else (.write change, store)
  | .write change =>
    if moment.fails then (change.raised, store)
    else if moment.lost then (change.raised, updateLost change store)
    else update change store
  | .insert launch now =>
    if moment.fails then (.undo launch, store)
    else match store.insertSession (sessionOf settings now launch) with
      | none => (.undo launch, store)
      | some left =>
        if moment.lost then (.undo launch, left)
        else (.idle, { left with returned := left.returned ++ [launch.token] })
  | .undo launch => if moment.fails then (.idle, store) else (.idle, store.deleteLaunch launch.id)

def Store.tick (elapsed : Nat) (store : Store) : Store := { store with clock := store.clock + elapsed }

abbrev Server := Tasks.Server Nat Phase Store

def advance (settings : Settings) (_ : Nat) (moment : Moment) (phase : Phase) (store : Store) : Phase × Store :=
  run settings moment phase (store.tick moment.elapsed)

def Server.fresh : Server where
  store := .empty
  task _ := .idle

/-- The launch that a `create_launch` under way has added. -/
def Change.pending : Change → Option Launch
  | .supersede launch _ => some launch
  | _ => none

def Phase.pending : Phase → Option Launch
  | .schema change => change.pending
  | .purge change => change.pending
  | .connect change => change.pending
  | .write change => change.pending
  | .insert launch _ => some launch
  | .undo launch => some launch
  | _ => none

/-- The account whose launches a `revoke_account` under way has marked, and the ids it has still to visit. -/
def Change.revoking : Change → Option (Nat × List Nat)
  | .revokeLaunches accountId ids => some (accountId, ids)
  | _ => none

def Phase.revoking : Phase → Option (Nat × List Nat)
  | .schema change => change.revoking
  | .purge change => change.revoking
  | .connect change => change.revoking
  | .write change => change.revoking
  | _ => none

/-- An id names no launch that was returned and that nobody has asked to revoke. -/
def Store.Settled (launchId : Nat) (store : Store) : Prop :=
  ∀ launch ∈ store.launches, launch.id = launchId → launch.token ∈ store.returned → launch.token ∈ store.withdrawn

/-- What the first turn of an operation must not meet. -/
def Careful.start (server : Server) (store : Store) : Operation → Prop
  -- a token is known to nobody before `create_launch` has returned it, and no `revoke_account` is under way
  | .redeem token => token ∈ store.returned ∧ ∀ launch ∈ store.launches, launch.token = token →
      ∀ i ids, (server.task i).revoking ≠ some (launch.accountId, ids)
  -- SQLite knows a launch to revoke, or no credential is in use
  | .revokeDomain domain => (∃ launch ∈ store.launches, unrevokedOf domain launch = true) ∨
      ∀ handed ∈ store.redemptions, handed.mailbox.domain = domain → ¬ store.accepts handed.mailbox handed.credential
  -- the launch of every credential in use is not revoked in SQLite
  | .revokeAccount accountId => ∀ handed ∈ store.redemptions, handed.accountId = accountId →
      store.accepts handed.mailbox handed.credential →
        ∃ launch ∈ store.launches, launch.token = handed.token ∧ launch.revokedAt = none
  | _ => True

/-- What an `UPDATE` must not meet: a launch that came after the operation has begun. -/
def Careful.change (store : Store) : Change → Prop
  | .supersede created _ => ∀ launch ∈ store.launches, launch.mailbox = created.mailbox →
      launch.token ∈ store.returned → launch.token ∈ store.withdrawn
  | .revokeLaunch launchId => store.Settled launchId
  | .revokeLaunches _ (launchId :: _) => store.Settled launchId
  | _ => True

/-- A turn that does not walk into one of the gaps between the two databases. -/
def Careful (server : Server) (who : Nat × Moment) : Prop :=
  let store := server.store.tick who.2.elapsed
  match server.task who.1 with
  | .start operation => who.2.fails = false → Careful.start server store operation
  -- no `create_launch` is under way for a week
  | .draw _ now => ∀ i launch, (server.task i).pending = some launch → now ≤ launch.createdAt + weekSeconds
  | .write change => who.2.fails = false → Careful.change store change
  | _ => True

def Redemption.sessionEnds (settings : Settings) (handed : Redemption) : Nat :=
  handed.expiresAt - settings.launchSeconds + settings.sessionSeconds

/-- What single sign-on promises of every launch. -/
structure Promised (settings : Settings) (store : Store) : Prop where
  once : (store.redemptions.map Redemption.token).Nodup
  inTime : ∀ handed ∈ store.redemptions, handed.redeemedAt ≤ handed.expiresAt
  accepted : ∀ handed ∈ store.redemptions, handed.token ∉ store.withdrawn → store.clock < handed.sessionEnds settings →
    store.accepts handed.mailbox handed.credential
  barred : ∀ credential ∈ store.barred, ∀ mailbox, ¬ store.accepts mailbox credential

end Boron.Webmail
