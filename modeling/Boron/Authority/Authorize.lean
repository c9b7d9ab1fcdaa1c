import Boron.Authority.Policy
import Boron.Authority.Principal

namespace Boron.Authority
open Checks

variable (host : Host) (db : Database)

def usernameTarget (params : Params) : Except Failure (Option Int) :=
  match (params.get "username").nonempty with
  | none => .ok none
  | some username => do
    let account ← orRaise (Rows.byKey Account.username db.accounts username)
      (authorization "account target unavailable")
    return some account.id

/-- The account of a request's domain, which must be hosted somewhere unless it
is about to be added to the named account. -/
def domainTarget (params : Params) (allowNewDomain : Bool) (fromUsername : Option Int) :
    Except Failure (Option Int) :=
  match (params.get "domain").nonempty with
  | none => .ok none
  | some domain => do
    let domain ← orRaise (host.validateDomain domain) (authorization "domain target unavailable")
    let fromDomain := (Rows.byKey OwnedDomain.domain db.domains domain).map OwnedDomain.accountId
    let mailOwner := (Rows.byKey OwnedDomain.domain db.mailDomains domain).map OwnedDomain.accountId
    let targetOwner := fromDomain.or fromUsername
    raiseIf (mailOwner ≠ none ∧ mailOwner ≠ targetOwner) (authorization "domain resource ownership is inconsistent")
    raiseIf (fromDomain = none ∧ ¬ (allowNewDomain ∧ fromUsername ≠ none))
      (authorization "domain target unavailable")
    return fromDomain

/-- `_target_account_id`: the account that a request's username and domain
both stand for. -/
def targetAccountId (params : Params) (allowNewDomain : Bool) : Except Failure (Option Int) := do
  let fromUsername ← usernameTarget db params
  let fromDomain ← domainTarget host db params allowNewDomain fromUsername
  raiseIf (fromUsername ≠ none ∧ fromDomain ≠ none ∧ fromUsername ≠ fromDomain)
    (authorization "account and domain targets disagree")
  return fromUsername.or fromDomain

def ownsAccount (principal : Principal) (accountId : Int) : Bool :=
  match principal.role with
  | .admin => true
  | .customer => principal.accountId = some accountId
  | .reseller => match principal.resellerId with
    | none => false
    | some reseller => db.resellerAccounts.any fun row =>
        row.resellerId = reseller ∧ row.accountId = accountId
  | _ => false

def requireOwned (params : Params) (allowNewDomain : Bool) (principal : Principal) (message : String) :
    Except Failure Unit := do
  let target ← targetAccountId host db params allowNewDomain
  raiseIf (¬ target.any (ownsAccount db principal)) (authorization message)

def requireSelf (params : Params) (principal : Principal) : Except Failure Unit := do
  let target ← targetAccountId host db params false
  raiseIf (target ≠ principal.accountId) (authorization "account ownership required")

def passwordHolds (params : Params) (principal : Principal) : Bool :=
  match params.get "current_password", principal.panelUserId.bind (Rows.byKey PanelUser.id db.panelUsers) with
  | .text password, some user => host.verifyPassword password user.passwordHash
  | _, _ => false

def requirePassword (params : Params) (principal : Principal) : Except Failure Unit :=
  raiseIf (¬ passwordHolds host db params principal) (authorization "current password required")

/-- `params.get(key, "")`, digested. -/
def digestOf (params : Params) (key : String) : Except Failure String :=
  host.sessionDigest ((params key).getD (.text ""))

def authorizeTask (params : Params) (principal : Principal) : Except Failure Unit := do
  if principal.role = .admin then return
  raiseIf (principal.role ≠ .customer ∨ principal.accountId = none) (authorization "task ownership required")
  let owner ← host.ownerAccountId (params.get "kind") (params.get "task_id")
  raiseIf (owner ≠ principal.accountId) (authorization "task ownership required")

def authorizeControlTask (reveal : Bool) (params : Params) (principal : Principal) : Except Failure Unit := do
  let taskId ← orRaise (host.int (params.get "task_id")) (authorization "control task unavailable")
  let task ← orRaise (Rows.byKey ControlTask.id db.controlTasks taskId) (authorization "control task unavailable")
  if reveal then
    raiseIf (principal.role ≠ .admin ∨ principal.authMethod ≠ .session ∨ principal.impersonating ∨
        task.operation ≠ "account.create")
      (authorization "current administrator session required")
  else if principal.role = .admin then return
  else
    raiseIf (principal.role ≠ .customer ∨ task.accountId ≠ principal.accountId)
      (authorization "control task ownership required")

/-- The restore job's account must be the named one and the principal's; a
domain is not looked at. -/
def authorizeRestoreJob (params : Params) (principal : Principal) : Except Failure Unit := do
  let jobId := params.get "restore_job_id"
  raiseIf (jobId = .bool true ∨ jobId = .bool false) (authorization "restore job target unavailable")
  let id ← orRaise (host.int jobId) (authorization "restore job target unavailable")
  let job ← orRaise (Rows.byKey RestoreJob.id db.restoreJobs id) (authorization "restore job target unavailable")
  let named ← targetAccountId host db (fun key => if key = "username" then params "username" else none) false
  raiseIf (named ≠ some job.accountId ∨ ¬ ownsAccount db principal job.accountId)
    (authorization "restore job ownership required")

def authorizeUpdate (params : Params) (principal : Principal) : Except Failure Unit := do
  raiseIf (principal.role ≠ .admin ∨ principal.authMethod ≠ .session ∨ principal.impersonating ∨
      params.get "confirm" ≠ .bool true ∨ params.get "initiated_by" ≠ .text principal.username)
    (authorization "confirmed administrator session required")
  if db.totpCredentials.any fun row => some row.panelUserId = principal.panelUserId ∧ row.enabled then
    match params.get "totp_code" with
    | .text code => do
      raiseIf (host.strip code = "") (authorization "second factor required")
      let valid ← host.checkLoginCode principal.panelUserId code
      raiseIf (¬ valid) (authorization "invalid second factor")
    | _ => throw (authorization "second factor required")
  else pure ()

def authorizeReseller (op : String) (params : Params) (principal : Principal) : Except Failure Unit := do
  raiseIf (principal.role ≠ .reseller ∨ principal.resellerId = none ∨
      params.get "reseller_username" ≠ .text principal.username)
    (authorization "active reseller session required")
  if op = "reseller.account.lifecycle" then
    requireOwned host db params false principal "reseller account ownership required"
  else pure ()

def authorizePrincipal (op : String) (params : Params) (principal : Principal) : Disposition → Except Failure Unit
  | .taskListScope => do
    raiseIf (principal.role ≠ .admin ∧ principal.role ≠ .customer)
      (authorization "task history requires an administrator or hosting customer")
    raiseIf (principal.role = .customer ∧ principal.accountId = none) (authorization "customer account required")
  | .taskItemOwner => authorizeTask host params principal
  | .controlTaskOwner => authorizeControlTask host db false params principal
  | .controlTaskReveal => authorizeControlTask host db true params principal
  | .globalAdmin | .adminAccountUsername =>
    raiseIf (principal.role ≠ .admin) (authorization "administrator credential required")
  | .accountRowOwnerRestoreJob => authorizeRestoreJob host db params principal
  | .adminImpersonationIssue =>
    raiseIf (principal.role ≠ .admin ∨ principal.authMethod ≠ .session ∨
        params.get "admin_username" ≠ .text principal.username)
      (authorization "current administrator session required")
  | .adminConfirmedUpdate => authorizeUpdate host db params principal
  | .adminImpersonationRedeem => do
    raiseIf (principal.role ≠ .admin ∨ principal.authMethod ≠ .session ∨
        params.get "admin_username" ≠ .text principal.username ∨
        ¬ (params.get "admin_panel_user_id").equalsInt principal.panelUserId)
      (authorization "current administrator session required")
    let digest ← digestOf host params "admin_session_id"
    raiseIf (principal.sessionHash ≠ some digest) (authorization "current administrator session required")
  | .accountUsername | .accountAndDomain | .domainOwner | .mixedAdminOrAccount
  | .mixedAdminOrAccountAndDomain | .accountTerminalSessionOwner =>
    if principal.role = .admin then return
    else requireOwned host db params (op = "domain.add" ∨ op = "mail.create_domain") principal
      "account ownership required"
  | .customerSelfAccount => do
    raiseIf (principal.role ≠ .customer ∨ principal.accountId = none ∨ principal.impersonating)
      (authorization "customer session required")
    requireSelf host db params principal
  | .customerSessionSelfAccount => do
    raiseIf (principal.role ≠ .customer ∨ principal.authMethod ≠ .session ∨ principal.accountId = none ∨
        principal.impersonating) (authorization "direct customer session required")
    requireSelf host db params principal
  | .customerAdminOrImpersonationSessionAccount => do
    raiseIf (principal.authMethod ≠ .session ∨
        (principal.impersonating ∧ (principal.role ≠ .customer ∨ principal.accountId = none)) ∨
        (principal.role ≠ .admin ∧ principal.role ≠ .customer))
      (authorization "authorized customer or administrator session required")
    requireOwned host db params false principal "account ownership required"
  | .selfPanelUserSessionOnly =>
    raiseIf (principal.authMethod ≠ .session ∨ principal.impersonating ∨
        ¬ (params.get "panel_user_id").equalsInt principal.panelUserId)
      (authorization "current panel session required")
  | .selfPanelUserSessionWithPassword => do
    raiseIf (principal.authMethod ≠ .session ∨ principal.impersonating ∨
        ¬ (params.get "panel_user_id").equalsInt principal.panelUserId)
      (authorization "current panel session required")
    requirePassword host db params principal
  | .currentSessionSelf => do
    raiseIf (principal.authMethod ≠ .session) (authorization "current session required")
    let digest ← digestOf host params "session_id"
    raiseIf (principal.sessionHash ≠ some digest) (authorization "current session required")
  | .currentImpersonationSessionSelf => do
    raiseIf (¬ principal.impersonating) (authorization "current impersonation session required")
    let digest ← digestOf host params "session_id"
    raiseIf (principal.sessionHash ≠ some digest) (authorization "current impersonation session required")
  | .selfWithCurrentPasswordOrAdmin =>
    if principal.role = .admin then return
    else do
      raiseIf (principal.authMethod ≠ .session ∨ principal.impersonating ∨
          params.get "username" ≠ .text principal.username) (authorization "current panel session required")
      requirePassword host db params principal
  | .resellerSelfOrOwnedAccount => authorizeReseller host db op params principal
  | .rootInternal => throw (authorization "operation is root-internal")
  | .rootInternalReplaceWithLoginProtocol => throw (authorization "legacy login primitive is unavailable")
  | .loginProtocol => throw (authorization "login protocol requires an anonymous request")
  | .clusterProtocol =>
    raiseIf (principal.role ≠ .cluster ∨ principal.authMethod ≠ .cluster)
      (authorization "DNS cluster credential required")
  | .updateFinalizer =>
    raiseIf (principal.role ≠ .updateFinalizer ∨ principal.authMethod ≠ .updateFinalizer)
      (authorization "update finalizer credential required")

def authorizeAnonymous : Disposition → Except Failure Unit
  | .rootInternal => throw (authorization "operation is root-internal")
  | .rootInternalReplaceWithLoginProtocol => throw (authorization "legacy login primitive is unavailable")
  | .loginProtocol => return
  | .clusterProtocol => throw (authorization "DNS cluster credential required")
  | .updateFinalizer => throw (authorization "update finalizer credential required")
  | _ => throw (authentication "panel credential required")

def authorize (op : String) (params : Params) (principal : Option Principal) : Except Failure Unit := do
  raiseIf (principal.any (fun p => p.authMethod = .token ∧ p.readOnly) ∧ op ∉ readOnlyOperations)
    (authorization "This API token is read-only and cannot perform this operation")
  let disposition ← orRaise (policyByOperation.lookup op) (authorization "operation has no reviewed policy")
  match principal with
  | none => authorizeAnonymous disposition
  | some principal => authorizePrincipal host db op params principal disposition

end Boron.Authority

namespace Boron.Authority
open Checks

def Bears (credential : Option Credential) (raw : String) : Prop := ∃ kind, credential = some ⟨kind, .text raw⟩

/-- The user behind a session identifier, while the session is good. -/
def SignedIn (host : Host) (db : Database) (raw : String) (user : PanelUser) : Prop :=
  user ∈ db.panelUsers ∧ user.disabled = false ∧ ∃ session ∈ db.sessions,
    session.sessionId = host.sha256 raw ∧ session.panelUserId = user.id ∧
      session.revoked = false ∧ host.now < session.expiresAt

/-- The accounts a credential gives a right to, read from the rows of the
database and not from the request. -/
inductive Entitled (host : Host) (db : Database) (credential : Option Credential) : Int → Prop
  | customer {raw : String} {user : PanelUser} {account : Int} (bears : Bears credential raw)
      (signedIn : SignedIn host db raw user) (role : user.role = "customer")
      (own : user.accountId = some account) : Entitled host db credential account
  | impersonation {raw : String} {user : PanelUser} {imp : ImpersonationSession}
      (bears : Bears credential raw) (signedIn : SignedIn host db raw user) (role : user.role = "admin")
      (member : imp ∈ db.impersonations) (same : imp.sessionId = host.sha256 raw)
      (running : imp.ended = false) (admin : imp.adminPanelUserId = user.id) :
      Entitled host db credential imp.accountId
  | reseller {raw : String} {user : PanelUser} {profile : ResellerProfile} {row : ResellerAccount}
      (bears : Bears credential raw) (signedIn : SignedIn host db raw user)
      (role : user.role = "reseller") (member : profile ∈ db.resellerProfiles)
      (profiled : profile.panelUserId = user.id) (active : profile.status = "active")
      (assigned : row ∈ db.resellerAccounts) (of : row.resellerId = profile.id) :
      Entitled host db credential row.accountId
  | token {raw : String} {token : ApiToken} {account : Int} (bears : Bears credential raw)
      (member : token ∈ db.apiTokens) (same : token.tokenHash = host.sha256 raw)
      (kept : token.revoked = false) (role : token.role = "customer")
      (own : token.accountId = some account) : Entitled host db credential account

variable {host : Host} {db : Database}

theorem nonempty_eq_some {value : Value} {s : String} : value.nonempty = some s ↔ value = .text s ∧ s ≠ "" := by
  cases value with
  | text text =>
    simp only [Value.nonempty, Value.text.injEq]
    by_cases empty : text = ""
    · simp only [empty, if_true]
      constructor
      · intro impossible
        cases impossible
      · rintro ⟨same, filled⟩
        exact absurd same.symm filled
    · rw [if_neg empty, Option.some.injEq]
      constructor
      · intro same
        exact ⟨same, same ▸ empty⟩
      · exact fun both => both.1
  | _ => simp [Value.nonempty]

theorem panelRole_eq_some {text : String} {role : Role} (is : panelRole text = some role) :
    (role = .admin ∧ text = "admin") ∨ (role = .reseller ∧ text = "reseller") ∨
      (role = .customer ∧ text = "customer") := by
  unfold panelRole at is
  split_ifs at is with admin reseller customer <;> cases is
  · exact .inl ⟨rfl, admin⟩
  · exact .inr (.inl ⟨rfl, reseller⟩)
  · exact .inr (.inr ⟨rfl, customer⟩)

variable {principal : Principal} {account : Int}

theorem owns_customer (role : principal.role = .customer)
    (owns : ownsAccount db principal account) : principal.accountId = some account := by
  simpa [ownsAccount, role] using owns

theorem owns_reseller (role : principal.role = .reseller)
    (owns : ownsAccount db principal account) : ∃ reseller, principal.resellerId = some reseller ∧
      ∃ row ∈ db.resellerAccounts, row.resellerId = reseller ∧ row.accountId = account := by
  cases known : principal.resellerId with
  | none => simp [ownsAccount, role, known] at owns
  | some reseller => exact ⟨reseller, rfl, by simpa [ownsAccount, role, known] using owns⟩

theorem resolveImpersonation_eq_ok {digest : String} {user : PanelUser} {imp : ImpersonationSession}
    (resolved : resolveImpersonation db digest user imp = .ok principal) :
    user.role = "admin" ∧ imp.adminPanelUserId = user.id ∧ principal.role = .customer ∧
      principal.accountId = some imp.accountId := by
  simp only [resolveImpersonation, bind_eq_ok, orRaise_eq_ok, raiseIf_eq_ok, pure_eq_ok, not_or,
    not_not] at resolved
  obtain ⟨account, found, -, ⟨role, admin⟩, rfl⟩ := resolved
  exact ⟨role, admin, rfl, by rw [(Rows.byKey_some found).2]⟩

theorem resolveSession_signedIn {raw : String} (resolved : resolveSession host db raw = .ok principal) :
    ∃ user, SignedIn host db raw user ∧
      ((∃ imp ∈ db.impersonations, imp.sessionId = host.sha256 raw ∧ imp.ended = false ∧
          user.role = "admin" ∧ imp.adminPanelUserId = user.id ∧ principal.role = .customer ∧
          principal.accountId = some imp.accountId) ∨
        (principal.role = .admin) ∨
        (principal.role = .customer ∧ user.role = "customer" ∧ principal.accountId = user.accountId) ∨
        (principal.role = .reseller ∧ user.role = "reseller" ∧ ∃ profile ∈ db.resellerProfiles,
          profile.panelUserId = user.id ∧ profile.status = "active" ∧
          principal.resellerId = some profile.id)) := by
  simp only [resolveSession, Host.sessionDigest, bind_eq_ok, orRaise_eq_ok, raiseIf_eq_ok] at resolved
  obtain ⟨digest, isDigest, session, foundSession, -, live, user, foundUser, -, enabled, role, isRole, rest⟩ :=
    resolved
  have digested : digest = host.sha256 raw := by
    split at isDigest
    · cases isDigest
    · exact (Except.ok.inj isDigest).symm
  obtain ⟨sessionIn, isSession⟩ := Rows.byKey_some foundSession
  obtain ⟨userIn, isUser⟩ := Rows.byKey_some foundUser
  refine ⟨user, ⟨userIn, by simpa using enabled, session, sessionIn, isSession.trans digested, isUser.symm, ?_⟩, ?_⟩
  · simpa using live
  · split at rest
    · rename_i imp found
      have same : imp.sessionId = digest ∧ imp.ended = false := by simpa using List.find?_some found
      obtain ⟨admin, started, customer, account⟩ := resolveImpersonation_eq_ok rest
      exact .inl ⟨imp, List.mem_of_find?_eq_some found, same.1.trans digested, same.2, admin, started,
        customer, account⟩
    · right
      rcases panelRole_eq_some isRole with ⟨rfl, text⟩ | ⟨rfl, text⟩ | ⟨rfl, text⟩
      · cases rest
        exact .inl rfl
      · simp only [bind_eq_ok, orRaise_eq_ok, pure_eq_ok] at rest
        obtain ⟨profile, found, rfl⟩ := rest
        have active : profile.panelUserId = user.id ∧ profile.status = "active" := by
          simpa using List.find?_some found
        exact .inr (.inr ⟨rfl, text, profile, List.mem_of_find?_eq_some found, active.1, active.2, rfl⟩)
      · simp only [bind_eq_ok, pure_eq_ok] at rest
        obtain ⟨-, -, rfl⟩ := rest
        exact .inr (.inl ⟨rfl, text, rfl⟩)

theorem resolveToken_eq_ok {raw : String} (resolved : resolveToken host db raw = .ok principal) :
    ∃ token ∈ db.apiTokens, token.tokenHash = host.sha256 raw ∧ token.revoked = false ∧
      (principal.role = .admin ∨ principal.role = .customer ∧ token.role = "customer" ∧
        principal.accountId = token.accountId) := by
  simp only [resolveToken, bind_eq_ok, orRaise_eq_ok, raiseIf_eq_ok, pure_eq_ok, not_or] at resolved
  obtain ⟨token, found, -, ⟨kept, -⟩, role, isRole, -, -, -, -, rfl⟩ := resolved
  obtain ⟨member, same⟩ := Rows.byKey_some found
  refine ⟨token, member, same, by simpa using kept, ?_⟩
  unfold tokenRole at isRole
  split_ifs at isRole with admin customer <;> cases isRole
  · exact .inl rfl
  · exact .inr ⟨rfl, customer, rfl⟩

/-- What a resolved principal owns, its credential gives a right to. -/
theorem resolve_entitled {credential : Option Credential} (resolved : resolvePrincipal host db credential = .ok principal) (notAdmin : principal.role ≠ .admin)
    (owns : ownsAccount db principal account) : Entitled host db credential account := by
  simp only [resolvePrincipal, bind_eq_ok, orRaise_eq_ok, raiseIf_eq_ok, nonempty_eq_some] at resolved
  obtain ⟨⟨kind, value⟩, rfl, type, -, raw, ⟨isRaw, -⟩, -, -, rest⟩ := resolved
  simp only at isRaw
  have bears : Bears (some ⟨kind, value⟩) raw := ⟨kind, by rw [isRaw]⟩
  split_ifs at rest with finalizer cluster session token
  · simp only [resolveFinalizer, bind_eq_ok, pure_eq_ok] at rest
    obtain ⟨job, found, fresh, live, same⟩ := rest
    rw [← same] at owns
    cases owns
  · simp only [resolveCluster, bind_eq_ok, pure_eq_ok] at rest
    obtain ⟨peer, found, same⟩ := rest
    rw [← same] at owns
    cases owns
  · obtain ⟨user, signedIn, ⟨imp, member, same, running, role, admin, customer, own⟩ | admin |
      ⟨customer, role, own⟩ | ⟨reseller, role, profile, member, profiled, active, known⟩⟩ :=
      resolveSession_signedIn rest
    · have is := owns_customer customer owns
      rw [own] at is
      cases is
      exact .impersonation bears signedIn role member same running admin
    · exact absurd admin notAdmin
    · exact .customer bears signedIn role (own.symm.trans (owns_customer customer owns))
    · obtain ⟨id, isId, row, assigned, of, rfl⟩ := owns_reseller reseller owns
      rw [known] at isId
      cases isId
      exact .reseller bears signedIn role member profiled active assigned of
  · obtain ⟨token, member, same, kept, admin | ⟨customer, role, own⟩⟩ := resolveToken_eq_ok rest
    · exact absurd admin notAdmin
    · exact .token bears member same kept role (own.symm.trans (owns_customer customer owns))

end Boron.Authority
