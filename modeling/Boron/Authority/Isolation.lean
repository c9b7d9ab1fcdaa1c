import Boron.Authority.Authorize

namespace Boron.Authority
open Checks

def Disposition.accountScoped (op : String) : Disposition → Bool
  | .accountUsername | .accountAndDomain | .domainOwner | .mixedAdminOrAccount
  | .mixedAdminOrAccountAndDomain | .accountTerminalSessionOwner | .customerSelfAccount
  | .customerAdminOrImpersonationSessionAccount | .accountRowOwnerRestoreJob => true
  | .resellerSelfOrOwnedAccount => op = "reseller.account.lifecycle"
  | _ => false

def Disposition.adminOnly : Disposition → Bool
  | .globalAdmin | .adminAccountUsername | .adminImpersonationIssue | .adminConfirmedUpdate
  | .adminImpersonationRedeem | .rootInternal | .rootInternalReplaceWithLoginProtocol => true
  | _ => false

def UsernameWithin (db : Database) (params : Params) (account : Int) : Prop :=
  ∀ username, params.get "username" = .text username → username ≠ "" →
    ∃ row ∈ db.accounts, row.username = username ∧ row.id = account

/-- A domain in the request belongs to the account wherever it is registered. -/
def DomainWithin (host : Host) (db : Database) (params : Params) (account : Int) : Prop :=
  ∀ domain, params.get "domain" = .text domain → domain ≠ "" →
    ∀ row ∈ db.domains ++ db.mailDomains, host.validateDomain domain = some row.domain → row.accountId = account

variable {host : Host} {db : Database} {params : Params} {principal : Principal} {allowNewDomain : Bool}

theorem targetAccountId_eq_ok {target : Option Int}
    (found : targetAccountId host db params allowNewDomain = .ok target) :
    ∃ fromUsername fromDomain, usernameTarget db params = .ok fromUsername ∧
      domainTarget host db params allowNewDomain fromUsername = .ok fromDomain ∧
      (fromUsername ≠ none → fromDomain ≠ none → fromUsername = fromDomain) ∧
      target = fromUsername.or fromDomain := by
  simp only [targetAccountId, bind_eq_ok, raiseIf_eq_ok, pure_eq_ok] at found
  obtain ⟨fromUsername, named, fromDomain, hosted, -, agree, rfl⟩ := found
  refine ⟨fromUsername, fromDomain, named, hosted, fun some some' => ?_, rfl⟩
  by_contra differ
  exact agree ⟨some, some', differ⟩

theorem usernameTarget_eq_ok {username : String} {target : Option Int}
    (found : usernameTarget db params = .ok target)
    (named : params.get "username" = .text username) (filled : username ≠ "") :
    ∃ row ∈ db.accounts, row.username = username ∧ target = some row.id := by
  rw [usernameTarget, nonempty_eq_some.mpr ⟨named, filled⟩] at found
  simp only [bind_eq_ok, orRaise_eq_ok, pure_eq_ok] at found
  obtain ⟨account, isAccount, rfl⟩ := found
  obtain ⟨member, same⟩ := Rows.byKey_some isAccount
  exact ⟨account, member, same, rfl⟩

theorem targetAccountId_username {account : Int}
    (found : targetAccountId host db params allowNewDomain = .ok (some account)) :
    UsernameWithin db params account := by
  intro username named filled
  obtain ⟨fromUsername, fromDomain, target, -, -, same⟩ := targetAccountId_eq_ok found
  obtain ⟨row, member, isRow, rfl⟩ := usernameTarget_eq_ok target named filled
  exact ⟨row, member, isRow, (Option.some.inj same).symm⟩

theorem byKey_accountId {rows : List OwnedDomain} (unique : Rows.Unique OwnedDomain.domain rows)
    {row : OwnedDomain} (member : row ∈ rows) :
    (Rows.byKey OwnedDomain.domain rows row.domain).map OwnedDomain.accountId = some row.accountId := by
  rw [Rows.byKey_of_mem unique member, Option.map_some]

theorem targetAccountId_domain {account : Int}
    (found : targetAccountId host db params allowNewDomain = .ok (some account)) :
    DomainWithin host db params account := by
  intro domain named filled row member valid
  obtain ⟨fromUsername, fromDomain, -, target, agree, same⟩ := targetAccountId_eq_ok found
  rw [domainTarget, nonempty_eq_some.mpr ⟨named, filled⟩] at target
  simp only [valid, bind_eq_ok, orRaise_eq_ok, raiseIf_eq_ok, pure_eq_ok] at target
  obtain ⟨-, ⟨⟩, -, consistent, -, -, rfl⟩ := target
  rcases List.mem_append.mp member with hosted | mail
  · rw [byKey_accountId db.domainNames hosted] at agree same
    cases fromUsername with
    | none => exact (Option.some.inj same).symm
    | some named => exact (Option.some.inj (same.trans (agree (by simp) (by simp)))).symm
  · rw [byKey_accountId db.mailDomainNames mail] at consistent
    have owner : some row.accountId = ((Rows.byKey OwnedDomain.domain db.domains row.domain).map
        OwnedDomain.accountId).or fromUsername := by
      by_contra differ
      exact consistent ⟨by simp, differ⟩
    generalize (Rows.byKey OwnedDomain.domain db.domains row.domain).map OwnedDomain.accountId = hosted at *
    cases fromUsername with
    | none => exact Option.some.inj (owner.trans ((Option.or_none).trans same.symm))
    | some named =>
      cases hosted with
      | none => exact Option.some.inj (owner.trans same.symm)
      | some id => exact Option.some.inj (owner.trans ((agree (by simp) (by simp)).symm.trans same.symm))

theorem requireOwned_eq_ok {message : String}
    (granted : requireOwned host db params allowNewDomain principal message = .ok ()) :
    ∃ account, ownsAccount db principal account ∧ UsernameWithin db params account ∧
      DomainWithin host db params account := by
  simp only [requireOwned, bind_eq_ok, raiseIf_eq_ok, not_not] at granted
  obtain ⟨target, found, owned⟩ := granted
  obtain ⟨account, rfl, owns⟩ := (Option.any_eq_true _ _).mp owned
  exact ⟨account, owns, targetAccountId_username found, targetAccountId_domain found⟩

theorem requireSelf_eq_ok (granted : requireSelf host db params principal = .ok ())
    (customer : principal.role = .customer) (known : principal.accountId ≠ none) :
    ∃ account, ownsAccount db principal account ∧ UsernameWithin db params account ∧
      DomainWithin host db params account := by
  simp only [requireSelf, bind_eq_ok, raiseIf_eq_ok, not_not] at granted
  obtain ⟨target, found, own⟩ := granted
  obtain ⟨account, isAccount⟩ := Option.ne_none_iff_exists'.mp known
  rw [own, isAccount] at found
  refine ⟨account, ?_, targetAccountId_username found, targetAccountId_domain found⟩
  simp only [ownsAccount, customer, isAccount, decide_true]

theorem authorizeRestoreJob_eq_ok (granted : authorizeRestoreJob host db params principal = .ok ()) :
    ∃ account, ownsAccount db principal account ∧ UsernameWithin db params account := by
  simp only [authorizeRestoreJob, bind_eq_ok, orRaise_eq_ok, raiseIf_eq_ok, not_or, not_not] at granted
  obtain ⟨-, -, id, -, job, -, target, found, rfl, owns⟩ := granted
  refine ⟨job.accountId, owns, fun username named => targetAccountId_username found username ?_⟩
  simpa only [Params.get, if_true] using named

/-- A non-administrator is granted an account's operation only on its own
account. A restore job's domain is not looked at. -/
theorem authorizePrincipal_scoped {op : String} {disposition : Disposition}
    (granted : authorizePrincipal host db op params principal disposition = .ok ())
    (notAdmin : principal.role ≠ .admin) (within : disposition.accountScoped op) :
    ∃ account, ownsAccount db principal account ∧ UsernameWithin db params account ∧
      (disposition ≠ .accountRowOwnerRestoreJob → DomainWithin host db params account) := by
  have whole : (∃ account, ownsAccount db principal account ∧ UsernameWithin db params account ∧
      DomainWithin host db params account) → ∃ account, ownsAccount db principal account ∧
        UsernameWithin db params account ∧
        (disposition ≠ .accountRowOwnerRestoreJob → DomainWithin host db params account) :=
    fun ⟨account, owns, named, hosted⟩ => ⟨account, owns, named, fun _ => hosted⟩
  cases disposition with
  | accountUsername | accountAndDomain | domainOwner | mixedAdminOrAccount | mixedAdminOrAccountAndDomain
  | accountTerminalSessionOwner =>
    simp only [authorizePrincipal, notAdmin, if_false] at granted
    exact whole (requireOwned_eq_ok granted)
  | customerSelfAccount =>
    simp only [authorizePrincipal, bind_eq_ok, raiseIf_eq_ok, not_or, not_not] at granted
    obtain ⟨-, ⟨customer, known, -⟩, self⟩ := granted
    exact whole (requireSelf_eq_ok self customer known)
  | customerAdminOrImpersonationSessionAccount =>
    simp only [authorizePrincipal, bind_eq_ok] at granted
    obtain ⟨-, -, owned⟩ := granted
    exact whole (requireOwned_eq_ok owned)
  | accountRowOwnerRestoreJob =>
    obtain ⟨account, owns, named⟩ := authorizeRestoreJob_eq_ok granted
    exact ⟨account, owns, named, fun other => absurd rfl other⟩
  | resellerSelfOrOwnedAccount =>
    have lifecycle : op = "reseller.account.lifecycle" := by simpa [Disposition.accountScoped] using within
    simp only [authorizePrincipal, authorizeReseller, lifecycle, if_true, bind_eq_ok] at granted
    obtain ⟨-, -, owned⟩ := granted
    exact whole (requireOwned_eq_ok owned)
  | _ => cases within

theorem authorizePrincipal_adminOnly {op : String} {disposition : Disposition}
    (granted : authorizePrincipal host db op params principal disposition = .ok ())
    (notAdmin : principal.role ≠ .admin) : disposition.adminOnly = false := by
  cases disposition with
  | globalAdmin | adminAccountUsername | adminImpersonationIssue =>
    simp [authorizePrincipal, notAdmin] at granted
  | adminConfirmedUpdate => simp [authorizePrincipal, authorizeUpdate, notAdmin] at granted
  | adminImpersonationRedeem => simp [authorizePrincipal, notAdmin] at granted
  | rootInternal | rootInternalReplaceWithLoginProtocol => simp [authorizePrincipal] at granted
  | _ => rfl

theorem authorize_eq_ok {op : String} (granted : authorize host db op params (some principal) = .ok ()) :
    ∃ disposition, policyByOperation.lookup op = some disposition ∧
      authorizePrincipal host db op params principal disposition = .ok () := by
  simp only [authorize, bind_eq_ok, orRaise_eq_ok] at granted
  obtain ⟨-, -, disposition, reviewed, allowed⟩ := granted
  exact ⟨disposition, reviewed, allowed⟩

/-- Account isolation: whatever a resolved non-administrator is granted stays
within an account its credential gives a right to. -/
theorem granted_within_account {credential : Option Credential} {op : String} {disposition : Disposition}
    (resolved : resolvePrincipal host db credential = .ok principal) (notAdmin : principal.role ≠ .admin)
    (reviewed : policyByOperation.lookup op = some disposition)
    (granted : authorize host db op params (some principal) = .ok ()) :
    disposition.adminOnly = false ∧ (disposition.accountScoped op → ∃ account,
      Entitled host db credential account ∧ UsernameWithin db params account ∧
      (disposition ≠ .accountRowOwnerRestoreJob → DomainWithin host db params account)) := by
  obtain ⟨other, same, allowed⟩ := authorize_eq_ok granted
  obtain rfl := Option.some.inj (same.symm.trans reviewed)
  refine ⟨authorizePrincipal_adminOnly allowed notAdmin, fun within => ?_⟩
  obtain ⟨account, owns, named, hosted⟩ := authorizePrincipal_scoped allowed notAdmin within
  exact ⟨account, resolve_entitled resolved notAdmin owns, named, hosted⟩

def twoCustomers : Database where
  accounts := [⟨1, "alice", "active"⟩, ⟨2, "bob", "active"⟩]
  domains := [⟨"alice.example", 1⟩, ⟨"bob.example", 2⟩]
  mailDomains := []
  panelUsers := []
  sessions := []
  impersonations := []
  resellerProfiles := []
  resellerAccounts := []
  apiTokens := [{ tokenHash := "9c220f200955d76c0a38d308225e0ef10c5f971acaf2f8d1d8f732affa5bd1dc",
                   label := "alice", role := "customer", accountId := some 1, createdAt := 0, revoked := false,
                   scope := "full", expiresAt := none }]
  peers := []
  updateJobs := []
  restoreJobs := [⟨7, 1⟩]
  controlTasks := []
  totpCredentials := []
  usernames := by decide
  domainNames := by decide
  mailDomainNames := by decide

def asciiHost : Host where
  now := 0
  strip text := text
  lower text := text
  encodesIdna _ := true
  intOfText _ := none
  sha256 raw := if raw = "alice-token" then "9c220f200955d76c0a38d308225e0ef10c5f971acaf2f8d1d8f732affa5bd1dc" else ""
  verifyPassword _ _ := false
  checkLoginCode _ _ := .ok false
  ownerAccountId _ _ := .ok none

def aliceToken : Option Credential := some ⟨.text "token", .text "alice-token"⟩

def alice : Principal where
  role := .customer
  username := "alice"
  accountId := some 1
  panelUserId := none
  authMethod := .token
  sessionHash := none
  resellerId := none
  impersonating := false
  readOnly := false

def restoreRequest (domain : String) : Params := fun key =>
  if key = "restore_job_id" then some (.int 7)
  else if key = "username" then some (.text "alice")
  else if key = "domain" then some (.text domain)
  else none

theorem granted_within_account_zone : Disposition.accountAndDomain.adminOnly = false ∧
      (Disposition.accountAndDomain.accountScoped "dns.list_records" → ∃ account,
        Entitled asciiHost twoCustomers aliceToken account ∧
        UsernameWithin twoCustomers (restoreRequest "alice.example") account ∧
        (Disposition.accountAndDomain ≠ .accountRowOwnerRestoreJob →
          DomainWithin asciiHost twoCustomers (restoreRequest "alice.example") account)) :=
  granted_within_account (show resolvePrincipal _ _ _ = .ok alice from rfl) (by decide) rfl rfl

/-- A customer may name another customer's domain beside its own restore job. -/
theorem restore_job_ignores_domain :
    resolvePrincipal asciiHost twoCustomers aliceToken = .ok alice ∧ alice.role ≠ .admin ∧
      policyByOperation.lookup "backup.restore.get" = some .accountRowOwnerRestoreJob ∧
      authorize asciiHost twoCustomers "backup.restore.get" (restoreRequest "bob.example") (some alice) = .ok () ∧
      ¬ ∃ account, UsernameWithin twoCustomers (restoreRequest "bob.example") account ∧
        DomainWithin asciiHost twoCustomers (restoreRequest "bob.example") account := by
  refine ⟨rfl, by decide, rfl, rfl, ?_⟩
  rintro ⟨account, named, hosted⟩
  obtain ⟨row, member, isAlice, same⟩ := named "alice" rfl (by decide)
  have bobs : (2 : Int) = account :=
    hosted "bob.example" rfl (by decide) ⟨"bob.example", 2⟩ (by simp [twoCustomers]) rfl
  simp [twoCustomers] at member
  rcases member with rfl | rfl
  · simp only at same
    omega
  · simp at isAlice

end Boron.Authority
