import Boron.Lib.Rows
import Mathlib.Data.List.Sort

namespace Boron.Accounts

inductive Status
  | active
  | suspended
  | terminating
  | terminated
  | error_
  deriving DecidableEq

/-- `Account.status.in_(["active", "suspended"])`. -/
def Status.isLive : Status → Bool
  | .active | .suspended => true
  | _ => false

structure Account where
  id : Nat
  username : String
  status : Status
  quotaSoftMb : Nat
  quotaHardMb : Nat
  inodeSoftLimit : Nat
  inodeHardLimit : Nat
  inodeEnforceAt : Option Nat
  deriving DecidableEq

inductive Role
  | admin
  | reseller
  | customer
  deriving DecidableEq

structure PanelUser where
  id : Nat
  username : String
  role : Role
  accountId : Option Nat
  disabled : Bool

/-- A hosting plan, as `_validate_quota` and `validate_limits` let it into its table. -/
structure Plan where
  quotaSoftMb : Nat
  quotaHardMb : Nat
  inodeSoftLimit : Nat
  inodeHardLimit : Nat
  positive : 1 ≤ quotaSoftMb
  ordered : quotaSoftMb ≤ quotaHardMb
  together : inodeSoftLimit = 0 ↔ inodeHardLimit = 0
  below : inodeSoftLimit ≤ inodeHardLimit

structure ResellerPlan where
  id : Nat
  maxAccounts : Nat
  maxTotalDiskMb : Nat
  accountQuotaSoftMb : Nat
  accountQuotaHardMb : Nat
  deriving DecidableEq

structure ResellerProfile where
  id : Nat
  panelUserId : Nat
  planId : Nat
  active : Bool
  deriving DecidableEq

structure ResellerAccount where
  resellerId : Nat
  accountId : Nat

/-- The four numbers of one `setquota` call, the blocks in units of 1024 bytes. -/
structure Limits where
  softBlocks : Nat
  hardBlocks : Nat
  inodeSoft : Nat
  inodeHard : Nat
  deriving DecidableEq

inductive LockName
  | state
  | databaseMutations
  | account (id : Nat)
  deriving DecidableEq

/-- The database, the limits of the Linux users that exist, and the named locks. -/
structure Store where
  accounts : List Account
  panelUsers : List PanelUser
  plans : Nat → Option Plan
  resellerPlans : List ResellerPlan
  profiles : List ResellerProfile
  resellerAccounts : List ResellerAccount
  kernel : String → Option Limits
  locks : LockName → Option Nat

def Store.acquire (i : Nat) (name : LockName) (store : Store) : Store :=
  { store with locks := fun other => if other = name then some i else store.locks other }

/-- The end of one `with` of task `i`. -/
def Store.free (i : Nat) (name : LockName) (store : Store) : Store :=
  { store with locks := fun other => if other = name ∧ store.locks name = some i then none else store.locks other }

/-- The end of every `with` of task `i`, or of its process. -/
def Store.release (i : Nat) (store : Store) : Store :=
  { store with locks := fun name => if store.locks name = some i then none else store.locks name }

def Store.account (store : Store) (username : String) : Option Account :=
  Rows.byKey Account.username store.accounts username

def Store.accountById (store : Store) (id : Nat) : Option Account := Rows.byKey Account.id store.accounts id

def Store.resellerPlan (store : Store) (id : Nat) : Option ResellerPlan :=
  Rows.byKey ResellerPlan.id store.resellerPlans id

def Store.profile (store : Store) (id : Nat) : Option ResellerProfile := Rows.byKey ResellerProfile.id store.profiles id

def Store.panelUser (store : Store) (username : String) : Option PanelUser :=
  Rows.byKey PanelUser.username store.panelUsers username

def Store.update (username : String) (f : Account → Account) (store : Store) : Store :=
  { store with accounts := Rows.change Account.username username f store.accounts }

def Store.setKernel (username : String) (limits : Option Limits) (store : Store) : Store :=
  { store with kernel := fun other => if other = username then limits else store.kernel other }

/-- `set_quota`; the call fails for a user that does not exist. -/
def Store.setQuota (username : String) (softMb hardMb inodeSoft inodeHard : Nat) (store : Store) : Option Store :=
  match store.kernel username with
  | none => none
  | some _ =>
    if inodeHard ≠ 0 ∧ inodeHard < inodeSoft then none
    else some (store.setKernel username (some { softBlocks := softMb * 1024, hardBlocks := hardMb * 1024, inodeSoft, inodeHard }))

/-- `remove_quota`, unchecked. -/
def Store.removeQuota (username : String) (store : Store) : Store := (store.setQuota username 0 0 0 0).getD store

/-- `inode_quotas.schedule`. -/
def Account.schedule (soft hard now : Nat) (row : Account) : Account :=
  { row with
    inodeSoftLimit := soft
    inodeHardLimit := hard
    inodeEnforceAt := if hard = 0 then none else some (now + 7 * 24 * 60 * 60) }

inductive EnforcementState
  | unlimited
  | enforced
  | warning
  | due
  deriving DecidableEq

def Account.enforcementState (row : Account) (now : Nat) : EnforcementState :=
  if row.inodeHardLimit = 0 then .unlimited
  else match row.inodeEnforceAt with
    | none => .enforced
    | some due => if now < due then .warning else .due

/-- What `enforce_due` remembers of a row. -/
structure Candidate where
  id : Nat
  username : String
  quotaSoftMb : Nat
  quotaHardMb : Nat
  inodeSoftLimit : Nat
  inodeHardLimit : Nat

def Account.isDue (now : Nat) (row : Account) : Bool :=
  row.status.isLive && 0 < row.inodeHardLimit && row.inodeEnforceAt.any fun due => due ≤ now

def Account.candidate (row : Account) : Candidate :=
  { id := row.id, username := row.username, quotaSoftMb := row.quotaSoftMb, quotaHardMb := row.quotaHardMb
    inodeSoftLimit := row.inodeSoftLimit, inodeHardLimit := row.inodeHardLimit }

def Store.candidates (store : Store) (now : Nat) : List Candidate :=
  ((store.accounts.filter (Account.isDue now)).mergeSort fun first second => first.id ≤ second.id).map Account.candidate

/-- What `enforce_due` writes after a `setquota` call. -/
def Account.recorded (candidate : Candidate) (row : Account) : Account :=
  if row.inodeSoftLimit = candidate.inodeSoftLimit ∧ row.inodeHardLimit = candidate.inodeHardLimit then
    { row with inodeEnforceAt := none }
  else row

def Store.recordEnforced (candidate : Candidate) (store : Store) : Store :=
  { store with accounts := Rows.change Account.id candidate.id (Account.recorded candidate) store.accounts }

/-- The first session of `handlers_account.create_account`. -/
def Store.isNewName (store : Store) (username : String) : Bool :=
  (store.account username).isNone && (store.panelUser username).isNone

def ensureCustomerLogin (accountId : Nat) (username : String) (users : List PanelUser) : Option (List PanelUser) :=
  match Rows.byKey PanelUser.username users username with
  | none =>
    some (users ++ [{ id := Rows.next PanelUser.id users, username, role := .customer, accountId := some accountId
                      disabled := false }])
  | some user =>
    if user.role = .customer ∧ user.accountId = some accountId then
      some (Rows.change PanelUser.username username (fun user => { user with disabled := false }) users)
    else none

def newAccount (accounts : List Account) (username : String) (softMb hardMb now : Nat) : Account :=
  { id := Rows.next Account.id accounts, username, status := .active, quotaSoftMb := softMb, quotaHardMb := hardMb
    inodeSoftLimit := 450000, inodeHardLimit := 500000, inodeEnforceAt := some (now + 7 * 24 * 60 * 60) }

/-- The session of `create_account` that adds the rows; both user names are unique columns. -/
def Store.addAccount (username : String) (softMb hardMb now : Nat) (store : Store) : Option Store :=
  let row := newAccount store.accounts username softMb hardMb now
  match store.account username, ensureCustomerLogin row.id username store.panelUsers with
  | none, some panelUsers => some { store with accounts := store.accounts ++ [row], panelUsers }
  | _, _ => none

/-- The first session of `apply_plan`. -/
def Store.applyPlan (username : String) (planId now : Nat) (store : Store) : Option (Plan × Store) :=
  match store.account username, store.plans planId with
  | some row, some plan =>
    if row.status.isLive then
      some (plan, store.update username fun row =>
        { row with quotaSoftMb := plan.quotaSoftMb, quotaHardMb := plan.quotaHardMb }.schedule
          plan.inodeSoftLimit plan.inodeHardLimit now)
    else none
  | _, _ => none

/-- The last session of `reactivate_account`. -/
def Store.reactivate (username : String) (softMb hardMb : Nat) (store : Store) : Option Store :=
  match store.account username with
  | none => none
  | some row =>
    let back := store.panelUsers.map fun user => if user.accountId = some row.id then { user with disabled := false } else user
    match ensureCustomerLogin row.id username back with
    | none => none
    | some panelUsers =>
      some { store.update username fun row =>
        { row with status := .active, quotaSoftMb := softMb, quotaHardMb := hardMb } with panelUsers }

/-- The last session of `terminate_account`. -/
def Store.finish (username : String) (errors : Bool) (store : Store) : Store :=
  let id := (store.account username).map Account.id
  { store.update username fun row => { row with status := if errors then .error_ else .terminated } with
    panelUsers := store.panelUsers.map fun user => if user.accountId.isSome && user.accountId = id then
      { user with disabled := true } else user }

def Store.owns (store : Store) (profileId accountId : Nat) : Bool :=
  store.resellerAccounts.any fun link => link.resellerId = profileId && link.accountId = accountId

def total : List Nat → Nat
  | [] => 0
  | quota :: rest => quota + total rest

def Account.charge (row : Account) : Option Nat := if row.status = .terminated then none else some row.quotaHardMb

def Store.charges (store : Store) (weigh : Account → Option Nat) (member : Nat → Bool) : List Nat :=
  (store.accounts.filter fun row => member row.id).filterMap weigh

/-- `_profile_usage`: the quotas of the accounts of a reseller that are not terminated. -/
def Store.profileUsage (store : Store) (profileId : Nat) : List Nat := store.charges Account.charge (store.owns profileId)

def ResellerPlan.fits (plan : ResellerPlan) (usage : List Nat) : Bool :=
  usage.length ≤ plan.maxAccounts && total usage ≤ plan.maxTotalDiskMb

/-- `_profile_for_username` of an active reseller. -/
def Store.profileForUsername (store : Store) (username : String) : Option ResellerProfile :=
  match store.panelUser username with
  | none => none
  | some user => (store.profiles.find? fun profile => profile.panelUserId = user.id).filter ResellerProfile.active

/-- `_owned_account`. -/
def Store.ownsAccount (store : Store) (resellerUsername username : String) : Bool :=
  match store.profileForUsername resellerUsername, store.account username with
  | some profile, some row => store.owns profile.id row.id
  | _, _ => false

/-- The first session of `resellers.create_account`: the reseller and the quotas of its plan. -/
def Store.requestAccount (resellerUsername username : String) (store : Store) : Option (ResellerProfile × ResellerPlan) :=
  match store.profileForUsername resellerUsername with
  | none => none
  | some profile => match store.resellerPlan profile.planId with
    | none => none
    | some plan =>
      if (store.profileUsage profile.id).length < plan.maxAccounts
          ∧ total (store.profileUsage profile.id) + plan.accountQuotaHardMb ≤ plan.maxTotalDiskMb
          ∧ (store.panelUser username).isNone = true then some (profile, plan)
      else none

/-- The second session of `resellers.create_account`; the account is a unique column. -/
def Store.link (profileId : Nat) (username : String) (accountId : Nat) (store : Store) : Option Store :=
  match store.panelUser username with
  | none => none
  | some user =>
    if user.role = .customer ∧ user.accountId = some accountId ∧ user.disabled = false
        ∧ store.resellerAccounts.all (fun link => link.accountId ≠ accountId) = true then
      some { store with resellerAccounts := store.resellerAccounts ++ [{ resellerId := profileId, accountId }] }
    else none

def Store.unlinked (store : Store) (accountId : Nat) : List ResellerAccount :=
  store.resellerAccounts.filter fun link => link.accountId ≠ accountId

def Store.relink (profileId accountId : Nat) (store : Store) : Store :=
  { store with resellerAccounts := store.unlinked accountId ++ [{ resellerId := profileId, accountId }] }

def Store.moveAccount (username : String) (target : Option Nat) (store : Store) : Option Store :=
  match store.account username with
  | none => none
  | some row =>
    if row.status = .terminated then none
    else match target with
      | none => some { store with resellerAccounts := store.unlinked row.id }
      | some profileId =>
        if store.owns profileId row.id then some store
        else match store.profile profileId with
          | none => none
          | some profile => match store.resellerPlan profile.planId with
            | none => none
            | some plan =>
              let usage := store.profileUsage profileId
              if profile.active = true ∧ usage.length + 1 ≤ plan.maxAccounts
                  ∧ total usage + row.quotaHardMb ≤ plan.maxTotalDiskMb then some (store.relink profileId row.id)
              else none

/-- `_require_capacity` for the new plan of a reseller, where one is given. -/
def Store.requireCapacity (store : Store) (profileId : Nat) : Option Nat → Bool
  | none => true
  | some planId => match store.resellerPlan planId with
    | none => false
    | some plan => plan.fits (store.profileUsage profileId)

/-- `update_reseller` with the new plan and the new status, where they are given. -/
def Store.updateReseller (profileId : Nat) (planId : Option Nat) (active : Option Bool) (store : Store) : Option Store :=
  match store.profile profileId with
  | none => none
  | some profile =>
    if store.requireCapacity profileId planId then
      some { store with
        profiles := Rows.change ResellerProfile.id profileId (fun profile =>
          { profile with planId := planId.getD profile.planId, active := active.getD profile.active }) store.profiles
        panelUsers := match active with
          | none => store.panelUsers
          | some active => Rows.change PanelUser.id profile.panelUserId (fun user => { user with disabled := !active })
            store.panelUsers }
    else none

def bounded (value : Int) (minimum maximum : Nat) : Option Nat :=
  if minimum ≤ value ∧ value ≤ maximum then some value.toNat else none

structure PlanParams where
  maxAccounts : Option Int
  maxTotalDiskMb : Option Int
  accountQuotaSoftMb : Option Int
  accountQuotaHardMb : Option Int

/-- The limits that `_validate_plan` lets through. -/
def validatePlan (params : PlanParams) (current : ResellerPlan) : Option ResellerPlan :=
  match bounded (params.maxAccounts.getD current.maxAccounts) 1 10000,
    bounded (params.maxTotalDiskMb.getD current.maxTotalDiskMb) 1 100000000,
    bounded (params.accountQuotaSoftMb.getD current.accountQuotaSoftMb) 1 10000000,
    bounded (params.accountQuotaHardMb.getD current.accountQuotaHardMb) 1 10000000 with
  | some maxAccounts, some maxTotalDiskMb, some accountQuotaSoftMb, some accountQuotaHardMb =>
    if accountQuotaSoftMb ≤ accountQuotaHardMb ∧ accountQuotaHardMb ≤ maxTotalDiskMb then
      some { id := current.id, maxAccounts, maxTotalDiskMb, accountQuotaSoftMb, accountQuotaHardMb }
    else none
  | _, _, _, _ => none

/-- `resellers.update_plan`. -/
def Store.updatePlan (planId : Nat) (params : PlanParams) (store : Store) : Option Store :=
  match store.resellerPlan planId with
  | none => none
  | some row => match validatePlan params row with
    | none => none
    | some candidate =>
      if (store.profiles.filter fun profile => profile.planId = planId).all fun profile =>
          candidate.fits (store.profileUsage profile.id) then
        some { store with
          resellerPlans := Rows.change ResellerPlan.id planId (fun row => { candidate with id := row.id }) store.resellerPlans }
      else none

end Boron.Accounts
