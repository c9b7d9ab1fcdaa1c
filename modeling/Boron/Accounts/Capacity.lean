import Boron.Accounts.Store
import Boron.Lib.Tasks

namespace Boron.Accounts

inductive Action
  | suspend
  | unsuspend
  | terminate
  | reactivate (softMb hardMb : Nat)

def Action.isLifecycle : Action → Bool
  | .reactivate .. => false
  | _ => true

inductive Call
  | createAccount (username : String) (softMb hardMb : Nat)
  | applyPlan (username : String) (planId : Nat)
  | manage (action : Action) (username : String)
  | enforceDue
  | savePlan (planId : Nat) (plan : Plan)
  | createResellerAccount (resellerUsername username : String)
  | lifecycle (action : Action) (resellerUsername username : String)
  | moveAccount (username : String) (target : Option Nat)
  | updateReseller (profileId : Nat) (planId : Option Nat) (active : Option Bool)
  | updatePlan (planId : Nat) (params : PlanParams)

/-- What a turn finds outside: the call that begins, whether the process stops or the step
raises, the clock, and what the kernel still has for the uid of a new Linux user. -/
structure Moment where
  call : Call
  stops : Bool
  raises : Bool
  now : Nat
  limits : Limits

/-- Where `handlers_account.create_account` stands. -/
inductive CreatePhase
  | lock
  | check
  | useradd
  | prepareHome
  | setQuota
  | insert
  | provision (accountId : Nat)
  | rollback
  deriving DecidableEq

/-- Where `apply_plan` stands. -/
inductive ApplyPhase
  | lock (planId : Nat)
  | commit (planId : Nat)
  | limits (plan : Plan)
  | setQuota (plan : Plan)
  | rest

/-- Where an operation under the lock of its account stands. -/
inductive ManagePhase
  | lock
  | recheck
  | begin
  | hooks
  | removeQuota
  | userdel
  | finish (errors : Bool)
  | useradd
  | prepareHome
  | setQuota
  | commit
  | rollback
  deriving DecidableEq

inductive EnforcePhase
  | setQuota
  | record
  deriving DecidableEq

/-- `account_mutation.locked` reads the account again; a termination does not. -/
def Action.first : Action → ManagePhase
  | .terminate => .begin
  | _ => .recheck

/-- An account is created for the reseller `owner`, or for none. A call of the reseller module
waits for its lock first. -/
inductive Task
  | idle
  | create (owner : Option Nat) (username : String) (softMb hardMb : Nat) (phase : CreatePhase)
  | link (owner : Nat) (username : String) (accountId : Nat)
  | reconcile (username : String)
  | compensate (username : String)
  | apply (username : String) (phase : ApplyPhase)
  | manage (action : Action) (username : String) (id : Nat) (phase : ManagePhase)
  | enforce (phase : EnforcePhase) (candidates : List Candidate)
  | wait (call : Call)

/-- Every `with` of the task is left. -/
def leave (i : Nat) (store : Store) : Task × Store := (.idle, store.release i)

/-- An error after the Linux user is set up rolls it back, one after the reseller's account
was created terminates it, and one of a termination is recorded with its account. -/
def raised (i : Nat) (task : Task) (store : Store) : Task × Store :=
  match task with
  | .create owner username softMb hardMb .setQuota | .create owner username softMb hardMb .insert =>
    (.create owner username softMb hardMb .rollback, store)
  | .link _ username _ | .reconcile username => (.compensate username, store)
  | .manage .terminate username id .hooks | .manage .terminate username id .removeQuota
  | .manage .terminate username id .userdel => (.manage .terminate username id (.finish true), store)
  | .manage (.reactivate softMb hardMb) username id .setQuota => (.manage (.reactivate softMb hardMb) username id .rollback, store)
  | .enforce _ (_ :: rest) => (.enforce .setQuota rest, store)
  | _ => leave i store

/-- `with jobs.lock(name, blocking=False)`. -/
def tryLock (i : Nat) (name : LockName) (granted : Task) (store : Store) : Task × Store :=
  match store.locks name with
  | none => (granted, store.acquire i name)
  | some _ => leave i store

def createTurn (moment : Moment) (i : Nat) (owner : Option Nat) (username : String) (softMb hardMb : Nat)
    (phase : CreatePhase) (store : Store) : Task × Store :=
  let go := Task.create owner username softMb hardMb
  match phase with
  | .lock => tryLock i .databaseMutations (go .check) store
  | .check => if store.isNewName username ∧ softMb ≤ hardMb then (go .useradd, store) else leave i store
  | .useradd => match store.kernel username with
    | some _ => leave i store
    | none => (go .prepareHome, store.setKernel username (some moment.limits))
  | .prepareHome => (go .setQuota, store)
  | .setQuota => match store.setQuota username softMb hardMb 0 0 with
    | none => (go .rollback, store)
    | some set => (go .insert, set)
  | .insert => match store.addAccount username softMb hardMb moment.now with
    | none => (go .rollback, store)
    | some added => (go (.provision (newAccount store.accounts username softMb hardMb moment.now).id), added)
  -- The primary domain and the hooks; an error here leaves the account as it is.
  | .provision accountId => match owner with
    | none => leave i store
    | some profileId => (.link profileId username accountId, store.free i .databaseMutations)
  | .rollback => leave i (store.setKernel username none)

def applyTurn (moment : Moment) (i : Nat) (username : String) (phase : ApplyPhase) (store : Store) : Task × Store :=
  match phase with
  | .lock planId => tryLock i .databaseMutations (.apply username (.commit planId)) store
  | .commit planId => match store.applyPlan username planId moment.now with
    | none => leave i store
    | some (plan, applied) => (.apply username (.limits plan), applied)
  | .limits plan => (.apply username (.setQuota plan), store)
  | .setQuota plan => match store.setQuota username plan.quotaSoftMb plan.quotaHardMb 0 0 with
    | none => leave i store
    | some set => (.apply username .rest, set)
  | .rest => leave i store

/-- The first session of an operation under the account lock. -/
def beginTurn (i : Nat) (action : Action) (username : String) (id : Nat) (store : Store) : Task × Store :=
  match store.account username with
  | none => leave i store
  | some row => match action with
    | .suspend =>
      if row.status = .active then leave i (store.update username fun row => { row with status := .suspended })
      else leave i store
    | .unsuspend =>
      if row.status = .suspended then leave i (store.update username fun row => { row with status := .active })
      else leave i store
    | .terminate =>
      if row.status = .terminated then leave i store
      else (.manage action username id .hooks, store.update username fun row => { row with status := .terminating })
    | .reactivate softMb hardMb =>
      if (row.status = .terminated ∨ row.status = .error_) ∧ softMb ≤ hardMb then (.manage action username id .useradd, store)
      else leave i store

def manageTurn (moment : Moment) (i : Nat) (action : Action) (username : String) (id : Nat) (phase : ManagePhase)
    (store : Store) : Task × Store :=
  let go := Task.manage action username id
  match phase with
  | .lock => tryLock i (.account id) (go action.first) store
  | .recheck => match store.accountById id with
    | none => leave i store
    | some row => if row.username = username then (go .begin, store) else leave i store
  | .begin => beginTurn i action username id store
  | .hooks => (go .removeQuota, store)
  | .removeQuota => (go .userdel, store.removeQuota username)
  | .userdel => (go (.finish false), store.setKernel username none)
  | .finish errors => leave i (store.finish username errors)
  | .useradd => match store.kernel username with
    | some _ => leave i store
    | none => (go .prepareHome, store.setKernel username (some moment.limits))
  | .prepareHome => (go .setQuota, store)
  | .setQuota => match action with
    | .reactivate softMb hardMb => match store.setQuota username softMb hardMb 0 0 with
      | none => (go .rollback, store)
      | some set => (go .commit, set)
    | _ => leave i store
  | .commit => match action with
    | .reactivate softMb hardMb => leave i ((store.reactivate username softMb hardMb).getD store)
    | _ => leave i store
  | .rollback => leave i (store.setKernel username none)

def enforceTurn (i : Nat) (phase : EnforcePhase) (candidates : List Candidate) (store : Store) : Task × Store :=
  match phase, candidates with
  | _, [] => leave i store
  | .setQuota, candidate :: rest =>
    match store.setQuota candidate.username candidate.quotaSoftMb candidate.quotaHardMb candidate.inodeSoftLimit
      candidate.inodeHardLimit with
    | none => (.enforce .setQuota rest, store)
    | some set => (.enforce .record (candidate :: rest), set)
  | .record, candidate :: rest => (.enforce .setQuota rest, store.recordEnforced candidate)

def callTurn (moment : Moment) (store : Store) : Task × Store :=
  match moment.call with
  | .createAccount username softMb hardMb => (.create none username softMb hardMb .lock, store)
  | .applyPlan username planId => (.apply username (.lock planId), store)
  | .manage action username => match store.account username with
    | none => (.idle, store)
    | some row => (.manage action username row.id .lock, store)
  | .enforceDue => (.enforce .setQuota (store.candidates moment.now), store)
  | .savePlan planId plan => (.idle, { store with plans := fun other => if other = planId then some plan else store.plans other })
  | call => (.wait call, store)

/-- A call of the reseller module under `_state_lock`. -/
def stateTurn (i : Nat) (call : Call) (store : Store) : Task × Store :=
  match call with
  | .createResellerAccount resellerUsername username => match store.requestAccount resellerUsername username with
    | none => leave i store
    | some (profile, plan) =>
      (.create (some profile.id) username plan.accountQuotaSoftMb plan.accountQuotaHardMb .lock, store)
  | .lifecycle action resellerUsername username =>
    match action.isLifecycle && store.ownsAccount resellerUsername username, store.account username with
    | true, some row => (.manage action username row.id .lock, store)
    | _, _ => leave i store
  | .moveAccount username target => leave i ((store.moveAccount username target).getD store)
  | .updateReseller profileId planId active => leave i ((store.updateReseller profileId planId active).getD store)
  | .updatePlan planId params => leave i ((store.updatePlan planId params).getD store)
  | _ => leave i store

def taskTurn (i : Nat) (moment : Moment) (task : Task) (store : Store) : Task × Store :=
  match task with
  | .idle => callTurn moment store
  | .create owner username softMb hardMb phase => createTurn moment i owner username softMb hardMb phase store
  | .link owner username accountId => match store.link owner username accountId with
    | none => (.compensate username, store)
    | some linked => (.reconcile username, linked)
  | .reconcile _ => leave i store
  | .compensate username => match store.account username with
    | none => leave i store
    | some row => (.manage .terminate username row.id .lock, store)
  | .apply username phase => applyTurn moment i username phase store
  | .manage action username id phase => manageTurn moment i action username id phase store
  | .enforce phase candidates => enforceTurn i phase candidates store
  | .wait call => match store.locks .state with
    | none => stateTurn i call (store.acquire i .state)
    | some _ => (.wait call, store)

def advance (i : Nat) (moment : Moment) (task : Task) (store : Store) : Task × Store :=
  if moment.stops then leave i store
  else if moment.raises then raised i task store
  else taskTurn i moment task store

abbrev Panel := Tasks.Server Nat Task Store

end Boron.Accounts

namespace Boron.Accounts

/-- A shorter list of quotas, or one with a smaller sum. -/
structure Below (first second : List Nat) : Prop where
  count : first.length ≤ second.length
  sum : total first ≤ total second

/-- An account that counts for less, or does not count. -/
def Lighter (first second : Option Nat) : Prop := ∀ quota, first = some quota → ∃ quota', second = some quota' ∧ quota ≤ quota'

/-- A creation for a reseller that has been checked and not been linked yet: the quota it was
checked for, or the account it is about to link. -/
inductive Pledge
  | quota (hardMb : Nat)
  | account (id : Nat)

def Task.pledge : Task → Option (Nat × Pledge)
  | .create (some _) _ _ _ .rollback => none
  | .create (some owner) _ _ _ (.provision accountId) => some (owner, .account accountId)
  | .create (some owner) _ _ hardMb _ => some (owner, .quota hardMb)
  | .link owner _ accountId => some (owner, .account accountId)
  | _ => none

def Pledge.charges (pledge : Pledge) (weigh : Account → Option Nat) (store : Store) : List Nat :=
  match pledge with
  | .quota hardMb => [hardMb]
  | .account id => store.charges weigh fun other => other = id

def Room (weigh : Account → Option Nat) (store : Store) (profileId : Nat) (pledged : List Nat) : Prop :=
  ∀ profile plan, store.profile profileId = some profile → store.resellerPlan profile.planId = some plan →
    plan.fits (store.charges weigh (store.owns profileId) ++ pledged) = true

/-- The account and the quota that `apply_plan` or `reactivate_account` commits. -/
def Task.grant (moment : Moment) (task : Task) (store : Store) : Option (String × Nat) :=
  match task with
  | .apply username (.commit planId) => (store.applyPlan username planId moment.now).map fun applied =>
    (username, applied.1.quotaHardMb)
  | .manage (.reactivate softMb hardMb) username _ .commit => (store.reactivate username softMb hardMb).map fun _ =>
    (username, hardMb)
  | _ => none

def granted (moment : Moment) (task : Task) (store : Store) : Option (String × Nat) :=
  if moment.stops || moment.raises then none else task.grant moment store

def chargeAt (username : String) (hardMb : Nat) (row : Account) : Option Nat :=
  if row.username = username then some hardMb else row.charge

def weighing : Option (String × Nat) → Account → Option Nat
  | none => Account.charge
  | some (username, hardMb) => chargeAt username hardMb

/-- A plan application and a reactivation leave the reseller of the account within its plan,
and also the one for which the account is being created. -/
def Fitting (panel : Panel) (who : Nat × Moment) : Prop :=
  ∀ username hardMb, granted who.2 (panel.task who.1) panel.store = some (username, hardMb) →
    (∀ profileId, Room (chargeAt username hardMb) panel.store profileId []) ∧
    ∀ j owner pledge, (panel.task j).pledge = some (owner, pledge) →
      Room (chargeAt username hardMb) panel.store owner (pledge.charges (chargeAt username hardMb) panel.store)

structure Sound (store : Store) : Prop where
  unique : Rows.Unique Account.id store.accounts
  names : Rows.Unique Account.username store.accounts
  profiles : Rows.Unique ResellerProfile.id store.profiles
  known : ∀ link ∈ store.resellerAccounts, ∃ row ∈ store.accounts, row.id = link.accountId
  room : ∀ profileId, Room Account.charge store profileId []

/-- The termination has found its account not terminated, and has not written its end yet. -/
def ManagePhase.ends : ManagePhase → Bool
  | .hooks | .removeQuota | .userdel | .finish _ => true
  | _ => false

def Manages (i : Nat) (task : Task) (store : Store) : Prop :=
  match task with
  | .manage _ username id phase =>
    (∃ row, store.account username = some row ∧ row.id = id ∧ (phase.ends = true → row.status ≠ .terminated)) ∧
      (phase ≠ .lock → store.locks (.account id) = some i)
  | _ => True

/-- A creation for a reseller has the lock of the reseller module and what it has checked. -/
structure Relies (i : Nat) (task : Task) (store : Store) : Prop where
  pledged : ∀ owner pledge, task.pledge = some (owner, pledge) → store.locks .state = some i ∧
    (∀ id, pledge = .account id → ∃ row ∈ store.accounts, row.id = id) ∧
    Room Account.charge store owner (pledge.charges Account.charge store)
  manages : Manages i task store

/-- What a turn of task `i` leaves of what the other tasks rely on; `weigh` is what it
makes of the quotas. -/
structure Leaves (i : Nat) (weigh : Account → Option Nat) (store left : Store) : Prop where
  locks : ∀ name j, j ≠ i → store.locks name = some j → left.locks name = some j
  tables : (∀ j, j ≠ i → store.locks .state ≠ some j) ∨ (left.profiles = store.profiles ∧
    left.resellerPlans = store.resellerPlans ∧ left.resellerAccounts = store.resellerAccounts)
  rows : ∀ row ∈ store.accounts, ∃ later ∈ left.accounts, later.id = row.id
  alive : ∀ username row, store.account username = some row → ∃ later, left.account username = some later ∧
    later.id = row.id ∧ (later.status = .terminated → row.status = .terminated ∨ store.locks (.account row.id) = some i)
  charges : ∀ member : Nat → Bool, (∀ id, member id = true → ∃ row ∈ store.accounts, row.id = id) →
    Below (left.charges Account.charge member) (store.charges weigh member)

section
variable {i j : Nat} {weigh : Account → Option Nat} {task task' : Task} {store left : Store} {profileId : Nat}
  {pledged : List Nat}

theorem Below.refl (quotas : List Nat) : Below quotas quotas := ⟨Nat.le_refl _, Nat.le_refl _⟩

theorem Below.trans {first second third : List Nat} (below : Below first second) (further : Below second third) :
    Below first third := ⟨Nat.le_trans below.count further.count, Nat.le_trans below.sum further.sum⟩

theorem total_append (first second : List Nat) : total (first ++ second) = total first + total second := by
  induction first with
  | nil => simp [total]
  | cons quota rest ih =>
    rw [List.cons_append, total, total, ih]
    omega

theorem Below.append {first second third fourth : List Nat} (below : Below first second) (below' : Below third fourth) :
    Below (first ++ third) (second ++ fourth) := by
  have count := below.count
  have count' := below'.count
  have sum := below.sum
  have sum' := below'.sum
  constructor
  · rw [List.length_append, List.length_append]
    omega
  · rw [total_append, total_append]
    omega

theorem Below.fits {first second : List Nat} (below : Below first second) {plan : ResellerPlan} (fits : plan.fits second = true) :
    plan.fits first = true := by
  have count := below.count
  have sum := below.sum
  unfold ResellerPlan.fits at fits ⊢
  simp only [Bool.and_eq_true, decide_eq_true_eq] at fits ⊢
  omega

theorem Lighter.refl (quota : Option Nat) : Lighter quota quota := fun quota same => ⟨quota, same, Nat.le_refl _⟩

theorem filterMap_below {weigh' : Account → Option Nat} (rows : List Account)
    (lighter : ∀ row ∈ rows, Lighter (weigh row) (weigh' row)) : Below (rows.filterMap weigh) (rows.filterMap weigh') := by
  induction rows with
  | nil => exact Below.refl _
  | cons row rest ih =>
    have later := ih fun other member => lighter other (List.mem_cons_of_mem row member)
    have count := later.count
    have sum := later.sum
    rw [List.filterMap_cons, List.filterMap_cons]
    cases first : weigh row with
    | none =>
      cases second : weigh' row with
      | none => exact later
      | some quota' =>
        refine ⟨Nat.le_succ_of_le count, ?_⟩
        dsimp only
        rw [total]
        omega
    | some quota =>
      obtain ⟨quota', second, less⟩ := lighter row List.mem_cons_self quota first
      rw [second]
      refine ⟨Nat.succ_le_succ count, ?_⟩
      rw [total, total]
      omega

theorem charges_part {member member' : Nat → Bool} (part : ∀ row ∈ store.accounts, member row.id = true → member' row.id = true) :
    Below (store.charges weigh member) (store.charges weigh member') := by
  unfold Store.charges
  generalize store.accounts = rows at part
  induction rows with
  | nil => exact Below.refl _
  | cons row rest ih =>
    have later := ih fun other inside => part other (List.mem_cons_of_mem row inside)
    have count := later.count
    have sum := later.sum
    rw [List.filter_cons, List.filter_cons]
    by_cases first : member row.id = true
    · rw [if_pos first, if_pos (part row List.mem_cons_self first), List.filterMap_cons, List.filterMap_cons]
      cases weigh row with
      | none => exact later
      | some quota =>
        refine ⟨Nat.succ_le_succ count, ?_⟩
        rw [total, total]
        omega
    · rw [if_neg first]
      by_cases second : member' row.id = true
      · rw [if_pos second, List.filterMap_cons]
        cases weigh row with
        | none => exact later
        | some quota =>
          refine ⟨Nat.le_succ_of_le count, ?_⟩
          rw [total]
          omega
      · rw [if_neg second]
        exact later

theorem charges_or (member member' : Nat → Bool) :
    Below (store.charges weigh fun id => member id || member' id) (store.charges weigh member ++ store.charges weigh member') := by
  unfold Store.charges
  dsimp only
  induction store.accounts with
  | nil => exact Below.refl _
  | cons row rest ih =>
    have count := ih.count
    have sum := ih.sum
    rw [List.length_append] at count
    rw [total_append] at sum
    constructor
    · rw [List.length_append]
      cases first : member row.id <;> cases second : member' row.id <;> cases charge : weigh row <;>
        simp only [List.filter_cons, List.filterMap_cons, first, second, charge, Bool.or_true, Bool.or_false, Bool.false_eq_true,
          if_true, if_false, List.length_cons] <;> omega
    · rw [total_append]
      cases first : member row.id <;> cases second : member' row.id <;> cases charge : weigh row <;>
        simp only [List.filter_cons, List.filterMap_cons, first, second, charge, Bool.or_true, Bool.or_false, Bool.false_eq_true,
          if_true, if_false, total] <;> omega

theorem charges_map {g : Account → Account} (same : ∀ row, (g row).id = row.id) (accounts : left.accounts = store.accounts.map g)
    (member : Nat → Bool) : left.charges weigh member = store.charges (fun row => weigh (g row)) member := by
  unfold Store.charges
  rw [accounts]
  induction store.accounts with
  | nil => rfl
  | cons row rest ih =>
    rw [List.map_cons, List.filter_cons, List.filter_cons, same]
    split
    · rw [List.filterMap_cons, List.filterMap_cons, ih]
    · exact ih

theorem charges_below {weigh' : Account → Option Nat} (lighter : ∀ row ∈ store.accounts, Lighter (weigh row) (weigh' row))
    (member : Nat → Bool) : Below (store.charges weigh member) (store.charges weigh' member) :=
  filterMap_below _ fun row inside => lighter row (List.mem_filter.mp inside).1

end

end Boron.Accounts
