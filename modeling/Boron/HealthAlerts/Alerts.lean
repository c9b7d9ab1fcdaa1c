import Boron.Notices.Dispatched

namespace Boron.HealthAlerts
open List
open Notices (Channel Frequency Dispatch)

/-- A policy with its options, as `queue_policy` and this check read them. -/
structure Policy where
  id : Nat
  enabled : Bool
  destinationId : Nat
  lastQueuedAt : Option Nat
  accounts : List String
  excludedAccounts : List String
  destinationIds : List Nat
  freshnessHours : Nat
  channels : List Channel
  events : Option (List String)
  recipients : List String
  frequency : Frequency
  distinct : destinationIds.Nodup
  deriving DecidableEq

structure Account where
  id : Nat
  username : String
  active : Bool
  deriving DecidableEq

structure Destination where
  id : Nat
  enabled : Bool
  ready : Bool
  error : Option String

structure Run where
  id : Nat
  policyId : Nat
  accountId : Nat
  completed : Bool
  startedAt : Nat
  completedAt : Option Nat
  deriving DecidableEq

structure State where
  policies : List Policy
  accounts : List Account
  destinations : List Destination
  runs : List Run
  policyIds : Rows.Unique Policy.id policies
  accountIds : Rows.Unique Account.id accounts
  runIds : Rows.Unique Run.id runs
  positive : ∀ policy ∈ policies, 0 < policy.id

inductive Kind
  | overdue
  | unavailable (destinationId : Nat)
  deriving DecidableEq

/-- One entry of `pending`; `latest` is the newest completed run. -/
structure Alert where
  kind : Kind
  policy : Policy
  account : Account
  latest : Option Run
  deriving DecidableEq

def Run.stamp (run : Run) : Nat := run.completedAt.getD run.startedAt

/-- `if not options.get('accounts')` … -/
def Policy.selects (policy : Policy) (account : Account) : Bool :=
  (policy.accounts.isEmpty || policy.accounts.contains account.username) &&
    !policy.excludedAccounts.contains account.username

/-- `options.get('destination_ids') or [policy.destination_id]` -/
def Policy.destinations (policy : Policy) : List Nat :=
  if policy.destinationIds = [] then [policy.destinationId] else policy.destinationIds

def latest (state : State) (policy : Policy) (account : Account) : Option Run :=
  ((state.runs.filter fun run => run.completed && decide (run.policyId = policy.id) && decide (run.accountId = account.id)).mergeSort
    fun one other => decide (other.stamp ≤ one.stamp)).head?

def isOverdue (state : State) (now : Nat) (policy : Policy) (account : Account) : Bool :=
  let stamp := match latest state policy account with
    | some run => some run.stamp
    | none => policy.lastQueuedAt
  stamp.any fun stamp => decide (stamp + policy.freshnessHours * 3600 < now)

def isUnavailable (state : State) (destinationId : Nat) : Bool :=
  match Rows.byKey Destination.id state.destinations destinationId with
  | none => true
  | some row => !row.enabled || !row.ready || row.error.any (· ≠ "")

def pairAlerts (state : State) (now : Nat) (policy : Policy) (account : Account) : List Alert :=
  let alert (kind : Kind) : Alert := { kind, policy, account, latest := latest state policy account }
  (if isOverdue state now policy account then [alert .overdue] else []) ++
    (policy.destinations.filter (isUnavailable state)).map fun destinationId => alert (.unavailable destinationId)

/-- `pending` -/
def alerts (state : State) (now : Nat) : List Alert :=
  (state.policies.filter Policy.enabled).flatMap fun policy =>
    (state.accounts.filter fun account => account.active && policy.selects account).flatMap fun account =>
      pairAlerts state now policy account

def Kind.event : Kind → String
  | .overdue => "backup.overdue"
  | .unavailable _ => "backup.destination_unavailable"

/-- `-(policy.id*1000000+account.id)` -/
def synthetic (policyId accountId : Nat) : Int := -((policyId * 1000000 + accountId : Nat) : Int)

def Alert.jobId (alert : Alert) : Int :=
  match alert.latest with
  | some run => run.id
  | none => synthetic alert.policy.id alert.account.id

def Alert.detail (alert : Alert) : String :=
  match alert.kind with
  | .overdue => "No usable recovery point within " ++ toString alert.policy.freshnessHours ++ " hours"
  | .unavailable destinationId => "Destination #" ++ toString destinationId ++ " is unavailable"

/-- The call of `dispatch` for an alert. -/
def Alert.call (alert : Alert) : Dispatch where
  event := alert.kind.event
  account := some alert.account.username
  channels := alert.policy.channels
  selected := alert.policy.events
  frequency := alert.policy.frequency
  policyId := some alert.policy.id
  jobId := some alert.jobId
  recipients := alert.policy.recipients
  detail := alert.detail

/-- What is unhealthy at a time, as opposed to what is sent about it. -/
inductive Unhealthy (state : State) (now : Nat) : Alert → Prop
  | overdue (policy : Policy) (account : Account) (known : policy ∈ state.policies) (enabled : policy.enabled = true)
    (hosted : account ∈ state.accounts) (active : account.active = true) (selected : policy.selects account = true)
    (late : isOverdue state now policy account = true) :
    Unhealthy state now { kind := .overdue, policy, account, latest := latest state policy account }
  | unavailable (policy : Policy) (account : Account) (destinationId : Nat) (known : policy ∈ state.policies)
    (enabled : policy.enabled = true) (hosted : account ∈ state.accounts) (active : account.active = true)
    (selected : policy.selects account = true) (used : destinationId ∈ policy.destinations)
    (down : isUnavailable state destinationId = true) :
    Unhealthy state now { kind := .unavailable destinationId, policy, account, latest := latest state policy account }

variable {state : State} {now : Nat} {alert : Alert}

theorem mem_pairAlerts {policy : Policy} {account : Account} : alert ∈ pairAlerts state now policy account ↔
    alert.policy = policy ∧ alert.account = account ∧ alert.latest = latest state policy account ∧ match alert.kind with
      | .overdue => isOverdue state now policy account = true
      | .unavailable destinationId => destinationId ∈ policy.destinations ∧ isUnavailable state destinationId = true := by
  obtain ⟨kind, own, theirs, newest⟩ := alert
  unfold pairAlerts
  dsimp only
  rw [mem_append, mem_map]
  constructor
  · rintro (late | ⟨destinationId, listed, same⟩)
    · split at late
      · next overdue =>
        cases mem_singleton.mp late
        exact ⟨rfl, rfl, rfl, overdue⟩
      · cases late
    · cases same
      exact ⟨rfl, rfl, rfl, mem_filter.mp listed⟩
  · rintro ⟨rfl, rfl, rfl, due⟩
    cases kind with
    | overdue =>
      left
      rw [if_pos due]
      exact mem_cons_self
    | unavailable destinationId => exact .inr ⟨destinationId, mem_filter.mpr due, rfl⟩

theorem mem_alerts : alert ∈ alerts state now ↔ Unhealthy state now alert := by
  unfold alerts
  rw [mem_flatMap]
  constructor
  · rintro ⟨policy, policies, inside⟩
    obtain ⟨account, accounts, listed⟩ := mem_flatMap.mp inside
    obtain ⟨known, enabled⟩ := mem_filter.mp policies
    obtain ⟨hosted, chosen⟩ := mem_filter.mp accounts
    obtain ⟨active, selected⟩ := Bool.and_eq_true_iff.mp chosen
    obtain ⟨own, theirs, newest, due⟩ := mem_pairAlerts.mp listed
    obtain ⟨kind, known_policy, known_account, known_run⟩ := alert
    dsimp only at own theirs newest due
    subst own theirs newest
    cases kind with
    | overdue => exact .overdue _ _ known enabled hosted active selected due
    | unavailable destinationId =>
      exact .unavailable _ _ destinationId known enabled hosted active selected due.1 due.2
  · intro unhealthy
    cases unhealthy with
    | overdue policy account known enabled hosted active selected late =>
      exact ⟨policy, mem_filter.mpr ⟨known, enabled⟩, mem_flatMap.mpr ⟨account,
        mem_filter.mpr ⟨hosted, Bool.and_eq_true_iff.mpr ⟨active, selected⟩⟩, mem_pairAlerts.mpr ⟨rfl, rfl, rfl, late⟩⟩⟩
    | unavailable policy account destinationId known enabled hosted active selected used down =>
      exact ⟨policy, mem_filter.mpr ⟨known, enabled⟩, mem_flatMap.mpr ⟨account,
        mem_filter.mpr ⟨hosted, Bool.and_eq_true_iff.mpr ⟨active, selected⟩⟩,
        mem_pairAlerts.mpr ⟨rfl, rfl, rfl, used, down⟩⟩⟩

theorem nodup_destinations (policy : Policy) : policy.destinations.Nodup := by
  unfold Policy.destinations
  split
  · exact nodup_singleton _
  · exact policy.distinct

theorem nodup_pairAlerts {policy : Policy} {account : Account} : (pairAlerts state now policy account).Nodup := by
  refine nodup_append.mpr ⟨?_, ?_, fun one first other second => ?_⟩
  · split
    · exact nodup_singleton _
    · exact nodup_nil
  · refine Nodup.map (fun one other same => ?_) ((nodup_destinations policy).filter _)
    exact Kind.unavailable.inj (congrArg Alert.kind same)
  · split at first
    · obtain ⟨destinationId, _, rfl⟩ := mem_map.mp second
      rw [mem_singleton.mp first]
      intro same
      cases congrArg Alert.kind same
    · cases first

theorem nodup_alerts : (alerts state now).Nodup := by
  refine nodup_flatMap.mpr ⟨fun policy _ => nodup_flatMap.mpr ⟨fun account _ => nodup_pairAlerts, ?_⟩, ?_⟩
  · refine List.Pairwise.imp (fun {one other} different alert first second => ?_)
      (Nodup.of_map Account.id state.accountIds |>.filter _)
    exact different ((mem_pairAlerts.mp first).2.1.symm.trans (mem_pairAlerts.mp second).2.1)
  · refine List.Pairwise.imp (fun {one other} different alert first second => ?_)
      (Nodup.of_map Policy.id state.policyIds |>.filter _)
    obtain ⟨account, _, firstly⟩ := mem_flatMap.mp first
    obtain ⟨again, _, secondly⟩ := mem_flatMap.mp second
    exact different ((mem_pairAlerts.mp firstly).1.symm.trans (mem_pairAlerts.mp secondly).1)

end Boron.HealthAlerts
