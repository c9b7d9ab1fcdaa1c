import Boron.Lib.Rows
import Mathlib.Algebra.Order.Ring.Rat

namespace Boron.UsageAlerts

inductive Resource
  | disk | bandwidth | databases | emailAccounts | subdomains
  deriving DecidableEq

inductive Status
  | active | suspended | terminated
  deriving DecidableEq

structure Account where
  id : Nat
  username : String
  status : Status
  quotaHardMb : Option Nat

/-- `AccountResourceLimits`; an account without a row has no limits. -/
structure Limits where
  bandwidthLimitMb : Option Nat := none
  databaseLimit : Option Nat := none
  emailAccountLimit : Option Nat := none
  subdomainLimit : Option Nat := none
  autoSuspendAt100 : Bool := false

/-- What `usage.get_usage` and the row counts give. -/
structure Usage where
  diskTotalBytes : Option Nat
  bandwidthMonthToDateBytes : Nat
  databaseCount : Nat
  emailAccountCount : Nat
  subdomainCount : Nat

/-- A row of `usage_alerts`; the rows stand in the order in which they were triggered. -/
structure UsageAlert where
  id : Nat
  accountId : Nat
  resource : Resource
  thresholdPct : Nat
  resolved : Bool

structure Reading where
  resource : Resource
  current : Nat
  limit : Option Nat

/-- What one call of `check_usage_alerts` sees. -/
structure Check where
  account : Account
  limits : Option Limits
  usage : Usage

def bytes (megabytes : Option Nat) : Option Nat := (megabytes.filter (· ≠ 0)).map (· * 1024 * 1024)

def resourceUsage (account : Account) (limits : Limits) (usage : Usage) : List Reading :=
  [{ resource := .disk, current := usage.diskTotalBytes.getD 0, limit := bytes account.quotaHardMb },
    { resource := .bandwidth, current := usage.bandwidthMonthToDateBytes, limit := bytes limits.bandwidthLimitMb },
    { resource := .databases, current := usage.databaseCount, limit := limits.databaseLimit },
    { resource := .emailAccounts, current := usage.emailAccountCount, limit := limits.emailAccountLimit },
    { resource := .subdomains, current := usage.subdomainCount, limit := limits.subdomainLimit }]

def Check.row (check : Check) : Limits := check.limits.getD {}

def Check.readings (check : Check) : List Reading := resourceUsage check.account check.row check.usage

def thresholds : List Nat := [100, 90, 80]

def highestCrossed (pct : Rat) : Option Nat := thresholds.find? fun threshold => decide ((threshold : Rat) ≤ pct)

/-- `if not limit: continue` -/
def Reading.tracked (reading : Reading) : Option Nat := reading.limit.filter (· ≠ 0)

def UsageAlert.Active (accountId : Nat) (resource : Resource) (alert : UsageAlert) : Prop :=
  alert.accountId = accountId ∧ alert.resource = resource ∧ alert.resolved = false

instance (accountId : Nat) (resource : Resource) (alert : UsageAlert) : Decidable (alert.Active accountId resource) :=
  inferInstanceAs (Decidable (_ ∧ _))

def activeAlerts (accountId : Nat) (resource : Resource) (alerts : List UsageAlert) : List UsageAlert :=
  alerts.filter fun alert => decide (alert.Active accountId resource)

def resolve (existing : Option UsageAlert) (alerts : List UsageAlert) : List UsageAlert :=
  match existing with
  | none => alerts
  | some existing => Rows.change UsageAlert.id existing.id (fun alert => { alert with resolved := true }) alerts

/-- The session of one resource: the rows it leaves and the alert it creates. -/
def checkResource (accountId : Nat) (resource : Resource) (crossed : Option Nat) (alerts : List UsageAlert) :
    List UsageAlert × Option UsageAlert :=
  let existing := (activeAlerts accountId resource alerts).getLast?
  match crossed with
  | none => (resolve existing alerts, none)
  | some crossed =>
    if existing.any fun existing => decide (crossed ≤ existing.thresholdPct) then (alerts, none)
    else
      let alert := { id := Rows.next UsageAlert.id alerts, accountId, resource, thresholdPct := crossed, resolved := false }
      (resolve existing alerts ++ [alert], some alert)

/-- What a check leaves: the rows, the new alerts, the events and whether a suspension is due. -/
structure Outcome where
  alerts : List UsageAlert
  newAlerts : List UsageAlert := []
  emitted : List (Resource × Nat) := []
  suspends : Bool := false

section
variable (percent : Nat → Nat → Rat)

/-- The highest threshold that a tracked resource has crossed; `percent` is the floating-point
`(current / limit) * 100`. -/
def Reading.crossed (reading : Reading) : Option Nat :=
  reading.tracked.bind fun limit => highestCrossed (percent reading.current limit)

/-- One turn of the loop over `resource_usage`. -/
def visit (check : Check) (before : Outcome) (reading : Reading) : Outcome :=
  match reading.tracked with
  | none => before
  | some limit =>
    let crossed := highestCrossed (percent reading.current limit)
    let suspends := decide (crossed = some 100) && check.row.autoSuspendAt100 && decide (check.account.status = .active)
    let (alerts, created) := checkResource check.account.id reading.resource crossed before.alerts
    { alerts
      newAlerts := before.newAlerts ++ created.toList
      emitted := before.emitted ++ created.toList.map fun alert => (reading.resource, alert.thresholdPct)
      suspends := before.suspends || suspends }

/-- `check_usage_alerts`; `suspends` says that `suspend_account` is called at its end. -/
def checkUsageAlerts (check : Check) (alerts : List UsageAlert) : Outcome :=
  check.readings.foldl (visit percent check) { alerts }

/-- The rows after the checks so far, from an empty table. -/
def alertsAfter (history : List Check) : List UsageAlert :=
  history.foldl (fun alerts check => (checkUsageAlerts percent check alerts).alerts) []

end

end Boron.UsageAlerts
