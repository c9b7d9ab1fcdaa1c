import Boron.Lib.Tasks
import Boron.WebSettings.Rendering

namespace Boron.WebSettings
open Checks

structure LimitsParams where
  paranoiaLevel : Option Int
  anomalyThreshold : Option Int
  wpLoginLimit : Option Int
  wpXmlrpcLimit : Option Int
  wpRateWindowSeconds : Option Int

structure ExceptionParams where
  domain : String
  ruleId : Option Int
  category : Option String
  uriPrefix : Option String
  parameter : Option String
  durationHours : Option Int
  reason : Option String

inductive ReviewAction | continueDetect | enableProtection | disable
  deriving DecidableEq

/-- The calls, with their inputs parsed. `preserve` is the `preserve_trial` of the settings. -/
inductive Operation
  | setRedirect (domain path targetUrl : String) (statusCode : Nat)
  | deleteRedirect (domain path : String)
  | setSettings (domain : String) (enabled : Bool) (ttlSeconds : Nat) (excludePaths : List String)
  | enableProtection (username path : String)
  | disableProtection (username path : String)
  | setEnabled (enabled : Bool)
  | updateSettings (mode : Mode) (params : LimitsParams) (preserve : Bool)
  | startDetectTrial
  | finishDetectTrial (action : ReviewAction) (confirm : Bool)
  | setDomainPolicy (domain : String) (mode : DomainMode)
  | addCustomRule (domain target pattern : String)
  | deleteCustomRule (id : Nat)
  | addException (params : ExceptionParams)
  | deleteException (id : Nat)

def Operation.setDomainOverride (domain : String) (disabled : Bool) : Operation :=
  .setDomainPolicy domain (if disabled then .disabled else .inherit)

/-- What the operations refresh: the vhosts of an account with the main file, or this alone. -/
inductive Target | vhosts (account : Account) | main

/-- What a WAF operation writes back when its refresh failed. -/
inductive Restore
  | settings (previous : Option WafSettings)
  | policy (domain : String) (previous : Option WafDomainOverride)
  | removeRule (id : Nat)
  | returnRule (id : Nat) (deleted : WafCustomRule)
  | removeException (id : Nat)
  | returnException (id : Nat) (deleted : WafException)

def Restore.run (tables : Tables) : Restore → Tables
  | .settings previous => Function.update tables Key.waf previous
  | .policy domain previous => Function.update tables (Key.policy domain) previous
  | .removeRule id => Function.update tables (Key.rule id) none
  | .returnRule id deleted =>
    if (tables (.rule id)).isNone then Function.update tables (Key.rule id) (some deleted) else tables
  | .removeException id => Function.update tables (Key.exception id) none
  | .returnException id deleted =>
    if (tables (.exception id)).isNone then Function.update tables (Key.exception id) (some deleted) else tables

/-- The columns of the detection review, written after the refresh. -/
inductive Trial | started | reviewed

def Trial.columns (now : Nat) (row : WafSettings) : Trial → WafSettings
  | .started =>
    { row with detectStartedAt := some now, detectReviewDueAt := some (now + 7 * 86400), detectReviewedAt := none }
  | .reviewed => { row with detectReviewedAt := some now }

structure Pending where
  target : Target
  restore : Option Restore
  trial : Option Trial

inductive Task
  | called (operation : Operation)
  | protecting (username : String) (accountId : Nat) (path : String)
  | reading (mode : Mode) (trial : Option Trial)
  | updating (mode : Mode) (params : LimitsParams) (trial : Option Trial)
  | refreshing (pending : Pending)
  | listed (pending : Pending) (account : Account) (plain : List (Domain × Option CacheOverride))
  | rendered (pending : Pending) (content : Config)
  | failed (restore : Restore)
  | restored
  | rerendered (waf : Option WafContext)
  | reviewing (trial : Trial)
  | done
  | rejected
  | refused (message : String)

structure Write where
  key : Key
  row : Option (Row key)

/-- What a session before the refresh comes to. -/
inductive Left
  | commit (write : Write) (pending : Pending)
  | next (task : Task)

/-- What is found outside the database in a turn: the time, whether the web server takes
the configuration, whether the module is installed, the id a new row gets, whether the
password file could be made. -/
structure Mark where
  now : Nat
  accepted : Bool
  available : Bool
  id : Nat
  prepared : Except String Unit

def refreshVhost (account : Account) : Pending := { target := .vhosts account, restore := none, trial := none }

def refreshWithRollback (restore : Restore) (trial : Option Trial) : Pending :=
  { target := .main, restore := some restore, trial }

def setRedirect (site : Site) (domain path targetUrl : String) (statusCode : Nat) : Except String Left := do
  let account ← site.domainAccount domain
  return .commit ⟨.redirect domain path, some { targetUrl, statusCode }⟩ (refreshVhost account)

def deleteRedirect (site : Site) (domain path : String) (tables : Tables) : Except String Left := do
  let account ← site.domainAccount domain
  let _ ← orRaise (tables (.redirect domain path)) ("no redirect for path '" ++ path ++ "' on '" ++ domain ++ "'")
  return .commit ⟨.redirect domain path, none⟩ (refreshVhost account)

def setSettings (site : Site) (domain : String) (enabled : Bool) (ttlSeconds : Nat) (excludePaths : List String) :
    Except String Left := do
  let account ← site.domainAccount domain
  return .commit ⟨.lscache domain, some { enabled, ttlSeconds, excludePaths }⟩ (refreshVhost account)

def notProtected (tables : Tables) (accountId : Nat) (path : String) : Except String Unit :=
  raiseIf (tables (.fileAuth accountId path)).isSome ("'" ++ path ++ "' is already protected")

/-- `enable_protection`, its first session -/
def enableProtection (site : Site) (username path : String) (tables : Tables) : Except String Left := do
  let account ← site.accountNamed username
  let (resolved, relative) ← site.resolveProtectedDir username path
  let _ ← site.domainForPath resolved (site.domainsOf account.id)
  notProtected tables account.id relative
  return .next (.protecting username account.id relative)

/-- `enable_protection`, after the password file was made -/
def recordProtection (site : Site) (mark : Mark) (username : String) (accountId : Nat) (path : String)
    (tables : Tables) : Except String Left := do
  mark.prepared
  let account ← orRaise (Rows.byKey Account.id site.accounts accountId) ("account '" ++ username ++ "' not found")
  notProtected tables account.id path
  return .commit ⟨.fileAuth account.id path, some { realmName := site.realmName username path }⟩ (refreshVhost account)

def disableProtection (site : Site) (username path : String) (tables : Tables) : Except String Left := do
  let account ← site.accountNamed username
  let relative ← site.validateProtectedDirRelativePath path
  let _ ← orRaise (tables (.fileAuth account.id relative)) ("'" ++ relative ++ "' is not currently protected")
  return .commit ⟨.fileAuth account.id relative, none⟩ (refreshVhost account)

def boundedInt (value : Int) (name : String) (minimum maximum : Nat) : Except String Nat :=
  if minimum ≤ value ∧ value ≤ maximum then .ok value.toNat
  else .error (name ++ " must be between " ++ toString minimum ++ " and " ++ toString maximum)

def LimitsParams.check (params : LimitsParams) : Except String Limits := do
  let paranoiaLevel ← boundedInt (params.paranoiaLevel.getD 1) "paranoia_level" 1 4
  let anomalyThreshold ← boundedInt (params.anomalyThreshold.getD 5) "anomaly_threshold" 1 100
  let wpLoginLimit ← boundedInt (params.wpLoginLimit.getD 10) "wp_login_limit" 0 10000
  let wpXmlrpcLimit ← boundedInt (params.wpXmlrpcLimit.getD 5) "wp_xmlrpc_limit" 0 10000
  let wpRateWindowSeconds ← boundedInt (params.wpRateWindowSeconds.getD 60) "wp_rate_window_seconds" 10 3600
  return { paranoiaLevel, anomalyThreshold, wpLoginLimit, wpXmlrpcLimit, wpRateWindowSeconds }

/-- The limits that `get_status` tells, as they are passed on. -/
def Limits.params (limits : Limits) : LimitsParams :=
  { paranoiaLevel := some limits.paranoiaLevel, anomalyThreshold := some limits.anomalyThreshold
    wpLoginLimit := some limits.wpLoginLimit, wpXmlrpcLimit := some limits.wpXmlrpcLimit
    wpRateWindowSeconds := some limits.wpRateWindowSeconds }

/-- The settings row after `update_settings`. -/
def settingsRow (previous : Option WafSettings) (mode : Mode) (limits : Limits) (preserve : Bool) : WafSettings :=
  let forgotten := mode ≠ .detect ∧ preserve = false
  { enabled := mode ≠ .disabled, mode, limits
    detectStartedAt := if forgotten then none else previous.bind WafSettings.detectStartedAt
    detectReviewDueAt := if forgotten then none else previous.bind WafSettings.detectReviewDueAt
    detectReviewedAt := previous.bind WafSettings.detectReviewedAt }

def updateSettings (mark : Mark) (mode : Mode) (params : LimitsParams) (preserve : Bool) (trial : Option Trial)
    (tables : Tables) : Except String Left := do
  raiseIf (mode ≠ .disabled ∧ mark.available = false) "ModSecurity module is not installed on this server"
  let limits ← params.check
  let previous := tables .waf
  return .commit ⟨.waf, some (settingsRow previous mode limits preserve)⟩ (refreshWithRollback (.settings previous) trial)

def ReviewAction.mode : ReviewAction → Mode
  | .continueDetect => .detect
  | .enableProtection => .protect
  | .disable => .disabled

/-- The row of a detection review that has begun and has not been closed. -/
def activeTrial (row : Option WafSettings) : Option WafSettings :=
  row.filter fun row => row.detectStartedAt.isSome ∧ row.detectReviewedAt.isNone

def finishDetectTrial (now : Nat) (action : ReviewAction) (confirm : Bool) (tables : Tables) : Except String Left := do
  raiseIf (confirm = false) "WAF detection review requires confirm=true"
  let row ← orRaise (activeTrial (tables .waf)) "no active WAF detection review exists"
  raiseIf (action = .enableProtection ∧ ∃ due ∈ row.detectReviewDueAt, now < due)
    "protection can be enabled after the detection review ends"
  return .next (.reading action.mode (some .reviewed))

def setDomainPolicy (site : Site) (domain : String) (mode : DomainMode) (tables : Tables) : Except String Left := do
  let domain ← site.requireKnownDomain domain
  let row : Option WafDomainOverride := if mode = .inherit then none else some { disabled := mode = .disabled, mode }
  return .commit ⟨.policy domain, row⟩ (refreshWithRollback (.policy domain (tables (.policy domain))) none)

def allowedTargets : List String :=
  ["ARGS", "ARGS_NAMES", "REQUEST_URI", "QUERY_STRING", "REQUEST_BODY", "REQUEST_COOKIES",
    "REQUEST_HEADERS:User-Agent", "REQUEST_HEADERS:Referer"]

def freshId {key : Key} (id : Nat) (held : Option (Row key)) : Except String Nat := do
  raiseIf held.isSome "UNIQUE constraint failed"
  return id

def addCustomRule (site : Site) (mark : Mark) (domain target pattern : String) (tables : Tables) : Except String Left := do
  raiseIf (target ∉ allowedTargets) ("target must be one of ['ARGS', 'ARGS_NAMES', 'QUERY_STRING', 'REQUEST_BODY', " ++
    "'REQUEST_COOKIES', 'REQUEST_HEADERS:Referer', 'REQUEST_HEADERS:User-Agent', 'REQUEST_URI']")
  raiseIf (site.patternRe pattern = false)
    "pattern must be 1-300 characters and must not contain backtick, double-quote, or newline characters"
  let domain ← site.requireKnownDomain domain
  let id ← freshId mark.id (tables (.rule mark.id))
  return .commit ⟨.rule id, some { domain, target, pattern }⟩ (refreshWithRollback (.removeRule id) none)

def deleteCustomRule (id : Nat) (tables : Tables) : Except String Left := do
  let row ← orRaise (tables (.rule id)) ("custom rule " ++ toString id ++ " not found")
  return .commit ⟨.rule id, none⟩ (refreshWithRollback (.returnRule id row) none)

def ExceptionParams.check (site : Site) (params : ExceptionParams) : Except String (Option Nat × Nat) := do
  raiseIf (params.ruleId.isNone ∧ params.category.isNone) "select a rule ID or category for the exception"
  raiseIf (params.ruleId.isSome ∧ params.category.isSome) "select either a rule ID or category, not both"
  let ruleId ← match params.ruleId with
    | none => .ok none
    | some value => some <$> boundedInt value "rule_id" 1 999999999
  raiseIf (params.category.any fun value => !site.categoryRe value) "category contains unsupported characters"
  raiseIf (params.uriPrefix.any fun value => !site.uriRe value)
    "URI prefix must begin with / and contain URL path characters only"
  raiseIf (params.parameter.any fun value => !site.parameterRe value) "parameter contains unsupported characters"
  let hours ← boundedInt (params.durationHours.getD 24) "duration_hours" 1 2160
  return (ruleId, hours)

def addException (site : Site) (mark : Mark) (now : Nat) (params : ExceptionParams) (tables : Tables) :
    Except String Left := do
  let (ruleId, hours) ← params.check site
  let domain ← site.requireKnownDomain params.domain
  let id ← freshId mark.id (tables (.exception mark.id))
  let row : WafException :=
    { domain, ruleId, category := params.category, uriPrefix := params.uriPrefix, parameter := params.parameter
      reason := params.reason, expiresAt := now + hours * 3600 }
  return .commit ⟨.exception id, some row⟩ (refreshWithRollback (.removeException id) none)

def deleteException (id : Nat) (tables : Tables) : Except String Left := do
  let row ← orRaise (tables (.exception id)) ("WAF exception " ++ toString id ++ " not found")
  return .commit ⟨.exception id, none⟩ (refreshWithRollback (.returnException id row) none)

def session (site : Site) (mark : Mark) (now : Nat) (tables : Tables) : Operation → Except String Left
  | .setRedirect domain path targetUrl statusCode => setRedirect site domain path targetUrl statusCode
  | .deleteRedirect domain path => deleteRedirect site domain path tables
  | .setSettings domain enabled ttlSeconds excludePaths => setSettings site domain enabled ttlSeconds excludePaths
  | .enableProtection username path => enableProtection site username path tables
  | .disableProtection username path => disableProtection site username path tables
  | .setEnabled enabled => .ok (.next (.reading (if enabled then .detect else .disabled) none))
  | .updateSettings mode params preserve => updateSettings mark mode params preserve none tables
  | .startDetectTrial => .ok (.next (.reading .detect (some .started)))
  | .finishDetectTrial action confirm => finishDetectTrial now action confirm tables
  | .setDomainPolicy domain mode => setDomainPolicy site domain mode tables
  | .addCustomRule domain target pattern => addCustomRule site mark domain target pattern tables
  | .deleteCustomRule id => deleteCustomRule id tables
  | .addException params => addException site mark now params tables
  | .deleteException id => deleteException id tables

/-- The database and the web server; `changes` records who committed what, in order. -/
structure Store (ι : Type) where
  tables : Tables
  config : Config
  clock : Nat
  changes : List (Replay.Change ι Row)

variable {ι : Type}

def Store.commit (who : ι) (write : Write) (store : Store ι) : Store ι :=
  { store with
    tables := Function.update store.tables write.key write.row
    changes := store.changes ++ [{ author := who, key := write.key, row := write.row }] }

def Store.enter (who : ι) (store : Store ι) : Except String Left → Task × Store ι
  | .error message => (.refused message, store)
  | .ok (.next task) => (task, store)
  | .ok (.commit write pending) => (.refreshing pending, store.commit who write)

/-- `_apply_main_only` and `_apply_targets`, up to the first session. -/
def Store.render (site : Site) (store : Store ι) (pending : Pending) : Task :=
  match pending.target with
  | .main => .rendered pending { waf := wafTemplateContext site store.clock store.tables, vhosts := fun _ => none }
  | .vhosts account =>
    if site.domainsOf account.id = [] then .done
    else .listed pending account
      ((site.domainsOf account.id).map fun domain => (domain, lscacheForDomain store.tables domain.domain))

/-- `_apply_targets`, its second session -/
def Store.content (site : Site) (store : Store ι) (account : Account) (plain : List (Domain × Option CacheOverride)) :
    Config :=
  { waf := wafTemplateContext site store.clock store.tables
    vhosts := fun name => (Rows.byKey (fun entry => entry.1.domain) plain name).map fun entry =>
      renderVhostConf site store.tables account entry.1 entry.2 }

def Store.apply (content : Config) (store : Store ι) : Store ι := { store with config := content.apply store.config }

def advance (site : Site) (who : ι) (mark : Mark) (task : Task) (before : Store ι) : Task × Store ι :=
  let store := { before with clock := max before.clock mark.now }
  match task with
  | .called operation => store.enter who (session site mark store.clock store.tables operation)
  | .protecting username accountId path =>
    store.enter who (recordProtection site mark username accountId path store.tables)
  | .reading mode trial => (.updating mode (settingsLimits (store.tables .waf)).params trial, store)
  | .updating mode params trial => store.enter who (updateSettings mark mode params trial.isSome trial store.tables)
  | .refreshing pending => (store.render site pending, store)
  | .listed pending account plain => (.rendered pending (store.content site account plain), store)
  | .rendered pending content =>
    if mark.accepted then
      match pending.trial with
      | none => (.done, store.apply content)
      | some trial => (.reviewing trial, store.apply content)
    else
      match pending.restore with
      | none => (.rejected, store)
      | some restore => (.failed restore, store)
  | .failed restore => (.restored, { store with tables := restore.run store.tables })
  | .restored => (.rerendered (wafTemplateContext site store.clock store.tables), store)
  | .rerendered waf =>
    (.rejected, if mark.accepted then store.apply { waf, vhosts := fun _ => none } else store)
  | .reviewing trial =>
    match store.tables .waf with
    | none => (.refused "'NoneType' object has no attribute", store)
    | some row => (.done, store.commit who ⟨.waf, some (trial.columns store.clock row)⟩)
  | .done => (.done, store)
  | .rejected => (.rejected, store)
  | .refused message => (.refused message, store)

end Boron.WebSettings
