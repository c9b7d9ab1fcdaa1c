import Boron.Lib.Sys
import Boron.Lib.Replay
import Boron.Lib.Rows

namespace Boron.WebSettings
open Checks

inductive AccountStatus | active | suspended | terminating | terminated | error
  deriving DecidableEq

structure Account where
  id : Nat
  username : String
  status : AccountStatus

structure Domain where
  domain : String
  accountId : Nat
  docroot : String

/-- `WAF_MODES` -/
inductive Mode | disabled | detect | protect
  deriving DecidableEq

/-- `WAF_DOMAIN_MODES` -/
inductive DomainMode | inherit | disabled | detect | protect
  deriving DecidableEq

structure Redirect where
  targetUrl : String
  statusCode : Nat

structure LscacheSettings where
  enabled : Bool
  ttlSeconds : Nat
  excludePaths : List String

structure FileAuthDir where
  realmName : String

structure Limits where
  paranoiaLevel : Nat
  anomalyThreshold : Nat
  wpLoginLimit : Nat
  wpXmlrpcLimit : Nat
  wpRateWindowSeconds : Nat

structure WafSettings where
  enabled : Bool
  mode : Mode
  limits : Limits
  detectStartedAt : Option Nat
  detectReviewDueAt : Option Nat
  detectReviewedAt : Option Nat

structure WafDomainOverride where
  disabled : Bool
  mode : DomainMode

structure WafCustomRule where
  domain : String
  target : String
  pattern : String

structure WafException where
  domain : String
  ruleId : Option Nat
  category : Option String
  uriPrefix : Option String
  parameter : Option String
  reason : Option String
  expiresAt : Nat

/-- What the rows of the seven tables are looked up by. -/
inductive Key
  | redirect (domain path : String)
  | lscache (domain : String)
  | fileAuth (accountId : Nat) (path : String)
  | waf
  | policy (domain : String)
  | rule (id : Nat)
  | exception (id : Nat)
  deriving DecidableEq

abbrev Row : Key → Type
  | .redirect .. => Redirect
  | .lscache _ => LscacheSettings
  | .fileAuth .. => FileAuthDir
  | .waf => WafSettings
  | .policy _ => WafDomainOverride
  | .rule _ => WafCustomRule
  | .exception _ => WafException

abbrev Tables := (k : Key) → Option (Row k)

/-- What the operations find and do not change: the accounts and domains, the checks of
the inputs and the file system as they resolve paths in it. -/
structure Site where
  accounts : List Account
  domains : List Domain
  uniqueAccounts : Rows.Unique Account.id accounts
  uniqueDomains : Rows.Unique Domain.domain domains
  webmailHostname : String
  homeBase : String
  realpath : String → String
  resolveProtectedDir : String → String → Except String (String × String)
  validateProtectedDirRelativePath : String → Except String String
  validateDomain : String → Except String String
  realmName : String → String → String
  hostPattern : String → String
  patternRe : String → Bool
  categoryRe : String → Bool
  uriRe : String → Bool
  parameterRe : String → Bool

def Site.accountNamed (site : Site) (username : String) : Except String Account :=
  orRaise (Rows.byKey Account.username site.accounts username) ("account '" ++ username ++ "' not found")

def Site.domainAccount (site : Site) (domain : String) : Except String Account := do
  let row ← orRaise (Rows.byKey Domain.domain site.domains domain) ("domain '" ++ domain ++ "' not found")
  orRaise (Rows.byKey Account.id site.accounts row.accountId) ("domain '" ++ domain ++ "' has no owning account")

/-- `_domains_as_plain`, less what is not rendered here. -/
def Site.domainsOf (site : Site) (accountId : Nat) : List Domain :=
  site.domains.filter fun domain => domain.accountId = accountId

def Site.domainForPath (site : Site) (resolved : String) : List Domain → Except String Domain
  | [] => .error "directory is not inside any of this account's domain docroots -- protecting it would have no effect"
  | domain :: rest => do
    let docroot := site.realpath domain.docroot
    raiseIf (resolved = docroot) ("the domain's own docroot cannot be protected directly (it would collide with the " ++
      "site's main context block) -- protect a subdirectory instead")
    if (docroot ++ "/").isPrefixOf resolved then return domain else site.domainForPath resolved rest

def Site.requireKnownDomain (site : Site) (value : String) : Except String String := do
  let domain ← site.validateDomain value
  let hosted := site.domains.any fun row => row.domain = domain ∧
    ∃ account ∈ site.accounts, account.id = row.accountId ∧ account.status ≠ .terminated
  raiseIf (hosted = false ∧ domain ≠ site.webmailHostname) ("domain '" ++ domain ++ "' is not an active Boron virtual host")
  return domain

end Boron.WebSettings

namespace Boron.WebSettings

structure RenderedRedirect where
  regexPath : String
  targetUrl : String
  statusCode : Nat

structure CacheOverride where
  ttlSeconds : Nat
  excludePaths : List String
  storagepath : String
  purgeUri : String

structure ProtectedDir where
  realmName : String
  relativePath : String
  htpasswdPath : String

/-- What these rows put into a vhost file. -/
structure Vhost where
  redirects : String → Option RenderedRedirect
  lscache : Option CacheOverride
  protectedDirs : String → Option ProtectedDir

structure DomainPolicy where
  hostPattern : String
  mode : DomainMode

structure CustomRule where
  hostPattern : String
  target : String
  pattern : String

structure Exclusion where
  hostPattern : String
  ruleId : Option Nat
  category : Option String
  uriPrefix : Option String
  parameter : Option String
  expiresEpoch : Nat

structure WafContext where
  mode : Mode
  limits : Limits
  policies : String → Option DomainPolicy
  customRules : Nat → Option CustomRule
  exceptions : Nat → Option Exclusion

/-- The files of the web server: the main one with the WAF rules it includes, none while
the WAF is off, and one of each vhost. -/
structure Config where
  waf : Option WafContext
  vhosts : String → Option Vhost

def replaceDots (by_ : List Char) (text : String) : String :=
  String.ofList (text.toList.flatMap fun letter => if letter = '.' then by_ else [letter])

def vhostName (domain : String) : String := replaceDots ['_'] domain

def redirectsForDomain (tables : Tables) (domain path : String) : Option RenderedRedirect :=
  (tables (.redirect domain path)).map fun (row : Redirect) =>
    { regexPath := replaceDots ['\\', '.'] path, targetUrl := row.targetUrl, statusCode := row.statusCode }

def lscacheForDomain (tables : Tables) (domain : String) : Option CacheOverride :=
  (tables (.lscache domain)).bind fun (row : LscacheSettings) =>
    if row.enabled then some
      { ttlSeconds := row.ttlSeconds, excludePaths := row.excludePaths
        storagepath := "/usr/local/lsws/cachedata/" ++ vhostName domain
        purgeUri := "/.boron-lscache-purge-" ++ vhostName domain }
    else none

def protectedDirsForDomain (site : Site) (tables : Tables) (account : Account) (docroot path : String) :
    Option ProtectedDir :=
  let docrootReal := site.realpath docroot
  let home := site.realpath (site.homeBase ++ "/" ++ account.username)
  let absolute := site.realpath (home ++ "/" ++ path)
  (tables (.fileAuth account.id path)).bind fun (row : FileAuthDir) =>
    if absolute = docrootReal then some
      { realmName := row.realmName, relativePath := "", htpasswdPath := absolute ++ "/.htpasswd" }
    else if (docrootReal ++ "/").isPrefixOf absolute then some
      { realmName := row.realmName
        relativePath := String.ofList (absolute.toList.drop (docrootReal.length + 1))
        htpasswdPath := absolute ++ "/.htpasswd" }
    else none

/-- `render_vhost_conf`, with the cache settings as they were read with the domains. -/
def renderVhostConf (site : Site) (tables : Tables) (account : Account) (domain : Domain)
    (lscache : Option CacheOverride) : Vhost :=
  { redirects := redirectsForDomain tables domain.domain
    lscache := lscache
    protectedDirs := protectedDirsForDomain site tables account domain.docroot }

def settingsMode : Option WafSettings → Mode
  | none => .disabled
  | some row => if row.mode = .disabled ∧ row.enabled then .protect else row.mode

def settingsLimits : Option WafSettings → Limits
  | none => { paranoiaLevel := 1, anomalyThreshold := 5, wpLoginLimit := 10, wpXmlrpcLimit := 5, wpRateWindowSeconds := 60 }
  | some row => row.limits

def activeException (site : Site) (now : Nat) (row : WafException) : Option Exclusion :=
  if now < row.expiresAt then some
    { hostPattern := site.hostPattern row.domain, ruleId := row.ruleId, category := row.category
      uriPrefix := row.uriPrefix, parameter := row.parameter, expiresEpoch := row.expiresAt }
  else none

/-- `waf_template_context`, which is rendered while the WAF is not off. -/
def wafTemplateContext (site : Site) (now : Nat) (tables : Tables) : Option WafContext :=
  if settingsMode (tables .waf) = .disabled then none else some
    { mode := settingsMode (tables .waf)
      limits := settingsLimits (tables .waf)
      policies := fun domain => (tables (.policy domain)).map fun (row : WafDomainOverride) =>
        { hostPattern := site.hostPattern domain, mode := row.mode }
      customRules := fun id => (tables (.rule id)).map fun (row : WafCustomRule) =>
        { hostPattern := site.hostPattern row.domain, target := row.target, pattern := row.pattern }
      exceptions := fun id => (tables (.exception id)).bind (activeException site now) }

/-- The rules as they work at a time: each exception is rendered with its deadline, and
the engine compares it with the time of the request. -/
def WafContext.effective (now : Nat) (context : WafContext) : WafContext :=
  { context with exceptions := fun id => (context.exceptions id).filter fun exclusion => now < exclusion.expiresEpoch }

/-- A replaced configuration: the vhost files that were not rendered stay. -/
def Config.apply (content config : Config) : Config :=
  { waf := content.waf, vhosts := fun domain => (content.vhosts domain).or (config.vhosts domain) }

inductive Part | waf | vhost (domain : String)

def Current (site : Site) (clock : Nat) (tables : Tables) (config : Config) : Part → Prop
  | .waf => ∀ now, clock ≤ now → config.waf.map (WafContext.effective now) = wafTemplateContext site now tables
  | .vhost name => ∀ domain account, Rows.byKey Domain.domain site.domains name = some domain →
      Rows.byKey Account.id site.accounts domain.accountId = some account →
      config.vhosts name = some (renderVhostConf site tables account domain (lscacheForDomain tables name))

def Shown (site : Site) : Key → Part → Prop
  | .redirect domain _, part => part = .vhost domain
  | .lscache domain, part => part = .vhost domain
  | .fileAuth accountId _, part => ∃ domain ∈ site.domains, domain.accountId = accountId ∧ part = .vhost domain.domain
  | _, part => part = .waf

variable {site : Site} {clock : Nat} {tables : Tables} {config : Config} {part : Part}

theorem activeException_effective {rendered now : Nat} (later : rendered ≤ now) (row : WafException) :
    (activeException site rendered row).filter (fun exclusion => now < exclusion.expiresEpoch) =
      activeException site now row := by
  unfold activeException
  by_cases still : now < row.expiresAt
  · have before : rendered < row.expiresAt := Nat.lt_of_le_of_lt later still
    rw [if_pos before, if_pos still]
    exact Option.filter_some_pos (by simpa using still)
  · split
    · exact Option.filter_some_neg (by simpa using still)
    · rfl

theorem wafTemplateContext_effective {rendered now : Nat} (later : rendered ≤ now) :
    (wafTemplateContext site rendered tables).map (WafContext.effective now) = wafTemplateContext site now tables := by
  unfold wafTemplateContext
  split
  · rfl
  · refine congrArg some ?_
    unfold WafContext.effective
    congr 1
    funext id
    dsimp only
    cases tables (.exception id) with
    | none => rfl
    | some row => exact activeException_effective later row

theorem Current.later (current : Current site clock tables config part) {now : Nat} (later : clock ≤ now) :
    Current site now tables config part := by
  cases part with
  | waf => exact fun moment after => current moment (Nat.le_trans later after)
  | vhost name => exact current

/-- What is rendered now is current from now on. -/
theorem current_wafTemplateContext {vhosts : String → Option Vhost} :
    Current site clock tables { waf := wafTemplateContext site clock tables, vhosts } .waf :=
  fun _ later => wafTemplateContext_effective later

/-- A row that is not rendered into a part does not matter to it. -/
theorem Current.write {key : Key} {row : Option (Row key)} (current : Current site clock tables config part)
    (hidden : ¬ Shown site key part) : Current site clock (Function.update tables key row) config part := by
  cases part with
  | waf =>
    intro now later
    have same : wafTemplateContext site now (Function.update tables key row) = wafTemplateContext site now tables := by
      cases key with
      | redirect | lscache | fileAuth => rfl
      | waf | policy | rule | exception => exact absurd rfl hidden
    rw [same]
    exact current now later
  | vhost name =>
    intro domain account known owner
    obtain ⟨member, named⟩ := Rows.byKey_some known
    rw [current domain account known owner]
    refine congrArg some ?_
    have redirects : ∀ path, Function.update tables key row (.redirect domain.domain path) =
        tables (.redirect domain.domain path) := by
      intro path
      refine Function.update_of_ne (fun same => hidden ?_) ..
      subst same
      exact congrArg Part.vhost named.symm
    have lscache : Function.update tables key row (.lscache name) = tables (.lscache name) := by
      refine Function.update_of_ne (fun same => hidden ?_) ..
      subst same
      exact rfl
    have fileAuth : ∀ path, Function.update tables key row (.fileAuth account.id path) =
        tables (.fileAuth account.id path) := by
      intro path
      refine Function.update_of_ne (fun same => hidden ?_) ..
      subst same
      exact ⟨domain, member, (Rows.byKey_some owner).2.symm, congrArg Part.vhost named.symm⟩
    unfold renderVhostConf lscacheForDomain redirectsForDomain protectedDirsForDomain
    simp only [redirects, lscache, fileAuth]

theorem Current.review {row later : WafSettings} (current : Current site clock tables config part)
    (held : tables .waf = some row) (same : later.enabled = row.enabled ∧ later.mode = row.mode ∧ later.limits = row.limits) :
    Current site clock (Function.update tables Key.waf (some later)) config part := by
  cases part with
  | waf =>
    intro now after
    have mode : settingsMode (some later) = settingsMode (tables .waf) := by
      rw [held]
      simp only [settingsMode, same.1, same.2.1]
    have limits : settingsLimits (some later) = settingsLimits (tables .waf) := by
      rw [held]
      exact same.2.2
    have unchanged : wafTemplateContext site now (Function.update tables Key.waf (some later)) =
        wafTemplateContext site now tables := by
      unfold wafTemplateContext
      rw [Function.update_self, mode, limits]
      rfl
    rw [unchanged]
    exact current now after
  | vhost name => exact current.write Part.noConfusion

end Boron.WebSettings
