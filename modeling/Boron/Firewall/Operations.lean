import Boron.Firewall.Change

namespace Boron.Firewall
open Text
variable {Id : Type} [DecidableEq Id] (host : Host Id)

def transactionalAddRule (params : RuleParams) : Fw Id Unit :=
  startChange host "rule.add" "Add rule" [.deleteRule (host.ruleId params.key)] (addRule host params)

def transactionalDeleteRule (ruleId : Id) : Fw Id Unit := do
  let current ← currentRules host
  match findRule host current ruleId with
  | none => raise "no rule with this id found"
  | some target =>
    startChange host "rule.delete" "Delete rule"
      [.addRule (host.ruleId target.key) { key := target.key, comment := target.comment }]
      (deleteRule host ruleId)

def transactionalAddBypass (params : BypassParams) : Fw Id Unit :=
  startChange host "bypass.add" "Trust address on every port" [.deleteBypass params.address]
    (addBypass host params true)

def transactionalDeleteBypass (bypassId : Id) : Fw Id Unit := do
  let entries ← bypassEntries
  match entries.find? fun entry => host.bypassId entry.address = bypassId with
  | none => raise "no bypass entry with this id found"
  | some target =>
    startChange host "bypass.delete" "Remove full-access trust" [.addBypass target]
      (deleteBypass host bypassId true)

def transactionalAddTemporaryBan (params : BanParams) : Fw Id Unit := do
  assertAddressCanBeBanned params.value params.actorIp
  startChange host "temporary_ban.add" "Temporarily block address" [.deleteTempBan params.value]
    (addTemporaryBan host params)

def transactionalDeleteTemporaryBan (id : Nat) : Fw Id Unit := do
  let w ← Sys.get
  match w.bans.find? (·.id = id) with
  | none => raise "no temporary ban with this id"
  | some row =>
    let remaining := max 1 ((row.expiresAt - host.now w.tick) / 60 + 1)
    startChange host "temporary_ban.delete" "Remove temporary block"
      [.addTempBan { value := row.value, reason := row.reason, actor := row.bannedBy,
                     durationMinutes := remaining, actorIp := none }]
      (deleteTemporaryBan host id)

structure Preset where
  id : String
  label : String
  direction : Direction
  rules : List (Nat × Protocol)

def servicePresets : List Preset := [
  { id := "web", label := "Web hosting", direction := .inbound, rules := [(80, .tcp), (443, .tcp)] },
  { id := "mail", label := "Secure mail", direction := .inbound,
    rules := [(25, .tcp), (465, .tcp), (587, .tcp), (993, .tcp)] },
  { id := "dns", label := "Authoritative DNS", direction := .inbound, rules := [(53, .tcp), (53, .udp)] },
  { id := "ftp", label := "FTP control", direction := .inbound, rules := [(21, .tcp)] },
  { id := "mysql", label := "Remote MySQL", direction := .inbound, rules := [(3306, .tcp)] },
  { id := "outbound_web", label := "Outbound web and APIs", direction := .outbound,
    rules := [(80, .tcp), (443, .tcp)] },
  { id := "outbound_dns", label := "Outbound DNS", direction := .outbound, rules := [(53, .tcp), (53, .udp)] }]

def presetKey (preset : Preset) (action : Action) (address : Option Address) (rule : Nat × Protocol) : RuleKey :=
  { action, port := rule.1, protocol := rule.2,
    fromAddr := if preset.direction = .inbound then address else none,
    direction := preset.direction,
    toAddr := if preset.direction = .outbound then address else none }

def knownIds (rules : List Rule) : List Id := rules.map fun rule => host.ruleId rule.key

def presetAdditions (current : List Rule) (preset : Preset) (action : Action) (address : Option Address) :
    List RuleParams :=
  ((preset.rules.map (presetKey preset action address)).filter fun key =>
    host.ruleId key ∉ knownIds host current).map fun key => { key, comment := "boron-preset-" ++ preset.id }

def applyServicePreset (presetId : String) (action : Action) (address : Option Address) : Fw Id Unit :=
  match servicePresets.find? (·.id = presetId) with
  | none => raise "unknown firewall service preset"
  | some preset => do
    let current ← currentRules host
    let additions := presetAdditions host current preset action address
    check (additions ≠ []) "all rules in this service preset already exist"
    startChange host "preset.apply" ("Apply " ++ preset.label ++ " service preset")
      (additions.map fun item => .deleteRule (host.ruleId item.key)) (Sys.each (addRule host) additions)

structure Configuration where
  rules : List RuleParams
  bypass : List BypassParams

/-- `_normalize_config_rule`: each direction has one address. -/
def normalizeConfigRule (rule : RuleParams) : RuleParams :=
  { comment := strip rule.comment
    key := { rule.key with
      fromAddr := if rule.key.direction = .inbound then rule.key.fromAddr else none
      toAddr := if rule.key.direction = .inbound then none else rule.key.toAddr } }

def normalizeConfigBypass (entry : BypassParams) : BypassParams := { entry with label := strip entry.label }

def firstOfEachId : List RuleParams → List Id → List RuleParams
  | [], _ => []
  | rule :: rest, seen =>
    if host.ruleId rule.key ∈ seen then firstOfEachId rest seen
    else rule :: firstOfEachId rest (host.ruleId rule.key :: seen)

def firstBypasses : List BypassParams → List (Address × String) → List BypassParams
  | [], _ => []
  | entry :: rest, seen =>
    if (entry.address, entry.label) ∈ seen then firstBypasses rest seen
    else entry :: firstBypasses rest ((entry.address, entry.label) :: seen)

structure Plan where
  addRules : List RuleParams
  deleteRules : List Rule
  addBypass : List BypassParams
  deleteBypass : List BypassParams

def Configuration.plan (config : Configuration) (current : List Rule) (bypass : List BypassParams)
    (replace : Bool) : Plan :=
  let wantedRules := firstOfEachId host (config.rules.map normalizeConfigRule) []
  let wantedBypass := firstBypasses (config.bypass.map normalizeConfigBypass) []
  { addRules := wantedRules.filter fun item => host.ruleId item.key ∉ knownIds host current
    deleteRules := current.filter fun rule =>
      replace ∧ host.ruleId rule.key ∉ wantedRules.map fun item => host.ruleId item.key
    addBypass := wantedBypass.filter fun item => item.address ∉ bypass.map BypassParams.address
    deleteBypass := bypass.filter fun entry =>
      replace ∧ entry.address ∉ wantedBypass.map BypassParams.address }

/-- The inbound allow rules after the import. -/
def Configuration.final (config : Configuration) (current : List Rule) (plan : Plan) (replace : Bool) : List Rule :=
  let asRule (params : RuleParams) : Rule := { key := params.key, comment := params.comment }
  if replace then (firstOfEachId host (config.rules.map normalizeConfigRule) []).map asRule
  else current ++ plan.addRules.map asRule

def Plan.isEmpty (plan : Plan) : Bool :=
  plan.addRules.isEmpty && plan.deleteRules.isEmpty && plan.addBypass.isEmpty && plan.deleteBypass.isEmpty

def Plan.undo (plan : Plan) : List (UndoStep Id) :=
  plan.deleteRules.map (fun rule => .addRule (host.ruleId rule.key) { key := rule.key, comment := rule.comment }) ++
    plan.deleteBypass.map .addBypass ++
    plan.addRules.map (fun item => .deleteRule (host.ruleId item.key)) ++
    plan.addBypass.map fun item => .deleteBypass item.address

def Plan.apply (plan : Plan) : Fw Id Unit := do
  Sys.each (addRule host) plan.addRules
  Sys.each (fun item => Firewall.addBypass host item true) plan.addBypass
  Sys.each (fun rule => deleteRule host (host.ruleId rule.key)) plan.deleteRules
  Sys.each (fun entry => Firewall.deleteBypass host (host.bypassId entry.address) true) plan.deleteBypass

def validConfigRule (rule : RuleParams) : Bool := validComment (strip rule.comment)

def validConfigBypass (entry : BypassParams) : Bool := !entry.address.isGlobal && validComment (strip entry.label)

def importConfiguration (config : Configuration) (replace : Bool) : Fw Id Unit := do
  check (config.rules.length ≤ 500 ∧ config.bypass.length ≤ 100) "configuration exceeds the supported rule limits"
  check (config.rules.all validConfigRule ∧ config.bypass.all validConfigBypass) "configuration is not valid"
  let w ← Sys.get
  let current ← currentRules host
  let plan := config.plan host current w.bypassEntries replace
  let ports ← protectedPorts host
  check (ports.all (covers (config.final host current plan replace)))
    "import would leave protected ports without inbound allow rules"
  check (plan.isEmpty = false) "the imported configuration makes no changes"
  startChange host "configuration.import" "Import firewall configuration" (plan.undo host) (plan.apply host)

def transactionalEnable (confirm : Bool) : Fw Id Unit := do
  check confirm "enabling the firewall requires confirm=true"
  let active ← getStatus host
  check (active = false) "the firewall is already enabled"
  let current ← currentRules host
  let ports ← protectedPorts host
  let addedBaseline := ports.filter fun port => ¬ covers current port
  startChange host "firewall.enable" "Enable UFW enforcement"
    (.disable :: addedBaseline.map fun port => .deleteRule (host.ruleId (baselineKey port)))
    (enableFirewall host confirm)

def transactionalDisable (confirm : Bool) : Fw Id Unit := do
  check confirm "disabling the firewall requires confirm=true"
  let active ← getStatus host
  check active "the firewall is already disabled"
  startChange host "firewall.disable" "Disable UFW enforcement" [.enable] (disableFirewall host confirm)

inductive Operation (Id : Type)
  | addRule (params : RuleParams)
  | deleteRule (ruleId : Id)
  | addBypass (params : BypassParams)
  | deleteBypass (bypassId : Id)
  | addTemporaryBan (params : BanParams)
  | deleteTemporaryBan (id : Nat)
  | applyServicePreset (presetId : String) (action : Action) (address : Option Address)
  | importConfiguration (config : Configuration) (replace : Bool)
  | enable (confirm : Bool)
  | disable (confirm : Bool)

def Operation.run : Operation Id → Fw Id Unit
  | .addRule params => transactionalAddRule host params
  | .deleteRule ruleId => transactionalDeleteRule host ruleId
  | .addBypass params => transactionalAddBypass host params
  | .deleteBypass bypassId => transactionalDeleteBypass host bypassId
  | .addTemporaryBan params => transactionalAddTemporaryBan host params
  | .deleteTemporaryBan id => transactionalDeleteTemporaryBan host id
  | .applyServicePreset presetId action address => Firewall.applyServicePreset host presetId action address
  | .importConfiguration config replace => Firewall.importConfiguration host config replace
  | .enable confirm => transactionalEnable host confirm
  | .disable confirm => transactionalDisable host confirm

end Boron.Firewall
