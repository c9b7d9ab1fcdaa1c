import Boron.Firewall.Ufw
import Boron.Lib.Text
import Boron.Lib.Undo

namespace Boron.Firewall
open Text
variable {Id : Type} [DecidableEq Id] (host : Host Id)

/-- `_COMMENT_RE` -/
def validComment (comment : String) : Bool :=
  comment.toList.length ≤ 200 &&
    comment.toList.all fun c => c.isAlphanum || c = ' ' || c = '.' || c = '_' || c = '-'

/-- `_validate_comment` -/
def checkComment (comment : String) : Fw Id String := do
  check (validComment (strip comment)) "comment may only contain letters, digits, spaces, '.', '_', '-'"
  return strip comment

def refuseProtectedDeny (key : RuleKey) : Fw Id Unit :=
  if key.direction = .inbound ∧ key.action = .deny then do
    let ports ← protectedPorts host
    check (key.port ∉ ports) "port is hard-protected (SSH/panel/web/mail) and cannot be denied via this UI"
  else pure ()

def addRule (params : RuleParams) : Fw Id Unit := do
  let comment ← checkComment params.comment
  refuseProtectedDeny host params.key
  check (¬ (params.key.direction = .inbound ∧ params.key.toAddr ≠ none))
    "to_addr is only supported for outbound rules"
  check (¬ (params.key.direction = .outbound ∧ params.key.fromAddr ≠ none))
    "from_addr is only supported for inbound rules"
  ufwAdd host { key := params.key, comment }

def refuseLastAllow (rules : List Rule) (target : Rule) : Fw Id Unit :=
  if target.allowsInbound then do
    let ports ← protectedPorts host
    check (target.key.port ∉ ports ∨ rules.any fun rule =>
        host.ruleId rule.key ≠ host.ruleId target.key ∧ rule.allowsInbound ∧ rule.key.port = target.key.port)
      "cannot delete the only allow rule for hard-protected port"
  else pure ()

def findRule (rules : List Rule) (ruleId : Id) : Option Rule :=
  rules.find? fun rule => host.ruleId rule.key = ruleId

def deleteRule (ruleId : Id) : Fw Id Unit := do
  let current ← currentRules host
  match findRule host current ruleId with
  | none => raise "no rule with this id found"
  | some target => do
    refuseLastAllow host current target
    ufwDelete host target.key

/-- `_sync_fail2ban_bypass`: a failed refresh counts only when `strict`. -/
def syncFail2banBypass (unban strict : Bool) : Fw Id Unit := do
  let refreshed ← onRaise (do probe host "fail2ban refresh failed"; return true) fun _ => pure false
  if refreshed then
    if unban then probe host "fail2ban unban failed" else pure ()
  else if strict then raise "fail2ban could not apply the updated full-access bypass list"
  else pure ()

def addBypass (params : BypassParams) (strict : Bool) : Fw Id Unit := do
  check (¬ params.address.isGlobal)
    "a global network cannot bypass the firewall; enter a specific trusted IP or CIDR"
  let label ← checkComment params.label
  let current ← bypassEntries
  check (¬ current.any (·.address = params.address)) "address already has full-access bypass"
  ufwInsert host { action := .allow, address := params.address, comment := bypassCommentOf label }
  syncFail2banBypass host true strict

def deleteBypass (bypassId : Id) (strict : Bool) : Fw Id Unit := do
  let current ← bypassEntries
  match current.find? fun entry => host.bypassId entry.address = bypassId with
  | none => raise "no bypass entry with this id found"
  | some target => do
    ufwDeleteSource host .allow target.address
    syncFail2banBypass host false strict

def assertAddressCanBeBanned (value : Address) (actorIp : Option Address) : Fw Id Unit := do
  check (¬ (value.prefixLen = 0 ∨ value.isLoopback)) "refusing to ban a global or loopback network"
  check (¬ actorIp.any value.overlaps) "refusing to ban the administrator address making this request"
  let bypass ← bypassEntries
  check (¬ bypass.any fun entry => value.overlaps entry.address) "the requested ban overlaps a full-access bypass"

def World.nextBanId (w : World Id) : Nat := (w.bans.map Ban.id).foldr max 0 + 1

def World.withoutBan (w : World Id) (id : Nat) : World Id := { w with bans := w.bans.filter (·.id ≠ id) }

def World.withBan (w : World Id) (row : Ban) : World Id := { w with bans := w.bans ++ [row] }

def tempBanComment (id : Nat) : String := "boron-temporary-ban-" ++ toString id

/-- The row is committed before the rule, and removed when the rule cannot be
added. -/
def admitBan (row : Ban) : Fw Id Unit := do
  command host "database" (·.withBan row)
  onRaise (ufwInsert host { action := .deny, address := row.value, comment := tempBanComment row.id })
    fun message => do
      command host "database" (·.withoutBan row.id)
      raise message

def addTemporaryBan (params : BanParams) : Fw Id Unit := do
  check (1 ≤ params.durationMinutes ∧ params.durationMinutes ≤ 30 * 24 * 60)
    "duration_minutes must be between 1 and 43200"
  assertAddressCanBeBanned params.value params.actorIp
  let w ← Sys.get
  check (¬ w.bans.any (·.value = params.value)) "address already has a temporary ban"
  admitBan host { id := w.nextBanId, value := params.value, reason := params.reason,
                  bannedBy := params.actor, expiresAt := host.now w.tick + params.durationMinutes * 60 }

def dismissBan (row : Ban) : Fw Id Unit := do
  ufwDeleteSource host .deny row.value
  command host "database" (·.withoutBan row.id)

def deleteTemporaryBan (id : Nat) : Fw Id Unit := do
  let w ← Sys.get
  match w.bans.find? (·.id = id) with
  | none => raise "no temporary ban with this id"
  | some row => dismissBan host row

def baselineKey (port : Nat) : RuleKey :=
  { action := .allow, port, protocol := .any, fromAddr := none, direction := .inbound, toAddr := none }

def ensureBaselineAllowRules : Fw Id Unit := do
  let current ← currentRules host
  let ports ← protectedPorts host
  Sys.each (fun port => ufwAdd host { key := baselineKey port, comment := "boron-baseline-protected-port" })
    (ports.filter fun port => ¬ covers current port)

/-- `get_status`: a status command that fails reads as an inactive firewall. -/
def getStatus : Fw Id Bool := do
  let answered ← onRaise (do probe host "ufw status"; return true) fun _ => pure false
  let w ← Sys.get
  let _ ← currentRules host
  return answered && w.active

def enableFirewall (confirm : Bool) : Fw Id Unit := do
  check confirm "enabling the firewall requires confirm=true"
  ensureBaselineAllowRules host
  command host "ufw enable failed" fun w => { w with active := true }
  let _ ← getStatus host
  return ()

def disableFirewall (confirm : Bool) : Fw Id Unit := do
  check confirm "disabling the firewall requires confirm=true"
  command host "ufw disable failed" fun w => { w with active := false }
  let _ ← getStatus host
  return ()

end Boron.Firewall

namespace Boron.Firewall
variable {Id : Type} [DecidableEq Id] (host : Host Id)

def writePending (journal : Journal Id) : Fw Id Unit :=
  command host "write journal" fun w => { w with journal := some journal }

def clearPending : Fw Id Unit := command host "remove journal" fun w => { w with journal := none }

def readPending : Fw Id (Option (Journal Id)) := do
  let w ← Sys.get
  return w.journal

def undoOne : UndoStep Id → Fw Id Unit
  | .deleteRule ruleId => do
    let current ← currentRules host
    match findRule host current ruleId with
    | none => pure ()
    | some target => ufwDelete host target.key
  | .addRule ruleId params => do
    let current ← currentRules host
    match findRule host current ruleId with
    | none => addRule host params
    | some _ => pure ()
  | .deleteBypass address => do
    let current ← bypassEntries
    match current.find? (·.address = address) with
    | none => pure ()
    | some target => deleteBypass host (host.bypassId target.address) false
  | .addBypass params => do
    let current ← bypassEntries
    if current.any (·.address = params.address) then pure () else addBypass host params false
  | .disable => disableFirewall host true
  | .enable => enableFirewall host true
  | .deleteTempBan value => do
    let w ← Sys.get
    match w.bans.find? (·.value = value) with
    | none => pure ()
    | some row => deleteTemporaryBan host row.id
  | .addTempBan params => addTemporaryBan host params

def Fault.fatal : Fault → Bool
  | .killed => true
  | .raised _ => false

def Fault.text : Fault → String
  | .killed => "killed"
  | .raised message => message

/-- `_rollback_state`: every step is tried, and an error keeps the journal. -/
def rollbackState (journal : Journal Id) (reason : String) : Fw Id Unit := do
  let errors ← Undo.all Fault.fatal (journal.undo.map (undoOne host))
  if errors = [] then clearPending host
  else do
    writePending host { journal with stage := .rollbackFailed reason (errors.map Fault.text) }
    raise ("firewall rollback needs local-console recovery: " ++ "; ".intercalate (errors.map Fault.text))

def verifyProtectedAccess : Fw Id Unit := do
  probe host "unable to verify firewall status after the change"
  let w ← Sys.get
  if w.active then
    let rules ← currentRules host
    let ports ← protectedPorts host
    check (ports.all (covers rules)) "firewall verification found no allow rule for protected ports"
  else pure ()

def armRollback : Fw Id Unit := probe host "could not schedule the independent firewall rollback timer"

def changeConfirmSeconds : Int := 120

/-- The guarded part of `_start_change`, once the journal is on disk. -/
def guardedChange (journal : Journal Id) (apply : Fw Id Unit) : Fw Id Unit := onRaise (do
      apply
      verifyProtectedAccess host
      writePending host { journal with stage := .pendingConfirmation }
      armRollback host)
    fun message => do
      rollbackState host journal "change or verification failed"
      raise message

def startChange (operation summary : String) (undo : List (UndoStep Id)) (apply : Fw Id Unit) : Fw Id Unit := do
  let w ← Sys.get
  let now := host.now w.tick
  match w.journal with
  | some existing =>
    if existing.expiresAt ≤ now then rollbackState host existing "expired before the next change"
    else raise "confirm or revert the pending firewall change before making another change"
  | none => pure ()
  let journal : Journal Id := { operation, summary, createdAt := now, expiresAt := now + changeConfirmSeconds,
                                stage := .applying, undo }
  writePending host journal
  guardedChange host journal apply

/-- `rollback_change`; the timer and `recover_pending_changes` do the same. -/
def rollbackChange (reason : String) : Fw Id Unit := do
  let pending ← readPending
  match pending with
  | none => pure ()
  | some journal => rollbackState host journal reason

end Boron.Firewall
