import Mathlib.Algebra.Group.Nat.Defs
import Boron.Lib.Sys

namespace Boron.Firewall

def width (v6 : Bool) : Nat := if v6 then 128 else 32

/-- An address or a network in canonical form, as `validate_ip_or_cidr` writes
it: the bits after the prefix are zero. `network` tells `10.0.0.1/32` from
`10.0.0.1`. -/
structure Address where
  v6 : Bool
  base : Nat
  prefixLen : Nat
  network : Bool
  bounded : base < 2 ^ width v6
  short : prefixLen ≤ width v6
  canonical : base % 2 ^ (width v6 - prefixLen) = 0
  host : network = false → prefixLen = width v6
  deriving DecidableEq

def Address.overlaps (a b : Address) : Bool :=
  let shift := width a.v6 - min a.prefixLen b.prefixLen
  a.v6 = b.v6 && a.base / 2 ^ shift = b.base / 2 ^ shift

def Address.isLoopback (a : Address) : Bool :=
  if a.v6 then a.base = 1 && a.prefixLen = 128 else a.base / 2 ^ 24 = 127 && 8 ≤ a.prefixLen

/-- The whole of either address space, written as a network. -/
def Address.isGlobal (a : Address) : Bool := a.network && a.prefixLen = 0

end Boron.Firewall

namespace Boron.Firewall

inductive Action
  | allow
  | deny
  deriving DecidableEq

inductive Protocol
  | tcp
  | udp
  | any
  deriving DecidableEq

inductive Direction
  | inbound
  | outbound
  deriving DecidableEq

/-- What identifies a rule. An absent address is `any`. -/
structure RuleKey where
  action : Action
  port : Nat
  protocol : Protocol
  fromAddr : Option Address
  direction : Direction
  toAddr : Option Address
  deriving DecidableEq

structure Rule where
  key : RuleKey
  comment : String

/-- `ufw allow from ADDRESS` and `ufw deny from ADDRESS`: every port. -/
structure SourceRule where
  action : Action
  address : Address
  comment : String

/-- A row of `FirewallTemporaryBan`. -/
structure Ban where
  id : Nat
  value : Address
  reason : String
  bannedBy : String
  expiresAt : Int

structure RuleParams where
  key : RuleKey
  comment : String

structure BypassParams where
  address : Address
  label : String

structure BanParams where
  value : Address
  reason : String
  actor : String
  durationMinutes : Int
  actorIp : Option Address

inductive UndoStep (Id : Type)
  | deleteRule (ruleId : Id)
  | addRule (ruleId : Id) (params : RuleParams)
  | deleteBypass (address : Address)
  | addBypass (params : BypassParams)
  | disable
  | enable
  | deleteTempBan (value : Address)
  | addTempBan (params : BanParams)

inductive Stage
  | applying
  | pendingConfirmation
  | rollbackFailed (reason : String) (errors : List String)

structure Journal (Id : Type) where
  operation : String
  summary : String
  createdAt : Int
  expiresAt : Int
  stage : Stage
  undo : List (UndoStep Id)

/-- The firewall, the table of temporary bans and the journal. `tick` counts
the commands and probes so far. -/
structure World (Id : Type) where
  rules : List Rule
  sources : List SourceRule
  bans : List Ban
  active : Bool
  journal : Option (Journal Id)
  tick : Nat

/-- A command takes effect, fails without effect, or the daemon is killed
before or after its effect. -/
inductive Outcome
  | done
  | failed
  | killed (after : Bool)
  deriving DecidableEq

inductive Fault
  | raised (message : String)
  | killed

/-- What the daemon meets: the outcome of every command and probe, the time,
the listener ports and the digests that name a rule and a bypass. -/
structure Host (Id : Type) where
  outcome : Nat → Outcome
  now : Nat → Int
  protectedPorts : List Nat
  ruleId : RuleKey → Id
  bypassId : Address → Id

abbrev Fw (Id : Type) := Sys (World Id) Fault

variable {Id : Type} (host : Host Id)

def command (label : String) (effect : World Id → World Id) : Fw Id Unit := ⟨fun w =>
  let ticked := { w with tick := w.tick + 1 }
  match host.outcome w.tick with
  | .done => (.ok (), effect ticked)
  | .failed => (.error (.raised label), ticked)
  | .killed after => (.error .killed, if after then effect ticked else ticked)⟩

def probe (label : String) : Fw Id Unit := command host label id

def onRaise {α : Type} (p : Fw Id α) (handler : String → Fw Id α) : Fw Id α :=
  Sys.handle p fun
    | .killed => Sys.fail .killed
    | .raised message => handler message

def raise {α : Type} (message : String) : Fw Id α := Sys.fail (.raised message)

def check (c : Prop) [Decidable c] (message : String) : Fw Id Unit := if c then pure () else raise message

@[simp] theorem run_check (c : Prop) [Decidable c] (message : String) (w : World Id) :
    (check c message).run w = (if c then .ok () else .error (.raised message), w) := by
  unfold check
  split <;> rfl

def World.withRule (w : World Id) (rule : Rule) : World Id :=
  if w.rules.any (·.key = rule.key) then w else { w with rules := w.rules ++ [rule] }

def World.withoutRule (w : World Id) (key : RuleKey) : World Id := { w with rules := w.rules.filter (·.key ≠ key) }

/-- `ufw insert 1` -/
def World.withSource (w : World Id) (source : SourceRule) : World Id :=
  if w.sources.any fun s => s.action = source.action ∧ s.address = source.address then w
  else { w with sources := source :: w.sources }

def World.withoutSource (w : World Id) (action : Action) (address : Address) : World Id :=
  { w with sources := w.sources.filter fun s => ¬ (s.action = action ∧ s.address = address) }

def ufwAdd (rule : Rule) : Fw Id Unit := command host "ufw add failed" (·.withRule rule)

def ufwDelete (key : RuleKey) : Fw Id Unit := command host "ufw delete failed" (·.withoutRule key)

def ufwInsert (source : SourceRule) : Fw Id Unit := command host "ufw insert failed" (·.withSource source)

def ufwDeleteSource (action : Action) (address : Address) : Fw Id Unit :=
  command host "ufw delete failed" (·.withoutSource action address)

/-- `protected_ports`: the probe of the effective SSH configuration may fail. -/
def protectedPorts : Fw Id (List Nat) := do
  probe host "Read effective SSH configuration"
  return host.protectedPorts

/-- `_current_rules`: the listing is exact, but reading it probes the protected ports. -/
def currentRules : Fw Id (List Rule) := do
  let w ← Sys.get
  let _ ← protectedPorts host
  return w.rules

def bypassComment : String := "boron-full-access-bypass"

def isBypassComment (comment : String) : Bool :=
  comment = bypassComment || (bypassComment ++ "-").toList.isPrefixOf comment.toList

def bypassLabel (comment : String) : String :=
  String.ofList ((comment.toList.drop bypassComment.length).dropWhile (· = '-'))

def bypassCommentOf (label : String) : String :=
  if label = "" then bypassComment else bypassComment ++ ("-" ++ label)

def SourceRule.isBypass (s : SourceRule) : Bool := s.action = .allow && isBypassComment s.comment

/-- `_parse_bypass_rules` -/
def World.bypassEntries (w : World Id) : List BypassParams :=
  (w.sources.filter SourceRule.isBypass).map fun s => { address := s.address, label := bypassLabel s.comment }

def bypassEntries : Fw Id (List BypassParams) := do
  let w ← Sys.get
  return w.bypassEntries

def Rule.allowsInbound (rule : Rule) : Bool := rule.key.action = .allow && rule.key.direction = .inbound

def covers (rules : List Rule) (port : Nat) : Bool :=
  rules.any fun rule => rule.allowsInbound && rule.key.port = port

end Boron.Firewall
