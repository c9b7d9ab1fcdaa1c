import Mathlib.Data.List.Dedup
import Mathlib.Data.List.Sort
import Boron.DnsCluster.Cluster

namespace Boron.DnsCluster
open Checks Text
variable (host : Host)

/-- The parameters of a peer; an update leaves out what stays. -/
structure PeerParams where
  peerType : Option PeerType
  name : Option String
  endpoint : Option String
  username : Option String
  credential : Option String
  verifyTls : Option Bool
  enabled : Option Bool
  direction : Option SyncDirection
  zones : Option (List String)

structure PeerData where
  name : String
  peerType : PeerType
  endpoint : String
  username : Option String
  credential : Option String
  verifyTls : Bool
  enabled : Bool
  direction : SyncDirection
  zones : List String

def nonempty (text : String) : Option String := if text = "" then none else some text

def receives (direction : SyncDirection) : Bool := direction = .receive || direction = .bidirectional

def firstCredential (key : String) (peerType : PeerType) (credential : Option String) : Except String String :=
  match credential with
  | some given => .ok given
  | none => if peerType = .boron then .ok key else .error "An API token or login key is required"

def validatePeer (key : String) (params : PeerParams) (existing : Option Peer) : Except String PeerData := do
  let peerType ← orRaise (params.peerType.or (existing.map Peer.peerType))
    "Peer type must be Boron, DirectAdmin, or cPanel/WHM"
  let name := strip ((params.name.or (existing.map Peer.name)).getD "")
  raiseIf (name = "" ∨ 100 < name.length) "Peer name is required and must be at most 100 characters"
  let endpoint ← host.cleanEndpoint ((params.endpoint.or (existing.map Peer.endpoint)).getD "") peerType
  let username := nonempty (strip ((params.username.or (existing.bind Peer.username)).getD ""))
  raiseIf (peerType ≠ .boron ∧ username = none) "An API username is required for this peer type"
  raiseIf (params.credential.any fun given => given = "" || 4096 < given.length)
    "Credential must be a non-empty token of at most 4096 characters"
  let credential ← match existing with
    | some _ => .ok params.credential
    | none => (firstCredential key peerType params.credential).map some
  let direction := (params.direction.or (existing.map Peer.direction)).getD .push
  raiseIf (peerType ≠ .boron ∧ direction ≠ .push) "DirectAdmin and cPanel peers support push replication only"
  let rawZones := (params.zones.or (existing.map Peer.zones)).getD []
  raiseIf (10000 < rawZones.length) "Zones must be a list of at most 10,000 domain names"
  let domains ← rawZones.mapM host.validateDomain
  let zones := domains.dedup.insertionSort (· ≤ ·)
  raiseIf (receives direction ∧ zones = []) "Receiving peers require an explicit zone allowlist"
  return { name, peerType, endpoint, username, credential
           verifyTls := (params.verifyTls.or (existing.map Peer.verifyTls)).getD true
           enabled := (params.enabled.or (existing.map Peer.enabled)).getD true, direction, zones }

def nextId (ids : List Nat) : Nat := ids.foldr max 0 + 1

def taken (peers : List Peer) (id : Nat) (name credential : String) : Bool :=
  peers.any fun peer => peer.id ≠ id && (peer.name = name || peer.credential = credential)

def createPeer (params : PeerParams) : Dns Unit := do
  let c ← Sys.get
  let data ← Sys.ofExcept (validatePeer host (host.generatedKey c.calls) params none)
  let id := nextId (c.peers.map Peer.id)
  let credential := data.credential.getD ""
  Sys.ofExcept (raiseIf (taken c.peers id data.name credential) "A DNS cluster peer with that name already exists")
  Sys.modify fun c => { c with peers := c.peers ++ [
    { id, name := data.name, peerType := data.peerType, endpoint := data.endpoint, username := data.username
      credential, verifyTls := data.verifyTls, enabled := data.enabled, direction := data.direction
      zones := data.zones }] }

def rebinds (peer : Peer) (data : PeerData) : Bool :=
  data.endpoint ≠ peer.endpoint || data.peerType ≠ peer.peerType || data.username ≠ peer.username ||
    data.verifyTls ≠ peer.verifyTls

def Peer.updated (peer : Peer) (data : PeerData) : Peer :=
  { id := peer.id, name := data.name, peerType := data.peerType, endpoint := data.endpoint
    username := data.username, credential := data.credential.getD peer.credential, verifyTls := data.verifyTls
    enabled := data.enabled, direction := data.direction, zones := data.zones }

def updatePeer (peerId : Nat) (params : PeerParams) : Dns Unit := do
  let c ← Sys.get
  let peer ← Sys.ofExcept (orRaise (Rows.byKey Peer.id c.peers peerId) "DNS cluster peer not found")
  let data ← Sys.ofExcept (validatePeer host (host.generatedKey c.calls) params (some peer))
  Sys.ofExcept (raiseIf (rebinds peer data ∧ data.credential = none)
    "Enter a replacement credential when changing the DNS peer endpoint, type, username or TLS policy")
  Sys.ofExcept (raiseIf (taken c.peers peerId data.name (data.credential.getD peer.credential))
    "UNIQUE constraint failed")
  Sys.modify fun c => { c with
    peers := c.peers.map fun row => if row.id = peerId then row.updated data else row }

def deletePeer (peerId : Nat) : Dns Unit := Sys.modify fun c => { c with
  peers := c.peers.filter fun peer => peer.id ≠ peerId
  outbox := c.outbox.filter fun job => job.peerId ≠ peerId
  states := c.states.filter fun state => state.peerId ≠ peerId }

def peerCovers (peer : Peer) (zone : String) : Bool := peer.zones.isEmpty || zone ∈ peer.zones

def targets (peers : List Peer) (zone : String) : List Peer :=
  peers.filter fun peer => peer.enabled && (peer.direction = .push || peer.direction = .bidirectional) &&
    peerCovers peer zone

def queuedFor (outbox : List Job) (peerId : Nat) (zone : String) : Option Job :=
  outbox.find? fun job => job.peerId = peerId ∧ job.zone = zone

/-- `_enqueue_for_peer`: a newer event replaces the row of the peer and the zone. -/
def Cluster.enqueueFor (c : Cluster) (now : Int) (peerId : Nat) (zone : String) (change : Change) : Cluster :=
  let outbox := match queuedFor c.outbox peerId zone with
    | none => c.outbox ++ [{ id := nextId (c.outbox.map Job.id), peerId, zone, change, eventId := c.events
                             status := .pending, attempts := 0, nextAttemptAt := now }]
    | some _ => c.outbox.map fun job => if job.peerId = peerId ∧ job.zone = zone then
        { job with change, eventId := c.events, status := .pending, attempts := 0, nextAttemptAt := now }
      else job
  { c with outbox, events := c.events + 1, history := .queued peerId zone change :: c.history }

/-- A call of `enqueue_zone`, with what PowerDNS answers and whether Cloudflare
serves the zone. -/
structure Enqueue where
  zone : String
  delete : Bool
  cloudflare : Bool
  served : List ServedRRset
  now : Int

def enqueueAll (now : Int) (zone : String) (change : Change) (peers : List Peer) : Dns Unit :=
  Sys.each (fun peer => Sys.modify fun c => c.enqueueFor now peer.id zone change) peers

def enqueueChange (now : Int) (zone : String) (change : Change) : Dns Unit := do
  let c ← Sys.get
  enqueueAll now zone change (targets c.peers zone)

def enqueueZone (call : Enqueue) : Dns Unit := do
  let zone ← Sys.ofExcept (host.validateDomain call.zone)
  if call.delete then enqueueChange call.now zone .delete
  else if call.cloudflare then pure ()
  else do
    let payload ← Sys.ofExcept (canonicalPayload host.digest zone call.served)
    enqueueChange call.now zone (.upsert payload)

end Boron.DnsCluster

namespace Boron.DnsCluster
variable (host : Host)

def directadminExists (peer : Peer) (zone : String) : Dns Bool :=
  exchange host peer.endpoint zone .existence fun copy => .ok (copy, copy.isSome)

/-- Creates an absent zone and overwrites an existing one. -/
def directadminRawsave (peer : Peer) (zone : String) (payload : Payload) : Dns Unit :=
  exchange host peer.endpoint zone .rawsave fun _ => .ok (some (zoneRows payload), ())

def directadminDelete (peer : Peer) (zone : String) : Dns Unit :=
  exchange host peer.endpoint zone .delete fun _ => .ok (none, ())

/-- Only a zone that this peer row is not known to own is asked for. -/
def directadminBlocked (peer : Peer) (zone : String) (managed : Bool) : Dns Bool :=
  if managed then pure false else directadminExists host peer zone

def sendDirectadmin (peer : Peer) (zone : String) (managed : Bool) : Change → Dns Provenance
  | .delete =>
    if managed then do
      directadminDelete host peer zone
      return .sentOwned
    else return .skippedExisting
  | .upsert payload => do
    let blocked ← directadminBlocked host peer zone managed
    if blocked then return .skippedExisting
    else do
      directadminRawsave host peer zone payload
      return .sentOwned

def cpanelKilldns (peer : Peer) (zone : String) : Dns Unit :=
  exchange host peer.endpoint zone .killdns fun _ => .ok (none, ())

def cpanelDumpzone (peer : Peer) (zone : String) : Dns Copy :=
  exchange host peer.endpoint zone .dumpzone fun copy => match copy with
    | some rows => .ok (some rows, rows)
    | none => .error "zone does not exist"

def cpanelDumpzoneOrAbsent (peer : Peer) (zone : String) : Dns (Option Copy) :=
  exchange host peer.endpoint zone .dumpzone fun copy => .ok (copy, copy)

/-- `adddns` refuses an existing zone. -/
def cpanelAdddns (peer : Peer) (zone address : String) : Dns Unit :=
  exchange host peer.endpoint zone .adddns fun copy => match copy with
    | some _ => .error "zone already exists"
    | none => .ok (some (host.template zone address), ())

def cpanelRemove (peer : Peer) (zone : String) (line : Nat) : Dns Unit :=
  exchange host peer.endpoint zone (.removezonerecord line) fun copy => match copy with
    | some rows => if 1 ≤ line ∧ line ≤ rows.length then .ok (some (rows.eraseIdx (line - 1)), ())
      else .error "no record at this line"
    | none => .error "zone does not exist"

def cpanelAdd (peer : Peer) (zone : String) (row : Row) : Dns Unit :=
  exchange host peer.endpoint zone .addzonerecord fun copy => match copy with
    | some rows => .ok (some (rows ++ [row]), ())
    | none => .error "zone does not exist"

def forgetOwnership (peer : Peer) (zone : String) : Dns Unit := Sys.modify fun c => { c with
  states := c.states.map fun state =>
    if state.peerId = peer.id ∧ state.zone = zone then { state with direction := .missing } else state }

def recordOwnership (peer : Peer) (zone : String) : Dns Unit := Sys.modify fun c => { c with
  states := withState c.states peer.id zone (fun state => { state with direction := .sentOwned }) .sentOwned }

def cpanelOwned (peer : Peer) (zone : String) (managed : Bool) : Dns (Option Copy) :=
  if managed then do
    let dump ← cpanelDumpzoneOrAbsent host peer zone
    match dump with
    | some rows => return some rows
    | none => do
      forgetOwnership peer zone
      return none
  else pure none

/-- A creation that refuses a collision, and the records of the new zone. -/
def cpanelCreate (peer : Peer) (zone : String) (payload : Payload) : Dns Copy := do
  cpanelAdddns host peer zone (apexAddress payload zone)
  recordOwnership peer zone
  cpanelDumpzone host peer zone

def cpanelRows (peer : Peer) (zone : String) (payload : Payload) : Option Copy → Dns Copy
  | some rows => pure rows
  | none => cpanelCreate host peer zone payload

def removable (rows : Copy) : List Nat := ((rows.zipIdx 1).filter fun row => ¬ row.1.isSoa).map Prod.snd

def cpanelAddValue (peer : Peer) (zone : String) (item : RRset × String) : Dns Unit :=
  match cpanelRecordParams item with
  | some row => cpanelAdd host peer zone row
  | none => Sys.fail "not enough values to unpack"

/-- The old records go from the last line to the first, then the new ones are
added. -/
def cpanelReplace (peer : Peer) (zone : String) (payload : Payload) (rows : Copy) : Dns Unit := do
  Sys.ofExcept (Checks.raiseIf (10000 < rows.length) "cPanel returned too many DNS records")
  Sys.ofExcept (Checks.raiseIf (2000 < (removable rows).length + (cpanelValues payload).length)
    "DNS zone needs too many cPanel API mutations for one safe delivery")
  Sys.each (cpanelRemove host peer zone) (removable rows).reverse
  Sys.each (cpanelAddValue host peer zone) (cpanelValues payload)

def sendCpanel (peer : Peer) (zone : String) (managed : Bool) : Change → Dns Provenance
  | .delete =>
    if managed then do
      cpanelKilldns host peer zone
      return .sentOwned
    else return .skippedExisting
  | .upsert payload => do
    let owned ← cpanelOwned host peer zone managed
    let rows ← cpanelRows host peer zone payload owned
    cpanelReplace host peer zone payload rows
    return .sentOwned

/-- `_send_boron`: the peer applies the event to its own PowerDNS. -/
def sendBoron (peer : Peer) (zone : String) : Dns Unit := do
  exchange host peer.endpoint zone .capabilities fun copy => .ok (copy, ())
  exchange host peer.endpoint zone .apply fun copy => .ok (copy, ())

def send (peer : Peer) (zone : String) (managed : Bool) (change : Change) : Dns Provenance :=
  match peer.peerType with
  | .boron => do
    sendBoron host peer zone
    return .sent
  | .directadmin => sendDirectadmin host peer zone managed change
  | .cpanel => sendCpanel host peer zone managed change

def eligible (now : Int) (job : Job) : Bool := job.status ≠ .running && job.nextAttemptAt ≤ now

def Job.before (a b : Job) : Bool :=
  a.nextAttemptAt < b.nextAttemptAt || a.nextAttemptAt = b.nextAttemptAt && a.id ≤ b.id

def earliest : List Job → Option Job
  | [] => none
  | job :: rest => match earliest rest with
    | none => some job
    | some other => some (if job.before other then job else other)

def nextJob (now : Int) (c : Cluster) : Option Job := earliest (c.outbox.filter (eligible now))

def Cluster.starting (c : Cluster) (job : Job) : Cluster := { c with
  outbox := c.outbox.map fun row =>
    if row.id = job.id then { row with status := .running, attempts := row.attempts + 1 } else row }

def Cluster.dropJob (c : Cluster) (job : Job) : Cluster := { c with
  outbox := c.outbox.filter fun row => row.id ≠ job.id }

/-- The marker that only a guarded delivery writes. -/
def manages (states : List ZoneState) (peer : Peer) (zone : String) : Bool :=
  match zoneState states peer.id zone with
  | some state => if peer.peerType = .boron then state.direction = .sent else state.direction = .sentOwned
  | none => false

def recordDelivery (states : List ZoneState) (job : Job) (delivery : Provenance) : List ZoneState :=
  match job.change with
  | .upsert payload => withState states job.peerId job.zone (fun state => { state with
      serial := payload.serial, contentSha256 := some payload.contentSha256, direction := delivery }) delivery
  | .delete => withoutState states job.peerId job.zone

def Cluster.settled (c : Cluster) (job : Job) (delivery : Provenance) : Cluster := { c with
  outbox := c.outbox.filter fun row => ¬ (row.id = job.id ∧ row.eventId = job.eventId)
  states := match Rows.byKey Peer.id c.peers job.peerId with
    | some _ => recordDelivery c.states job delivery
    | none => c.states }

def retryDelay (attempts : Nat) : Int := min 3600 (5 * 2 ^ min attempts 9)

def Cluster.postponed (c : Cluster) (now : Int) (job : Job) : Cluster := { c with
  outbox := c.outbox.map fun row => if row.id = job.id then
      { row with status := .failed, nextAttemptAt := now + retryDelay row.attempts } else row }

/-- Zones that are queued while a delivery is under way. A call that is refused
changes nothing. -/
def arrive (arrivals : List Enqueue) : Dns Unit :=
  Sys.each (fun call => do
    let _ ← Sys.caught (enqueueZone host call)
    return ()) arrivals

def deliver (now : Int) (arrivals : List Enqueue) (peer : Peer) (job : Job) : Dns Unit := do
  let c ← Sys.get
  let sent ← Sys.caught (send host peer job.zone (manages c.states peer job.zone) job.change)
  arrive host arrivals
  match sent with
  | .ok delivery => Sys.modify fun c => c.settled job delivery
  | .error _ => Sys.modify fun c => c.postponed now job

def processOne (now : Int) (arrivals : List Enqueue) : Dns Bool := do
  let c ← Sys.get
  match nextJob now c with
  | none => return false
  | some job => do
    Sys.modify fun c => c.starting job
    match (Rows.byKey Peer.id c.peers job.peerId).filter Peer.enabled with
    | none => do
      Sys.modify fun c => c.dropJob job
      return true
    | some peer => do
      deliver host now arrivals peer job
      return true

end Boron.DnsCluster
