import Mathlib.Algebra.Ring.Nat
import Mathlib.Algebra.Ring.Int.Defs
import Boron.Lib.Text
import Boron.Lib.Rows
import Boron.Lib.Sys

namespace Boron.DnsCluster
open Text

def recordTypes : List String := ["A", "AAAA", "CAA", "CNAME", "MX", "NS", "PTR", "SOA", "SRV", "TXT"]

structure RRset where
  name : String
  type : String
  ttl : Nat
  values : List String

structure Payload where
  zone : String
  rrsets : List RRset
  serial : Nat
  contentSha256 : String
  known : ∀ rr ∈ rrsets, rr.type ∈ recordTypes

/-- An rrset as PowerDNS answers it: the content of each record, and whether it
is disabled. -/
structure ServedRRset where
  name : String
  type : String
  ttl : Option Nat
  records : List (String × Bool)

def soaSerial (value : String) : Option Nat :=
  match (splitWords value.toList.length value.toList)[2]? with
  | some digits => if digits ≠ [] ∧ digits.all Char.isDigit then some (natOf digits) else none
  | none => none

def serialOf (rrsets : List RRset) : Nat :=
  (rrsets.findSome? fun rr => if rr.type = "SOA" then rr.values.head?.bind soaSerial else none).getD 0

def canonicalRRset (served : ServedRRset) : RRset :=
  { name := served.name, type := served.type
    ttl := match served.ttl with
      | some 0 => 3600
      | some ttl => ttl
      | none => 3600
    values := (served.records.filter fun record => ¬ record.2).map Prod.fst }

def canonicalRRsets (served : List ServedRRset) : List RRset :=
  (served.filter fun rrset => rrset.type ∈ recordTypes).map canonicalRRset

theorem canonicalRRsets_known (served : List ServedRRset) :
    ∀ rr ∈ canonicalRRsets served, rr.type ∈ recordTypes := by
  intro rr member
  obtain ⟨source, inside, rfl⟩ := List.mem_map.mp member
  exact of_decide_eq_true (List.mem_filter.mp inside).2

def valueCount (rrsets : List RRset) : Nat := (rrsets.map fun rr => rr.values.length).sum

def canonicalPayload (digest : List RRset → String) (zone : String) (served : List ServedRRset) :
    Except String Payload :=
  let rrsets := canonicalRRsets served
  if 10000 < rrsets.length ∨ 20000 < valueCount rrsets then
    .error "DNS zone is too large for safe cluster replication"
  else .ok { zone, rrsets, serial := serialOf rrsets, contentSha256 := digest rrsets,
             known := canonicalRRsets_known served }

/-- One record of a remote zone. -/
structure Row where
  name : String
  type : String
  ttl : Nat
  data : List (String × String)
  deriving DecidableEq

/-- The zone as a remote server holds it. A record's line is its position. -/
abbrev Copy := List Row

/-- The lines of `_zone_text`, after its header. -/
def zoneRows (payload : Payload) : Copy :=
  payload.rrsets.flatMap fun rr => rr.values.map fun value =>
    { name := rr.name, type := rr.type, ttl := rr.ttl, data := [("value", value)] }

/-- `value.strip('"')` -/
def stripQuotes (value : List Char) : String := String.ofList (trim (· = '"') value)

/-- The fields of a record of each type; a value with too few words raises. -/
def recordFields (type value : String) : Option (List (String × String)) :=
  let text := String.ofList
  if type = "A" ∨ type = "AAAA" then some [("address", value)]
  else if type = "CNAME" then some [("cname", value)]
  else if type = "NS" then some [("nsdname", value)]
  else if type = "PTR" then some [("ptrdname", value)]
  else if type = "TXT" then some [("txtdata", stripQuotes value.toList)]
  else if type = "MX" then match splitWords 1 value.toList with
    | [preference, exchange] => some [("preference", text preference), ("exchange", text exchange)]
    | _ => none
  else if type = "SRV" then match splitWords 3 value.toList with
    | [priority, weight, port, target] =>
      some [("priority", text priority), ("weight", text weight), ("port", text port), ("target", text target)]
    | _ => none
  else if type = "CAA" then match splitWords 2 value.toList with
    | [flag, tag, target] => some [("flag", text flag), ("tag", text tag), ("value", stripQuotes target)]
    | _ => none
  else some []

def cpanelRecordParams (item : RRset × String) : Option Row :=
  (recordFields item.1.type item.2).map fun data =>
    { name := item.1.name, type := item.1.type, ttl := item.1.ttl, data }

/-- The values sent to cPanel one by one: all but the SOA. -/
def cpanelValues (payload : Payload) : List (RRset × String) :=
  (payload.rrsets.filter fun rr => rr.type ≠ "SOA").flatMap fun rr => rr.values.map fun value => (rr, value)

def Row.isSoa (row : Row) : Bool := row.type.toList.map Char.toUpper = "SOA".toList

/-- The address a new cPanel zone is created with. -/
def apexAddress (payload : Payload) (zone : String) : String :=
  let atApex (name : String) : Bool := (name.toList.reverse.dropWhile (· = '.')).reverse = zone.toList
  ((payload.rrsets.filter fun rr => rr.type = "A" ∧ atApex rr.name).flatMap RRset.values).head?.getD "127.0.0.1"

end Boron.DnsCluster

namespace Boron.DnsCluster

inductive PeerType
  | boron
  | directadmin
  | cpanel
  deriving DecidableEq

inductive SyncDirection
  | push
  | receive
  | bidirectional
  deriving DecidableEq

/-- `DnsClusterPeer` -/
structure Peer where
  id : Nat
  name : String
  peerType : PeerType
  endpoint : String
  username : Option String
  credential : String
  verifyTls : Bool
  enabled : Bool
  direction : SyncDirection
  zones : List String

inductive Change
  | upsert (payload : Payload)
  | delete

inductive JobStatus
  | pending
  | running
  | failed
  deriving DecidableEq

/-- `DnsClusterOutbox` -/
structure Job where
  id : Nat
  peerId : Nat
  zone : String
  change : Change
  eventId : Nat
  status : JobStatus
  attempts : Nat
  nextAttemptAt : Int

/-- What a zone state row says about the remote copy. -/
inductive Provenance
  | sent
  | sentOwned
  | skippedExisting
  | missing
  | received
  deriving DecidableEq

/-- `DnsClusterZoneState` -/
structure ZoneState where
  peerId : Nat
  zone : String
  serial : Nat
  contentSha256 : Option String
  direction : Provenance

/-- The calls to a remote server. -/
inductive Request
  | existence
  | rawsave
  | delete
  | adddns
  | dumpzone
  | killdns
  | removezonerecord (line : Nat)
  | addzonerecord
  | capabilities
  | apply

/-- The request deletes a zone, removes its records or saves over it. -/
def Request.destructive (existed : Bool) : Request → Bool
  | .delete | .killdns | .removezonerecord _ => true
  | .rawsave => existed
  | _ => false

/-- What happened, for stating what a run may do. -/
inductive Event
  | requested (endpoint zone : String) (request : Request) (existed : Bool)
  | created (endpoint zone : String)
  | queued (peerId : Nat) (zone : String) (change : Change)

/-- The database, the remote servers and the history, the newest event first. -/
structure Cluster where
  peers : List Peer
  outbox : List Job
  states : List ZoneState
  remotes : String → String → Option Copy
  history : List Event
  calls : Nat
  events : Nat

/-- A remote call is answered, fails before it takes effect, or takes effect
and is still reported as failed. -/
inductive Outcome
  | done
  | failed
  | lost
  deriving DecidableEq

/-- The outcome of every remote call, and what the code takes from elsewhere:
the parsing of URLs and domain names, the key generated for a peer, the digest
of a payload and the records of a new cPanel zone. -/
structure Host where
  outcome : Nat → Outcome
  cleanEndpoint : String → PeerType → Except String String
  validateDomain : String → Except String String
  generatedKey : Nat → String
  digest : List RRset → String
  template : String → String → Copy

abbrev Dns := Sys Cluster String

variable (host : Host)

def Cluster.note (c : Cluster) (event : Event) : Cluster := { c with history := event :: c.history }

def Cluster.put (c : Cluster) (endpoint zone : String) (copy : Option Copy) : Cluster :=
  { c with
    remotes := fun e z => if e = endpoint ∧ z = zone then copy else c.remotes e z
    history := if (c.remotes endpoint zone).isNone ∧ copy.isSome then .created endpoint zone :: c.history
      else c.history }

def Cluster.ask (c : Cluster) (endpoint zone : String) (request : Request) : Cluster :=
  { c with
    calls := c.calls + 1
    history := .requested endpoint zone request (c.remotes endpoint zone).isSome :: c.history }

/-- A call to a remote server, which answers from its copy of the zone or
rejects the call. -/
def exchange {α : Type} (endpoint zone : String) (request : Request)
    (serve : Option Copy → Except String (Option Copy × α)) : Dns α := ⟨fun c =>
  let asked := c.ask endpoint zone request
  match host.outcome c.calls with
  | .failed => (.error "connection failed", asked)
  | .done => match serve (c.remotes endpoint zone) with
    | .error reason => (.error reason, asked)
    | .ok (copy, answer) => (.ok answer, asked.put endpoint zone copy)
  | .lost => match serve (c.remotes endpoint zone) with
    | .error reason => (.error reason, asked)
    | .ok (copy, _) => (.error "response lost", asked.put endpoint zone copy)⟩

def zoneState (states : List ZoneState) (peerId : Nat) (zone : String) : Option ZoneState :=
  states.find? fun state => state.peerId = peerId ∧ state.zone = zone

def withState (states : List ZoneState) (peerId : Nat) (zone : String) (write : ZoneState → ZoneState)
    (direction : Provenance) : List ZoneState :=
  if (zoneState states peerId zone).isSome then
    states.map fun state => if state.peerId = peerId ∧ state.zone = zone then write state else state
  else states ++ [write { peerId, zone, serial := 0, contentSha256 := none, direction }]

def withoutState (states : List ZoneState) (peerId : Nat) (zone : String) : List ZoneState :=
  states.filter fun state => ¬ (state.peerId = peerId ∧ state.zone = zone)

end Boron.DnsCluster
