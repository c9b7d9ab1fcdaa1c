import Boron.DnsCluster.Deliver
import Boron.Lib.Reconcile

namespace Boron.DnsCluster
open List Checks
variable (host : Host)

/-- An rrset as it arrives: `ttl` is what `int` makes of it, and a value that is
no string is `none`. -/
structure IncomingRRset where
  type : String
  name : String
  ttl : Option Int
  values : Option (List (Option String))

structure Incoming where
  version : Option Int
  zone : String
  rrsets : Option (List (Option IncomingRRset))
  serial : Option Int
  contentSha256 : Option String

/-- What `_validate_payload` returns. -/
structure Accepted where
  rrsets : List RRset
  serial : Int
  contentSha256 : String

def endsWith (name suffix : String) : Bool := suffix.toList.isSuffixOf name.toList

def absolute (name : String) : String := if endsWith name "." then name else name ++ "."

def inside (zone name : String) : Bool := name = zone ++ "." || endsWith name ("." ++ (zone ++ "."))

def validateRRset (zone : String) (entry : Option IncomingRRset) : Except String RRset := do
  let rr ← orRaise (entry.filter fun rr => rr.type ∈ recordTypes) "Invalid DNS cluster record"
  let name := absolute rr.name
  raiseIf (¬ inside zone name) "DNS cluster record is outside its zone"
  let ttl ← orRaise rr.ttl "invalid literal for int()"
  -- what is no list is refused like an empty one
  let given := rr.values.getD []
  raiseIf (¬ (60 ≤ ttl ∧ ttl ≤ 2147483647) ∨ given = [] ∨ 100 < given.length) "Invalid DNS cluster record values"
  let values ← orRaise (given.mapM id) "Invalid DNS cluster record value"
  raiseIf (∃ value ∈ values, value = "" ∨ 8192 < value.length) "Invalid DNS cluster record value"
  return { name, type := rr.type, ttl := ttl.toNat, values }

def validatePayload (digest : List RRset → String) (zone : String) (payload : Incoming) : Except String Accepted := do
  raiseIf (¬ (payload.version = some 1 ∨ payload.version = some 2) ∨ payload.zone ≠ zone)
    "Invalid DNS cluster zone payload"
  let rrsets ← orRaise (payload.rrsets.filter fun rrsets => rrsets.length ≤ 10000) "Invalid DNS cluster record list"
  let clean ← rrsets.mapM (validateRRset zone)
  let calculated := digest clean
  raiseIf (payload.contentSha256.any (· ≠ calculated)) "DNS cluster payload checksum does not match its records"
  let serial ← orRaise payload.serial "invalid literal for int()"
  return { rrsets := clean, serial, contentSha256 := calculated }

/-- `_canonical_payload` of a zone as it is called. -/
def exported (zone : String) (served : List ServedRRset) : Except String Payload := do
  let named ← host.validateDomain zone
  canonicalPayload host.digest named served

def RRset.sent (rr : RRset) : IncomingRRset :=
  { type := rr.type, name := rr.name, ttl := some rr.ttl, values := some (rr.values.map some) }

def Payload.sent (payload : Payload) : Incoming :=
  { version := some 2, zone := payload.zone, rrsets := some (payload.rrsets.map fun rr => some rr.sent)
    serial := some payload.serial, contentSha256 := some payload.contentSha256 }

/-- The limits a receiver sets for one rrset. -/
structure Receivable (rr : RRset) : Prop where
  ttl_least : 60 ≤ rr.ttl
  ttl_most : rr.ttl ≤ 2147483647
  nonempty : rr.values ≠ []
  few : rr.values.length ≤ 100
  short : ∀ value ∈ rr.values, value ≠ "" ∧ value.length ≤ 8192

theorem absolute_of_inside {zone name : String} (within : inside zone name) : absolute name = name := by
  refine if_pos ?_
  unfold endsWith
  rw [isSuffixOf_iff_suffix]
  rcases Bool.or_eq_true .. ▸ within with apex | below
  · have named : name = zone ++ "." := of_decide_eq_true apex
    rw [named, String.toList_append]
    exact suffix_append _ _
  · have ends := isSuffixOf_iff_suffix.mp below
    rw [String.toList_append, String.toList_append] at ends
    exact ((suffix_append zone.toList _).trans (suffix_append _ _)).trans ends

variable {zone : String}

theorem validateRRset_sent {rr clean : RRset} (known : rr.type ∈ recordTypes) (within : inside zone rr.name) :
    validateRRset zone (some rr.sent) = .ok clean ↔ clean = rr ∧ Receivable rr := by
  have named : absolute rr.name = rr.name := absolute_of_inside within
  have texts : (rr.values.map some).mapM id = some rr.values := by
    rw [mapM_map]
    exact mapM_pure (m := Option) (f := id) ▸ congrArg some (map_id _)
  have typed : (some rr.sent).filter (fun entry => decide (entry.type ∈ recordTypes)) = some rr.sent :=
    if_pos (decide_eq_true known)
  unfold validateRRset
  simp only [bind_eq_ok, pure_eq_ok, raiseIf_eq_ok, orRaise_eq_ok, typed]
  constructor
  · rintro ⟨_, ⟨⟩, _, _, ttl, ⟨⟩, _, limits, values, given, _, short, rfl⟩
    have same : values = rr.values := Option.some.inj (given.symm.trans texts)
    subst same
    have bounds : 60 ≤ rr.ttl ∧ rr.ttl ≤ 2147483647 ∧ rr.values ≠ [] ∧ rr.values.length ≤ 100 := by
      simp only [RRset.sent, Option.getD_some, map_eq_nil_iff, length_map, not_or, not_not, not_lt] at limits
      exact ⟨by omega, by omega, limits.2⟩
    obtain ⟨least, most, some_value, few⟩ := bounds
    refine ⟨by simp only [RRset.sent, named, Int.toNat_natCast], least, most, some_value, few, fun value member => ?_⟩
    have fits := fun bad => short ⟨value, member, bad⟩
    exact ⟨fun empty => fits (.inl empty), Nat.le_of_not_lt fun long => fits (.inr long)⟩
  · rintro ⟨rfl, least, most, some_value, few, short⟩
    refine ⟨clean.sent, rfl, (), ?_, clean.ttl, rfl, (), ?_, clean.values, texts, (), ?_, ?_⟩
    · simpa only [RRset.sent, named, not_not] using within
    · simp only [RRset.sent, Option.getD_some, map_eq_nil_iff, length_map, not_or, not_not, not_lt]
      exact ⟨by omega, some_value, few⟩
    · rintro ⟨value, member, empty | long⟩
      · exact (short value member).1 empty
      · exact absurd (short value member).2 (Nat.not_le_of_lt long)
    · simp only [RRset.sent, named, Int.toNat_natCast]

theorem validateRRsets_sent {rrsets clean : List RRset} (known : ∀ rr ∈ rrsets, rr.type ∈ recordTypes)
    (within : ∀ rr ∈ rrsets, inside zone rr.name) :
    (rrsets.map fun rr => some rr.sent).mapM (validateRRset zone) = .ok clean ↔
      clean = rrsets ∧ ∀ rr ∈ rrsets, Receivable rr := by
  induction rrsets generalizing clean with
  | nil =>
    rw [map_nil, mapM_nil, pure_eq_ok]
    exact ⟨fun same => ⟨same.symm, fun _ member => nomatch member⟩, fun same => same.1.symm⟩
  | cons first rest ih =>
    have later (clean : List RRset) : (rest.map fun rr => some rr.sent).mapM (validateRRset zone) = .ok clean ↔
        clean = rest ∧ ∀ rr ∈ rest, Receivable rr :=
      ih (fun rr member => known rr (mem_cons_of_mem _ member))
        fun rr member => within rr (mem_cons_of_mem _ member)
    rw [map_cons, mapM_cons]
    simp only [bind_eq_ok, pure_eq_ok, later, forall_mem_cons,
      validateRRset_sent (known first mem_cons_self) (within first mem_cons_self)]
    constructor
    · rintro ⟨_, ⟨rfl, fits⟩, _, ⟨rfl, others⟩, rfl⟩
      exact ⟨rfl, fits, others⟩
    · rintro ⟨rfl, fits, others⟩
      exact ⟨first, ⟨rfl, fits⟩, rest, ⟨rfl, others⟩, rfl⟩

/-- A payload with its own digest is received as it was sent, if it keeps the
receiver's limits. -/
theorem validatePayload_sent {digest : List RRset → String} {payload : Payload} {accepted : Accepted}
    (few : payload.rrsets.length ≤ 10000) (summed : payload.contentSha256 = digest payload.rrsets)
    (within : ∀ rr ∈ payload.rrsets, inside zone rr.name) :
    validatePayload digest zone payload.sent = .ok accepted ↔
      accepted = ⟨payload.rrsets, payload.serial, payload.contentSha256⟩ ∧ payload.zone = zone ∧
        ∀ rr ∈ payload.rrsets, Receivable rr := by
  unfold validatePayload
  simp only [bind_eq_ok, pure_eq_ok, raiseIf_eq_ok, orRaise_eq_ok]
  constructor
  · rintro ⟨_, header, entries, listed, clean, checked, _, _, serial, numbered, rfl⟩
    simp only [Payload.sent, Option.filter_eq_some_iff, Option.some.injEq] at listed
    obtain ⟨rfl, _⟩ := listed
    obtain ⟨rfl, fits⟩ := (validateRRsets_sent payload.known within).mp checked
    cases numbered
    exact ⟨by rw [summed], by simpa [Payload.sent] using header, fits⟩
  · rintro ⟨rfl, named, fits⟩
    refine ⟨(), by simp [Payload.sent, named], payload.rrsets.map fun rr => some rr.sent, ?_, payload.rrsets,
      (validateRRsets_sent payload.known within).mpr ⟨rfl, fits⟩, (), by simp [Payload.sent, summed],
      payload.serial, rfl, by rw [summed]⟩
    simp only [Payload.sent, Option.filter_eq_some_iff, length_map, true_and]
    exact decide_eq_true few

/-- What PowerDNS answers for an rrset that a receiver takes: no short or
oversized TTL, and some enabled values, not too many and none too long. -/
structure Exportable (rrset : ServedRRset) : Prop where
  ttl : rrset.ttl = none ∨ rrset.ttl = some 0 ∨ ∃ ttl, rrset.ttl = some ttl ∧ 60 ≤ ttl ∧ ttl ≤ 2147483647
  enabled : ∃ record ∈ rrset.records, ¬ record.2
  few : (rrset.records.filter fun record => ¬ record.2).length ≤ 100
  short : ∀ record ∈ rrset.records, ¬ record.2 → record.1 ≠ "" ∧ record.1.length ≤ 8192

theorem receivable_canonicalRRset (rrset : ServedRRset) : Receivable (canonicalRRset rrset) ↔ Exportable rrset := by
  have values : ∀ value, value ∈ (canonicalRRset rrset).values ↔ ∃ record ∈ rrset.records, ¬ record.2 ∧ record.1 = value := by
    intro value
    simp only [canonicalRRset, mem_map, mem_filter, decide_eq_true_eq, and_assoc]
  have some_value : (canonicalRRset rrset).values ≠ [] ↔ ∃ record ∈ rrset.records, ¬ record.2 := by
    constructor
    · intro nonempty
      obtain ⟨value, member⟩ := exists_mem_of_ne_nil _ nonempty
      obtain ⟨record, inside, enabled, _⟩ := (values value).mp member
      exact ⟨record, inside, enabled⟩
    · rintro ⟨record, inside, enabled⟩
      exact ne_nil_of_mem ((values record.1).mpr ⟨record, inside, enabled, rfl⟩)
  have short : (∀ value ∈ (canonicalRRset rrset).values, value ≠ "" ∧ value.length ≤ 8192) ↔
      ∀ record ∈ rrset.records, ¬ record.2 → record.1 ≠ "" ∧ record.1.length ≤ 8192 := by
    constructor
    · exact fun fits record inside enabled => fits _ ((values _).mpr ⟨record, inside, enabled, rfl⟩)
    · intro fits value member
      obtain ⟨record, inside, enabled, rfl⟩ := (values value).mp member
      exact fits record inside enabled
  have ttl : 60 ≤ (canonicalRRset rrset).ttl ∧ (canonicalRRset rrset).ttl ≤ 2147483647 ↔
      rrset.ttl = none ∨ rrset.ttl = some 0 ∨ ∃ ttl, rrset.ttl = some ttl ∧ 60 ≤ ttl ∧ ttl ≤ 2147483647 := by
    unfold canonicalRRset
    rcases rrset.ttl with _ | _ | ttl
    · simp
    · simp
    · simp
  have few : (canonicalRRset rrset).values.length = (rrset.records.filter fun record => ¬ record.2).length :=
    length_map _
  constructor
  · rintro ⟨least, most, nonempty, bounded, fits⟩
    exact ⟨ttl.mp ⟨least, most⟩, some_value.mp nonempty, few ▸ bounded, short.mp fits⟩
  · rintro ⟨range, enabled, bounded, fits⟩
    obtain ⟨least, most⟩ := ttl.mpr range
    exact ⟨least, most, some_value.mpr enabled, few ▸ bounded, short.mpr fits⟩

theorem exported_spec {served : List ServedRRset} {payload : Payload}
    (exports : exported host zone served = .ok payload) :
    host.validateDomain zone = .ok payload.zone ∧ payload.rrsets = canonicalRRsets served ∧
      payload.rrsets.length ≤ 10000 ∧ payload.contentSha256 = host.digest payload.rrsets := by
  unfold exported canonicalPayload at exports
  simp only [bind_eq_ok] at exports
  obtain ⟨named, valid, made⟩ := exports
  split at made
  · cases made
  · next fits =>
    cases made
    exact ⟨valid, rfl, Nat.le_of_not_lt fun large => fits (.inl large), rfl⟩

def TakenOver (zone : String) (payload : Payload) : Prop :=
  ∃ accepted, validatePayload host.digest zone payload.sent = .ok accepted ∧ accepted.rrsets = payload.rrsets ∧
    accepted.serial = payload.serial ∧ accepted.contentSha256 = payload.contentSha256

/-- An exported zone is taken over exactly when it was asked for under its
normal name and all its rrsets keep the limits that only the receiver states. -/
theorem exported_takenOver {zone : String} {served : List ServedRRset} {payload : Payload}
    (exports : exported host zone served = .ok payload) (qualified : ∀ rrset ∈ served, inside zone rrset.name) :
    TakenOver host zone payload ↔ host.validateDomain zone = .ok zone ∧
      ∀ rrset ∈ served, rrset.type ∈ recordTypes → Exportable rrset := by
  obtain ⟨named, read, few, summed⟩ := exported_spec host exports
  have within : ∀ rr ∈ payload.rrsets, inside zone rr.name := by
    intro rr member
    rw [read] at member
    obtain ⟨rrset, kept, rfl⟩ := List.mem_map.mp member
    exact qualified rrset (List.mem_filter.mp kept).1
  have limits : (∀ rr ∈ payload.rrsets, Receivable rr) ↔ ∀ rrset ∈ served, rrset.type ∈ recordTypes → Exportable rrset := by
    simp only [read, canonicalRRsets, List.forall_mem_map, List.mem_filter, decide_eq_true_eq, and_imp,
      receivable_canonicalRRset]
  have normal : payload.zone = zone ↔ host.validateDomain zone = .ok zone := by
    rw [named, Except.ok.injEq]
  rw [← limits, ← normal]
  constructor
  · rintro ⟨accepted, valid, _⟩
    exact ((validatePayload_sent few summed within).mp valid).2
  · intro fits
    exact ⟨_, (validatePayload_sent few summed within).mpr ⟨rfl, fits⟩, rfl, rfl, rfl⟩

def addressOnly : List ServedRRset :=
  [{ name := "example.com.", type := "A", ttl := some 300, records := [("192.0.2.1", false)] }]

/-- The same zone with a text that is switched off. -/
def withDisabledText : List ServedRRset :=
  addressOnly ++ [{ name := "example.com.", type := "TXT", ttl := some 300, records := [("\"parked\"", true)] }]

def addressHost : Host :=
  { outcome := fun _ => .done, cleanEndpoint := fun raw _ => .ok raw, validateDomain := .ok
    generatedKey := fun _ => "", template := fun _ _ => []
    digest := fun rrsets => if rrsets.length = 1 then
        "09d6ff2cee0d0a338979be34e455b2ceb6490544e9df1263c05e453c2df30139"
      else "b8c63a359b19f5edf99d84b1b2d7ccbbcbaf8d2565ab0be0e4513824cf779236" }

theorem exported_takenOver_address : ∃ payload, exported addressHost "example.com" addressOnly = .ok payload ∧
    TakenOver addressHost "example.com" payload := by
  have fits : ∀ rrset ∈ addressOnly, rrset.type ∈ recordTypes → Exportable rrset := by
    intro rrset member _
    obtain rfl := List.mem_singleton.mp member
    exact ⟨.inr (.inr ⟨300, rfl, by decide⟩), ⟨_, List.mem_cons_self, by decide⟩, by decide, by decide⟩
  exact ⟨_, rfl, (exported_takenOver addressHost rfl (by decide)).mpr ⟨rfl, fits⟩⟩

/-- A set whose records are all switched off is exported without values, and
stops its zone at every receiver. -/
theorem disabled_set_refused : ¬ ∀ (host : Host) (zone : String) (served : List ServedRRset) (payload : Payload),
    exported host zone served = .ok payload → (∀ rrset ∈ served, inside zone rrset.name) →
      TakenOver host zone payload := by
  intro always
  have refused (payload : Payload) (exports : exported addressHost "example.com" withDisabledText = .ok payload) :
      validatePayload addressHost.digest "example.com" payload.sent = .error "Invalid DNS cluster record values" := by
    cases exports
    rfl
  obtain ⟨accepted, taken, _⟩ := always addressHost "example.com" withDisabledText _ rfl (by decide)
  cases (refused _ rfl).symm.trans taken

end Boron.DnsCluster

namespace Boron.DnsCluster
open Checks
variable (host : Host)

/-- `DnsClusterReceipt` -/
structure Receipt where
  eventId : String
  peerId : Option Nat
  zone : String

/-- `DnsClusterZoneState` as a receiver uses it; the serial is the peer's word. -/
structure SerialState where
  peerId : Nat
  zone : String
  serial : Int
  contentSha256 : Option String

def SerialState.key (state : SerialState) : Nat × String := (state.peerId, state.zone)

/-- The database and PowerDNS of a receiver. -/
structure Receiver where
  peers : List Peer
  receipts : List Receipt
  states : List SerialState
  zones : String → Option (List ServedRRset)
  calls : Nat

/-- The outcome of every call to PowerDNS, and the records of a new zone. -/
structure Nameserver where
  outcome : Nat → Outcome
  created : String → List String → List ServedRRset

abbrev Receive := Sys Receiver String

variable (server : Nameserver)

def Receiver.put (r : Receiver) (zone : String) (content : Option (List ServedRRset)) : Receiver :=
  { r with zones := fun z => if z = zone then content else r.zones z }

def Receiver.asked (r : Receiver) : Receiver := { r with calls := r.calls + 1 }

def ask {α : Type} (zone : String)
    (serve : Option (List ServedRRset) → Except String (Option (List ServedRRset) × α)) : Receive α := ⟨fun r =>
  match server.outcome r.calls with
  | .failed => (.error "PowerDNS API error", r.asked)
  | .done => match serve (r.zones zone) with
    | .error reason => (.error reason, r.asked)
    | .ok (content, answer) => (.ok answer, r.asked.put zone content)
  | .lost => match serve (r.zones zone) with
    | .error reason => (.error reason, r.asked)
    | .ok (content, _) => (.error "response lost", r.asked.put zone content)⟩

/-- `powerdns.zone_exists`: any other status than 200 is a no. -/
def zoneExists (zone : String) : Receive Bool := ⟨fun r =>
  match server.outcome r.calls with
  | .failed => (.error "connection failed", r.asked)
  | .done => (.ok (r.zones zone).isSome, r.asked)
  | .lost => (.ok false, r.asked)⟩

def createZone (zone : String) (nameservers : List String) : Receive Unit :=
  ask server zone fun
    | none => .ok (some (server.created zone nameservers), ())
    | some _ => .error "PowerDNS API error 409"

/-- `powerdns.delete_zone`: a zone that is not there is deleted. -/
def deleteZone (zone : String) : Receive Unit := ask server zone fun _ => .ok (none, ())

def getZone (zone : String) : Receive (List ServedRRset) :=
  ask server zone fun
    | none => .error "PowerDNS API error 404"
    | some content => .ok (some content, content)

def RRset.key (rr : RRset) : String × String := (rr.name, rr.type)

def ServedRRset.key (rrset : ServedRRset) : String × String := (rrset.name, rrset.type)

inductive RRsetChange
  | delete (key : String × String)
  | replace (rr : RRset)

def RRset.served (rr : RRset) : ServedRRset :=
  { name := rr.name, type := rr.type, ttl := some rr.ttl, records := rr.values.map fun value => (value, false) }

def RRsetChange.apply (content : List ServedRRset) : RRsetChange → List ServedRRset
  | .delete key => Rows.drop ServedRRset.key key content
  | .replace rr => Rows.overwrite ServedRRset.key rr.served content

/-- `powerdns.apply_rrset_changes` -/
def applyRRsetChanges (zone : String) (changes : List RRsetChange) : Receive Unit :=
  if changes = [] then pure ()
  else ask server zone fun
    | none => .error "PowerDNS API error 404"
    | some content => .ok (some (changes.foldl RRsetChange.apply content), ())

def desired (rrsets : List RRset) : List RRset := Rows.dict RRset.key (rrsets.filter fun rr => rr.type ≠ "SOA")

def changesTo (existing : List ServedRRset) (rrsets : List RRset) : List RRsetChange :=
  (((existing.filter fun rrset => rrset.type ≠ "SOA" ∧ Rows.byKey RRset.key (desired rrsets) rrset.key = none).map
    ServedRRset.key).map .delete) ++ (desired rrsets).map .replace

/-- `name.rstrip(".")` -/
def withoutDots (name : String) : String := String.ofList (name.toList.reverse.dropWhile (· = '.')).reverse

def apexNameservers (zone : String) (rrsets : List RRset) : List String :=
  (rrsets.filter fun rr => rr.type = "NS" ∧ withoutDots rr.name = zone).flatMap RRset.values

inductive IncomingAction
  | upsert
  | delete
  deriving DecidableEq

/-- The parameters of `apply_incoming`; an unknown action is `none`. -/
structure IncomingEvent where
  eventId : String
  zone : String
  action : Option IncomingAction
  peerName : String
  payload : Incoming

inductive Answer
  | applied
  | duplicate
  deriving DecidableEq

def wellFormedId (eventId : String) : Bool :=
  eventId.length = 32 && eventId.toList.all fun c => c ∈ "0123456789abcdef".toList

def senderOf (r : Receiver) (event : IncomingEvent) (zone : String) : Except String Peer := do
  let peer ← orRaise ((Rows.byKey Peer.name r.peers event.peerName).filter fun peer => receives peer.direction)
    "This peer is not permitted to send DNS changes"
  raiseIf (¬ peerCovers peer zone) "This zone is outside the peer's ownership allowlist"
  return peer

/-- The check of a payload against the last one taken from the peer. -/
def checkSerial (state : Option SerialState) (accepted : Accepted) : Except String Unit :=
  match state with
  | none => .ok ()
  | some state => do
    raiseIf (accepted.serial < state.serial) "Stale DNS cluster serial was rejected"
    raiseIf (accepted.serial = state.serial ∧ state.contentSha256.any (· ≠ accepted.contentSha256))
      "Conflicting DNS data has the same serial; resolve it manually"

def prepareZone (zone : String) (rrsets : List RRset) : Receive Unit := do
  let found ← zoneExists server zone
  if found then pure ()
  else do
    let nameservers := apexNameservers zone rrsets
    Sys.ofExcept (raiseIf (nameservers = []) "Incoming zone has no apex nameservers")
    createZone server zone nameservers

def upsertZone (zone : String) (accepted : Accepted) : Receive Unit := do
  prepareZone server zone accepted.rrsets
  let existing ← getZone server zone
  applyRRsetChanges server zone (changesTo existing accepted.rrsets)

def Receiver.received (r : Receiver) (event : IncomingEvent) (peer : Peer) (zone : String) : Receiver :=
  let receipt : Receipt := { eventId := event.eventId, peerId := some peer.id, zone }
  { r with receipts := r.receipts ++ [receipt] }

def Receiver.tookOver (r : Receiver) (peer : Peer) (zone : String) (accepted : Accepted) : Receiver :=
  let state : SerialState :=
    { peerId := peer.id, zone, serial := accepted.serial, contentSha256 := some accepted.contentSha256 }
  { r with states := Rows.put SerialState.key state r.states }

def takeIn (event : IncomingEvent) (peer : Peer) (zone : String) : IncomingAction → Receive Unit
  | .delete => do
    deleteZone server zone
    Sys.modify fun r => r.received event peer zone
  | .upsert => do
    let accepted ← Sys.ofExcept (validatePayload host.digest zone event.payload)
    let r ← Sys.get
    Sys.ofExcept (checkSerial (Rows.byKey SerialState.key r.states (peer.id, zone)) accepted)
    upsertZone server zone accepted
    Sys.modify fun r => (r.received event peer zone).tookOver peer zone accepted

def applyIncoming (event : IncomingEvent) : Receive Answer := do
  Sys.ofExcept (raiseIf (¬ wellFormedId event.eventId) "Invalid DNS cluster event ID")
  let zone ← Sys.ofExcept (host.validateDomain event.zone)
  let action ← Sys.ofExcept (orRaise event.action "Invalid DNS cluster action")
  let r ← Sys.get
  let peer ← Sys.ofExcept (senderOf r event zone)
  if r.receipts.any (·.eventId = event.eventId) then pure .duplicate
  else do
    takeIn host server event peer zone action
    pure .applied

end Boron.DnsCluster
