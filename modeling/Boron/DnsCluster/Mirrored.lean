import Boron.DnsCluster.Incoming

namespace Boron.DnsCluster
open List Checks
variable {host : Host} {server : Nameserver}

structure ZoneRecord where
  name : String
  type : String
  ttl : Option Nat
  value : String
  deriving DecidableEq

def servedRecords (content : List ServedRRset) : List ZoneRecord :=
  (content.filter fun rrset => rrset.type ≠ "SOA").flatMap fun rrset => rrset.records.map fun record =>
    { name := rrset.name, type := rrset.type, ttl := rrset.ttl, value := record.1 }

def payloadRecords (rrsets : List RRset) : List ZoneRecord := servedRecords (rrsets.map RRset.served)

variable {content : List ServedRRset}

theorem mem_servedRecords {record : ZoneRecord} : record ∈ servedRecords content ↔ record.type ≠ "SOA" ∧
      ∃ rrset ∈ Rows.atKey ServedRRset.key content (record.name, record.type),
        rrset.ttl = record.ttl ∧ record.value ∈ rrset.records.map Prod.fst := by
  simp only [servedRecords, mem_flatMap, mem_filter, mem_map, decide_eq_true_eq, Rows.mem_atKey]
  constructor
  · rintro ⟨rrset, ⟨member, ordinary⟩, entry, listed, rfl⟩
    exact ⟨ordinary, rrset, ⟨member, rfl⟩, rfl, entry, listed, rfl⟩
  · rintro ⟨ordinary, rrset, ⟨member, named⟩, sameTtl, entry, listed, sameValue⟩
    obtain ⟨sameName, sameType⟩ := Prod.mk.inj named
    refine ⟨rrset, ⟨member, ?_⟩, entry, listed, ?_⟩
    · rw [sameType]
      exact ordinary
    · cases record
      simp_all only

variable {rrsets : List RRset}

theorem mem_payloadRecords {record : ZoneRecord} : record ∈ payloadRecords rrsets ↔ record.type ≠ "SOA" ∧
      ∃ rr ∈ rrsets, rr.key = (record.name, record.type) ∧ some rr.ttl = record.ttl ∧ record.value ∈ rr.values := by
  have values (rr : RRset) : rr.served.records.map Prod.fst = rr.values := by
    have plain : (Prod.fst ∘ fun value : String => (value, false)) = id := rfl
    rw [RRset.served, map_map, plain, map_id]
  rw [payloadRecords, mem_servedRecords]
  refine and_congr_right fun _ => ?_
  constructor
  · rintro ⟨rrset, listed, sameTtl, inside⟩
    obtain ⟨member, named⟩ := Rows.mem_atKey.mp listed
    obtain ⟨rr, known, rfl⟩ := mem_map.mp member
    exact ⟨rr, known, named, sameTtl, values rr ▸ inside⟩
  · rintro ⟨rr, known, named, sameTtl, inside⟩
    exact ⟨rr.served, Rows.mem_atKey.mpr ⟨mem_map_of_mem known, named⟩, sameTtl, (values rr).symm ▸ inside⟩

def lastWith (rrsets : List RRset) (key : String × String) : Option RRset :=
  (rrsets.filter fun rr => rr.key = key).getLast?

variable {key : String × String}

theorem byKey_desired (ordinary : key.2 ≠ "SOA") :
    Rows.byKey RRset.key (desired rrsets) key = lastWith rrsets key := by
  unfold desired lastWith
  rw [Rows.byKey_dict, filter_filter]
  refine congrArg getLast? (filter_congr fun rr _ => ?_)
  by_cases same : rr.key = key
  · have type : rr.type ≠ "SOA" := fun soa => ordinary (same ▸ soa)
    simp [same, type]
  · simp [same]

theorem byKey_served (rrsets : List RRset) (key : String × String) :
    Rows.byKey ServedRRset.key (rrsets.map RRset.served) key = (Rows.byKey RRset.key rrsets key).map RRset.served := by
  unfold Rows.byKey
  rw [List.find?_map]
  rfl

theorem deletes_eq (keys : List (String × String)) (content : List ServedRRset) :
    (keys.map RRsetChange.delete).foldl RRsetChange.apply content =
      keys.foldl (fun kept gone => Rows.drop ServedRRset.key gone kept) content := foldl_map

theorem replaces_eq (rrsets : List RRset) (content : List ServedRRset) :
    (rrsets.map RRsetChange.replace).foldl RRsetChange.apply content =
      (rrsets.map RRset.served).foldl (fun kept row => Rows.overwrite ServedRRset.key row kept) content := by
  rw [foldl_map, foldl_map]
  rfl

/-- What a patched zone serves under a name and type is what the payload lists
last for them. -/
theorem atKey_changed {existing : List ServedRRset}     (ordinary : key.2 ≠ "SOA") :
    Rows.atKey ServedRRset.key ((changesTo existing rrsets).foldl RRsetChange.apply existing) key =
      ((lastWith rrsets key).map RRset.served).toList := by
  have unique : Rows.Unique ServedRRset.key ((desired rrsets).map RRset.served) := by
    have keys : ((desired rrsets).map RRset.served).map ServedRRset.key = (desired rrsets).map RRset.key := by
      rw [map_map]
      rfl
    unfold Rows.Unique
    rw [keys]
    exact Rows.unique_dict _
  unfold changesTo
  rw [foldl_append, deletes_eq, replaces_eq, Rows.atKey_overwriteAll unique, byKey_served, byKey_desired ordinary]
  cases listed : lastWith rrsets key with
  | some rr => rfl
  | none =>
    simp only [Option.map_none, Option.toList_none]
    rw [Rows.atKey_dropAll]
    split
    · rfl
    · next kept =>
      rw [eq_nil_iff_forall_not_mem]
      intro rrset member
      obtain ⟨inside, named⟩ := Rows.mem_atKey.mp member
      refine kept (mem_map.mpr ⟨rrset, mem_filter.mpr ⟨inside, decide_eq_true ⟨?_, ?_⟩⟩, named⟩)
      · exact fun soa => ordinary (named ▸ soa)
      · rw [named, byKey_desired ordinary, listed]

/-- Entries for the same name and type do not lose anything to the last of them. -/
def Consistent (rrsets : List RRset) : Prop :=
  ∀ rr ∈ rrsets, rr.type ≠ "SOA" → ∀ last ∈ lastWith rrsets rr.key,
    last.ttl = rr.ttl ∧ ∀ value ∈ rr.values, value ∈ last.values

instance (rrsets : List RRset) : Decidable (Consistent rrsets) :=
  inferInstanceAs (Decidable (∀ rr ∈ rrsets, rr.type ≠ "SOA" → ∀ last ∈ lastWith rrsets rr.key,
    last.ttl = rr.ttl ∧ ∀ value ∈ rr.values, value ∈ last.values))

theorem lastWith_some {last : RRset}
    (found : lastWith rrsets key = some last) : last ∈ rrsets ∧ last.key = key := by
  have member := List.mem_of_getLast? found
  obtain ⟨inside, named⟩ := mem_filter.mp member
  exact ⟨inside, of_decide_eq_true named⟩

theorem lastWith_isSome {rr : RRset} (member : rr ∈ rrsets) : ∃ last, lastWith rrsets rr.key = some last := by
  have some_entry : rrsets.filter (fun other => other.key = rr.key) ≠ [] :=
    ne_nil_of_mem (mem_filter.mpr ⟨member, decide_eq_true rfl⟩)
  exact ⟨_, getLast?_eq_some_getLast some_entry⟩

/-- The patched zone has the records of the payload exactly when no entry is
overruled by a later one. -/
theorem changed_records (existing : List ServedRRset) (filled : ∀ rr ∈ rrsets, rr.values ≠ []) :
    (∀ record, record ∈ servedRecords ((changesTo existing rrsets).foldl RRsetChange.apply existing) ↔
      record ∈ payloadRecords rrsets) ↔ Consistent rrsets := by
  have after (record : ZoneRecord) :
      record ∈ servedRecords ((changesTo existing rrsets).foldl RRsetChange.apply existing) ↔
        record.type ≠ "SOA" ∧ ∃ last, lastWith rrsets (record.name, record.type) = some last ∧
          some last.ttl = record.ttl ∧ record.value ∈ last.values := by
    rw [mem_servedRecords]
    refine and_congr_right fun ordinary => ?_
    rw [atKey_changed ordinary]
    cases lastWith rrsets (record.name, record.type) with
    | none => simp
    | some last => simp [RRset.served]
  constructor
  · intro equal rr member ordinary last found
    have listed (value : String) (inside : value ∈ rr.values) : last.ttl = rr.ttl ∧ value ∈ last.values := by
      have present := (equal ⟨rr.name, rr.type, some rr.ttl, value⟩).mpr
        (mem_payloadRecords.mpr ⟨ordinary, rr, member, rfl, rfl, inside⟩)
      obtain ⟨_, other, found', sameTtl, kept⟩ := (after _).mp present
      have same : last = other := Option.some.inj (found.symm.trans found')
      subst same
      exact ⟨Option.some.inj sameTtl, kept⟩
    obtain ⟨value, inside⟩ := exists_mem_of_ne_nil _ (filled rr member)
    exact ⟨(listed value inside).1, fun value inside => (listed value inside).2⟩
  · intro consistent record
    rw [after, mem_payloadRecords]
    refine and_congr_right fun ordinary => ?_
    constructor
    · rintro ⟨last, found, sameTtl, inside⟩
      obtain ⟨member, named⟩ := lastWith_some found
      exact ⟨last, member, named, sameTtl, inside⟩
    · rintro ⟨rr, member, named, sameTtl, inside⟩
      obtain ⟨last, found⟩ := lastWith_isSome member
      have type : rr.type ≠ "SOA" := fun soa => ordinary ((congrArg Prod.snd named).symm.trans soa)
      obtain ⟨kept, values⟩ := consistent rr member type last found
      exact ⟨last, named ▸ found, by rw [kept, sameTtl], values _ inside⟩

variable {zone : String}

theorem validateRRset_nonempty {entry : Option IncomingRRset} {rr : RRset}
    (valid : validateRRset zone entry = .ok rr) : rr.values ≠ [] := by
  unfold validateRRset at valid
  simp only [bind_eq_ok, pure_eq_ok, raiseIf_eq_ok, orRaise_eq_ok, not_or] at valid
  obtain ⟨found, _, _, _, ttl, _, _, ⟨_, listed, _⟩, values, given, _, _, rfl⟩ := valid
  cases entries : found.values.getD [] with
  | nil => exact absurd entries listed
  | cons value rest =>
    rw [entries, mapM_cons] at given
    obtain ⟨first, _, later, _, same⟩ : ∃ first, id value = some first ∧ ∃ later, rest.mapM id = some later ∧
        some (first :: later) = some values := by
      simpa only [bind, Option.bind_eq_some_iff, pure] using given
    cases same
    exact cons_ne_nil _ _

theorem validated {entries : List (Option IncomingRRset)} {clean : List RRset}
    (valid : entries.mapM (validateRRset zone) = .ok clean) :
    ∀ rr ∈ clean, ∃ entry, validateRRset zone entry = .ok rr := by
  induction entries generalizing clean with
  | nil =>
    rw [mapM_nil, pure_eq_ok] at valid
    subst valid
    exact fun rr member => nomatch member
  | cons entry rest ih =>
    rw [mapM_cons] at valid
    simp only [bind_eq_ok, pure_eq_ok] at valid
    obtain ⟨first, checked, later, others, rfl⟩ := valid
    intro rr member
    rcases mem_cons.mp member with rfl | inside
    · exact ⟨entry, checked⟩
    · exact ih others rr inside

theorem accepted_nonempty {digest : List RRset → String} {payload : Incoming} {accepted : Accepted}
    (valid : validatePayload digest zone payload = .ok accepted) : ∀ rr ∈ accepted.rrsets, rr.values ≠ [] := by
  unfold validatePayload at valid
  simp only [bind_eq_ok, pure_eq_ok] at valid
  obtain ⟨_, _, entries, _, clean, checked, _, _, serial, _, rfl⟩ := valid
  intro rr member
  obtain ⟨entry, valid⟩ := validated checked rr member
  exact validateRRset_nonempty valid

variable {r r' : Receiver}

theorem ask_ok {α : Type} {serve : Option (List ServedRRset) → Except String (Option (List ServedRRset) × α)}
    {answer : α} (ran : (ask server zone serve).run r = (.ok answer, r')) :
    ∃ content, serve (r.zones zone) = .ok (content, answer) ∧ r' = r.asked.put zone content := by
  unfold ask at ran
  dsimp only at ran
  cases outcome : server.outcome r.calls with
  | failed =>
    rw [outcome] at ran
    cases ran
  | done =>
    rw [outcome] at ran
    cases served : serve (r.zones zone) with
    | error reason =>
      rw [served] at ran
      cases ran
    | ok result =>
      rw [served] at ran
      cases ran
      exact ⟨result.1, rfl, rfl⟩
  | lost =>
    rw [outcome] at ran
    cases served : serve (r.zones zone) with
    | error reason =>
      rw [served] at ran
      cases ran
    | ok result =>
      rw [served] at ran
      cases ran

theorem getZone_ok (ran : (getZone server zone).run r = (.ok content, r')) : r'.zones zone = some content := by
  obtain ⟨kept, served, rfl⟩ := ask_ok ran
  cases held : r.zones zone with
  | none =>
    rw [held] at served
    cases served
  | some found =>
    rw [held] at served
    cases served
    exact if_pos rfl

theorem applyRRsetChanges_ok {changes : List RRsetChange} (held : r.zones zone = some content) (ran : (applyRRsetChanges server zone changes).run r = (.ok (), r')) :
    r'.zones zone = some (changes.foldl RRsetChange.apply content) := by
  unfold applyRRsetChanges at ran
  split at ran
  · next none =>
    cases ran
    rw [none, held]
    rfl
  · obtain ⟨kept, served, rfl⟩ := ask_ok ran
    rw [held] at served
    cases served
    exact if_pos rfl

theorem upsertZone_ok {accepted : Accepted} (ran : (upsertZone server zone accepted).run r = (.ok (), r')) :
    ∃ existing, r'.zones zone = some ((changesTo existing accepted.rrsets).foldl RRsetChange.apply existing) := by
  obtain ⟨_, prepared, _, ran⟩ := Sys.bind_eq_ok.mp ran
  obtain ⟨existing, read, got, ran⟩ := Sys.bind_eq_ok.mp ran
  exact ⟨existing, applyRRsetChanges_ok (getZone_ok got) ran⟩

/-- An applied event has passed every check. -/
theorem applyIncoming_ok {event : IncomingEvent} (ran : (applyIncoming host server event).run r = (.ok .applied, r')) :
    ∃ zone action peer, host.validateDomain event.zone = .ok zone ∧ event.action = some action ∧
      senderOf r event zone = .ok peer ∧ (takeIn host server event peer zone action).run r = (.ok (), r') := by
  obtain ⟨_, _, ran⟩ := Sys.ofExcept_bind_ok ran
  obtain ⟨zone, named, ran⟩ := Sys.ofExcept_bind_ok ran
  obtain ⟨action, asked, ran⟩ := Sys.ofExcept_bind_ok ran
  obtain ⟨peer, sender, ran⟩ := Sys.ofExcept_bind_ok ran
  split at ran
  · cases ran
  · obtain ⟨_, mid, taken, ran⟩ := Sys.bind_eq_ok.mp ran
    cases ran
    exact ⟨zone, action, peer, named, orRaise_eq_ok.mp asked, sender, taken⟩

/-- After an applied upsert the stored checksum is that of the payload, and the
zone has the records of the payload exactly when no entry is overruled by a
later one of its name and type. -/
theorem upsert_mirrored {event : IncomingEvent} {r r' : Receiver} {zone : String} {accepted : Accepted}
    (ran : (applyIncoming host server event).run r = (.ok .applied, r')) (upserts : event.action = some .upsert)
    (named : host.validateDomain event.zone = .ok zone)
    (valid : validatePayload host.digest zone event.payload = .ok accepted) :
    (∃ state ∈ r'.states, state.zone = zone ∧ state.contentSha256 = some accepted.contentSha256) ∧
      ((∃ content, r'.zones zone = some content ∧
        ∀ record, record ∈ servedRecords content ↔ record ∈ payloadRecords accepted.rrsets) ↔
        Consistent accepted.rrsets) := by
  obtain ⟨zone', action, peer, named', upserts', _, taken⟩ := applyIncoming_ok ran
  cases named.symm.trans named'
  cases upserts.symm.trans upserts'
  obtain ⟨accepted', valid', taken⟩ := Sys.ofExcept_bind_ok taken
  cases valid.symm.trans valid'
  rw [Sys.run_get_bind] at taken
  obtain ⟨_, _, taken⟩ := Sys.ofExcept_bind_ok taken
  obtain ⟨_, served, patched, written⟩ := Sys.bind_eq_ok.mp taken
  cases written
  obtain ⟨existing, content⟩ := upsertZone_ok patched
  constructor
  · let state : SerialState :=
      { peerId := peer.id, zone, serial := accepted.serial, contentSha256 := some accepted.contentSha256 }
    have found : Rows.byKey SerialState.key (Rows.put SerialState.key state served.states) state.key = some state := by
      rw [Rows.byKey_put, if_pos rfl]
    exact ⟨state, (Rows.byKey_some found).1, rfl, rfl⟩
  · rw [← changed_records existing (accepted_nonempty valid)]
    have after : ((served.received event peer zone).tookOver peer zone accepted).zones zone =
        some ((changesTo existing accepted.rrsets).foldl RRsetChange.apply existing) := content
    rw [after]
    simp only [Option.some.injEq, exists_eq_left']

def nameserversOnly : IncomingRRset :=
  { type := "NS", name := "example.com.", ttl := some 3600, values := some [some "ns1.example.net."] }

def addressAt (address : String) : IncomingRRset :=
  { type := "A", name := "www.example.com.", ttl := some 300, values := some [some address] }

def addressesPayload (serial : Int) (addresses : List String) : Incoming :=
  { version := some 2, zone := "example.com", serial := some serial, contentSha256 := none
    rrsets := some (some nameserversOnly :: addresses.map fun address => some (addressAt address)) }

def fromPeer (eventId : String) (action : IncomingAction) (payload : Incoming) : IncomingEvent :=
  { eventId, zone := "example.com", action := some action, peerName := "hidden primary", payload }

def mirrorHost : Host :=
  { outcome := fun _ => .done, cleanEndpoint := fun raw _ => .ok raw, validateDomain := .ok
    generatedKey := fun _ => "", template := fun _ _ => []
    digest := fun rrsets => if rrsets.length = 2 then
        "c43cc7430b7290d042f6cc61325b98c81da988de2092efc3ee4b4d8e304ef582"
      else "f79fd12db9712294cdc360a3390d594717901da236e7822a2dd99b4c512b20db" }

/-- A PowerDNS that answers every call. -/
def answering : Nameserver :=
  { outcome := fun _ => .done
    created := fun zone nameservers =>
      [{ name := zone ++ ".", type := "NS", ttl := some 3600, records := nameservers.map fun value => (value, false) }] }

def hiddenPrimary : Peer :=
  { id := 1, name := "hidden primary", peerType := .boron, endpoint := "https://dns.example.net", username := none
    credential := "bdc_key", verifyTls := true, enabled := true, direction := .receive, zones := ["example.com"] }

def listening : Receiver := { peers := [hiddenPrimary], receipts := [], states := [], zones := fun _ => none, calls := 0 }

def firstEvent (addresses : List String) : IncomingEvent :=
  fromPeer "0123456789abcdef0123456789abcdef" .upsert (addressesPayload 7 addresses)

theorem upsert_mirrored_address : ∃ content,
    ((applyIncoming mirrorHost answering (firstEvent ["192.0.2.1"])).run listening).2.zones "example.com" = some content ∧
      ∀ record, record ∈ servedRecords content ↔ record ∈ servedRecords
        [{ name := "example.com.", type := "NS", ttl := some 3600, records := [("ns1.example.net.", false)] },
         { name := "www.example.com.", type := "A", ttl := some 300, records := [("192.0.2.1", false)] }] :=
  (@upsert_mirrored mirrorHost answering (firstEvent ["192.0.2.1"]) listening _ "example.com" _ rfl rfl rfl rfl).2.mpr
    (by decide)

/-- Two entries for one name: the receiver answers that it applied both and
serves only the second. -/
theorem first_entry_lost : ¬ ∀ (host : Host) (server : Nameserver) (event : IncomingEvent) (r r' : Receiver)
    (zone : String) (accepted : Accepted), (applyIncoming host server event).run r = (.ok .applied, r') →
    event.action = some .upsert → host.validateDomain event.zone = .ok zone →
    validatePayload host.digest zone event.payload = .ok accepted →
    ∃ content, r'.zones zone = some content ∧
      ∀ record, record ∈ servedRecords content ↔ record ∈ payloadRecords accepted.rrsets := by
  intro always
  obtain ⟨content, served, equal⟩ := always mirrorHost answering (firstEvent ["192.0.2.1", "192.0.2.2"]) listening
    _ "example.com" _ rfl rfl rfl rfl
  cases served
  have present := (equal ⟨"www.example.com.", "A", some 300, "192.0.2.1"⟩).mpr (by decide)
  exact absurd present (by decide)

end Boron.DnsCluster
