import Boron.DnsCluster.Mirrored

namespace Boron.DnsCluster
open Checks
variable {host : Host} {server : Nameserver}

def rowOf (r : Receiver) (peerId : Nat) (zone : String) : Option SerialState :=
  Rows.byKey SerialState.key r.states (peerId, zone)

/-- What happens at a receiver: an event arrives, its own queue delivers an
upsert or a delete to a peer, a peer is deleted, and administrators change
peers and zones. -/
inductive ReceiverTurn
  | incoming (event : IncomingEvent)
  | deliveredUpsert (peerId : Nat) (zone : String) (payload : Payload)
  | deliveredDelete (peerId : Nat) (zone : String)
  | deletePeer (peerId : Nat)
  | changePeers (peers : List Peer)
  | changeZones (zones : String → Option (List ServedRRset))

/-- The zone state is written and deleted by the last session of `process_one`
as well. -/
def ReceiverTurn.step (host : Host) (server : Nameserver) (r : Receiver) : ReceiverTurn → Receiver
  | .incoming event => ((applyIncoming host server event).run r).2
  | .deliveredUpsert peerId zone payload =>
    let state : SerialState :=
      { peerId, zone, serial := payload.serial, contentSha256 := some payload.contentSha256 }
    { r with states := Rows.put SerialState.key state r.states }
  | .deliveredDelete peerId zone => { r with states := Rows.drop SerialState.key (peerId, zone) r.states }
  | .deletePeer peerId =>
    let orphaned (receipt : Receipt) : Receipt :=
      if receipt.peerId = some peerId then { receipt with peerId := none } else receipt
    { r with
      peers := r.peers.filter fun peer => peer.id ≠ peerId
      states := r.states.filter fun state => state.peerId ≠ peerId
      receipts := r.receipts.map orphaned }
  | .changePeers peers => { r with peers }
  | .changeZones zones => { r with zones }

def ReceiverTurn.Concerns (host : Host) (peerId : Nat) (zone : String) : ReceiverTurn → Prop
  | .incoming event => event.action = some .upsert ∧ host.validateDomain event.zone = .ok zone
  | .deliveredUpsert peer other _ => peer = peerId ∧ other = zone
  | .deliveredDelete peer other => peer = peerId ∧ other = zone
  | .deletePeer peer => peer = peerId
  | .changePeers _ => False
  | .changeZones _ => False

/-- The last serial taken from the peer lets the payload through. -/
def Admitted (state : Option SerialState) (accepted : Accepted) : Prop :=
  ∀ last ∈ state, last.serial < accepted.serial ∨
    last.serial = accepted.serial ∧ ∀ sum ∈ last.contentSha256, sum = accepted.contentSha256

variable {accepted : Accepted}

theorem checkSerial_ok {state : Option SerialState} :
    checkSerial state accepted = .ok () ↔ Admitted state accepted := by
  cases state with
  | none => exact ⟨fun _ last member => (nomatch member), fun _ => rfl⟩
  | some last =>
    have conflict : (last.contentSha256.any (· ≠ accepted.contentSha256)) = true ↔
        ¬ ∀ sum ∈ last.contentSha256, sum = accepted.contentSha256 := by
      cases last.contentSha256 <;> simp
    simp only [checkSerial, bind_eq_ok, raiseIf_eq_ok, exists_const, conflict, not_and, not_not, not_lt]
    constructor
    · rintro ⟨fresh, agreeing⟩ _ ⟨⟩
      rcases lt_or_eq_of_le fresh with newer | same
      · exact .inl newer
      · exact .inr ⟨same, agreeing same.symm⟩
    · intro admitted
      rcases admitted last rfl with newer | ⟨same, agreeing⟩
      · exact ⟨newer.le, fun same => absurd same newer.ne'⟩
      · exact ⟨same.le, fun _ => agreeing⟩

def SameRow (peerId : Nat) (zone : String) (r r' : Receiver) : Prop := rowOf r' peerId zone = rowOf r peerId zone

instance (peerId : Nat) (zone : String) : Std.Refl (SameRow peerId zone) := ⟨fun _ => rfl⟩

instance (peerId : Nat) (zone : String) : IsTrans Receiver (SameRow peerId zone) :=
  ⟨fun _ _ _ first second => Eq.trans second first⟩

section
variable {peerId : Nat} {zone : String}

theorem ask_sameRow {α : Type} (asked : String)
    (serve : Option (List ServedRRset) → Except String (Option (List ServedRRset) × α)) :
    Sys.Keeps (SameRow peerId zone) (ask server asked serve) := by
  intro r
  have kept (content : Option (List ServedRRset)) : SameRow peerId zone r (r.asked.put asked content) := rfl
  unfold ask
  dsimp only
  cases server.outcome r.calls with
  | failed => exact Eq.refl _
  | done => cases serve (r.zones asked) with
    | error reason => exact Eq.refl _
    | ok result => exact kept result.1
  | lost => cases serve (r.zones asked) with
    | error reason => exact Eq.refl _
    | ok result => exact kept result.1

theorem zoneExists_sameRow (asked : String) : Sys.Keeps (SameRow peerId zone) (zoneExists server asked) := by
  intro r
  unfold zoneExists
  dsimp only
  cases server.outcome r.calls <;> exact Eq.refl _

theorem upsertZone_sameRow (asked : String) (accepted : Accepted) :
    Sys.Keeps (SameRow peerId zone) (upsertZone server asked accepted) := by
  have prepared : Sys.Keeps (SameRow peerId zone) (prepareZone server asked accepted.rrsets) := by
    refine (zoneExists_sameRow asked).bind fun found => ?_
    cases found with
    | true => exact Sys.Keeps.pure ()
    | false => exact (Sys.Keeps.ofExcept _).bind fun _ => ask_sameRow asked _
  refine prepared.bind fun _ => (ask_sameRow asked _).bind fun existing => ?_
  unfold applyRRsetChanges
  split
  · exact Sys.Keeps.pure ()
  · exact ask_sameRow asked _

theorem takeIn_sameRow {event : IncomingEvent} {peer : Peer} {asked : String} {action : IncomingAction}
    (elsewhere : ¬ (action = .upsert ∧ asked = zone)) :
    Sys.Keeps (SameRow peerId zone) (takeIn host server event peer asked action) := by
  cases action with
  | delete => exact (ask_sameRow asked _).bind fun _ => Sys.Keeps.modify fun r => Eq.refl _
  | upsert =>
    have different : asked ≠ zone := fun same => elsewhere ⟨rfl, same⟩
    refine (Sys.Keeps.ofExcept _).bind fun accepted => Sys.Keeps.get.bind fun r => (Sys.Keeps.ofExcept _).bind fun _ =>
      (upsertZone_sameRow asked accepted).bind fun _ => Sys.Keeps.modify fun r => ?_
    unfold SameRow rowOf Receiver.tookOver Receiver.received
    rw [Rows.byKey_put, if_neg]
    exact fun same => different (Prod.mk.inj same).2

theorem applyIncoming_sameRow {event : IncomingEvent}
    (elsewhere : ¬ (event.action = some .upsert ∧ host.validateDomain event.zone = .ok zone)) :
    Sys.Keeps (SameRow peerId zone) (applyIncoming host server event) := by
  intro r
  refine Sys.Keeps.bind_at (Sys.Keeps.ofExcept _ r) fun _ mid _ => ?_
  refine Sys.Keeps.bind_at (Sys.Keeps.ofExcept _ mid) fun asked mid named => ?_
  refine Sys.Keeps.bind_at (Sys.Keeps.ofExcept _ mid) fun action mid acts => ?_
  refine Sys.Keeps.bind_at (Sys.Keeps.get mid) fun seen mid _ => ?_
  refine Sys.Keeps.bind_at (Sys.Keeps.ofExcept _ mid) fun peer mid _ => ?_
  split
  · exact Eq.refl _
  · refine Sys.Keeps.bind_at (takeIn_sameRow ?_ mid) fun _ mid _ => Eq.refl _
    rintro ⟨rfl, rfl⟩
    exact elsewhere ⟨orRaise_eq_ok.mp (Prod.mk.inj acts).1, (Prod.mk.inj named).1⟩

theorem ReceiverTurn.sameRow {turn : ReceiverTurn} (elsewhere : ¬ turn.Concerns host peerId zone) (r : Receiver) :
    SameRow peerId zone r (turn.step host server r) := by
  cases turn with
  | incoming event => exact applyIncoming_sameRow elsewhere r
  | deliveredUpsert peer other payload =>
    unfold SameRow rowOf ReceiverTurn.step
    rw [Rows.byKey_put, if_neg]
    exact fun same => elsewhere (Prod.mk.inj same)
  | deliveredDelete peer other =>
    unfold SameRow rowOf ReceiverTurn.step
    rw [Rows.byKey_drop, if_neg]
    exact fun same => elsewhere (Prod.mk.inj same)
  | deletePeer peer =>
    unfold SameRow rowOf ReceiverTurn.step Rows.byKey
    rw [List.find?_filter]
    refine congrArg (r.states.find? ·) (funext fun state => ?_)
    by_cases asked : state.key = (peerId, zone)
    · have other : state.peerId ≠ peer := fun same => elsewhere (same.symm.trans (Prod.mk.inj asked).1)
      simp [asked, other]
    · simp [asked]
  | changePeers peers => exact Eq.refl _
  | changeZones zones => exact Eq.refl _

theorem turns_sameRow {turns : List ReceiverTurn} (elsewhere : ∀ turn ∈ turns, ¬ turn.Concerns host peerId zone)
    (r : Receiver) : SameRow peerId zone r (turns.foldl (ReceiverTurn.step host server) r) := by
  induction turns generalizing r with
  | nil => exact Eq.refl _
  | cons turn rest ih =>
    exact (ih (fun other member => elsewhere other (List.mem_cons_of_mem _ member)) _).trans
      (ReceiverTurn.sameRow (elsewhere turn List.mem_cons_self) r)

end

variable {zone : String} {r : Receiver}

theorem ask_done {α : Type} {serve : Option (List ServedRRset) → Except String (Option (List ServedRRset) × α)}
    {content : Option (List ServedRRset)} {answer : α} (answered : server.outcome r.calls = .done)
    (served : serve (r.zones zone) = .ok (content, answer)) :
    (ask server zone serve).run r = (.ok answer, r.asked.put zone content) := by
  simp only [ask, answered, served]

/-- PowerDNS answers every call from now on. -/
def Answers (server : Nameserver) (r : Receiver) : Prop := ∀ call, r.calls ≤ call → server.outcome call = .done

theorem Answers.asked (answers : Answers server r) : Answers server r.asked :=
  fun call later => answers call (Nat.le_of_succ_le later)

theorem prepareZone_done {rrsets : List RRset} (answers : Answers server r)
    (apex : apexNameservers zone rrsets ≠ []) :
    ∃ r', (prepareZone server zone rrsets).run r = (.ok (), r') ∧ Answers server r' ∧ ∃ content, r'.zones zone = some content := by
  have found : (zoneExists server zone).run r = (.ok (r.zones zone).isSome, r.asked) := by
    simp only [zoneExists, answers r.calls le_rfl]
  unfold prepareZone
  rw [Sys.bind_of_ok found]
  cases held : r.zones zone with
  | some content => exact ⟨r.asked, rfl, answers.asked, content, held⟩
  | none =>
    have checked : (Sys.ofExcept (raiseIf (apexNameservers zone rrsets = []) "Incoming zone has no apex nameservers") :
        Receive Unit).run r.asked = (.ok (), r.asked) := Prod.ext (raiseIf_eq_ok.mpr apex) rfl
    simp only [Option.isSome_none, Bool.false_eq_true, if_false]
    rw [Sys.bind_of_ok checked]
    let content := server.created zone (apexNameservers zone rrsets)
    have made : (createZone server zone (apexNameservers zone rrsets)).run r.asked =
        (.ok (), r.asked.asked.put zone (some content)) := by
      have missing : r.asked.zones zone = none := held
      exact ask_done (answers.asked _ le_rfl) (by rw [missing])
    exact ⟨_, made, answers.asked.asked, content, if_pos rfl⟩

theorem upsertZone_done (answers : Answers server r)
    (apex : apexNameservers zone accepted.rrsets ≠ []) : ∃ r', (upsertZone server zone accepted).run r = (.ok (), r') := by
  obtain ⟨mid, prepared, answers, content, held⟩ := prepareZone_done answers apex
  have read : (getZone server zone).run mid = (.ok content, mid.asked.put zone (some content)) :=
    ask_done (answers _ le_rfl) (by rw [held])
  unfold upsertZone
  rw [Sys.bind_of_ok prepared, Sys.bind_of_ok read]
  unfold applyRRsetChanges
  split
  · exact ⟨_, rfl⟩
  · have present : (mid.asked.put zone (some content)).zones zone = some content := if_pos rfl
    let patched := (changesTo content accepted.rrsets).foldl RRsetChange.apply content
    refine ⟨(mid.asked.put zone (some content)).asked.put zone (some patched), ask_done (answers.asked _ le_rfl) ?_⟩
    rw [present]

/-- An event with a new id, from a peer that may send it. -/
structure Permitted (host : Host) (r : Receiver) (event : IncomingEvent) (peer : Peer) (zone : String) : Prop where
  wellFormed : wellFormedId event.eventId
  named : host.validateDomain event.zone = .ok zone
  sender : senderOf r event zone = .ok peer
  fresh : ∀ receipt ∈ r.receipts, receipt.eventId ≠ event.eventId

theorem Permitted.run {event : IncomingEvent} {peer : Peer} {action : IncomingAction}
    (permitted : Permitted host r event peer zone) (acts : event.action = some action) :
    (applyIncoming host server event).run r =
      (do takeIn host server event peer zone action; pure Answer.applied : Receive Answer).run r := by
  obtain ⟨wellFormed, named, sender, fresh⟩ := permitted
  have unseen : ¬ r.receipts.any (fun receipt => receipt.eventId = event.eventId) = true := by
    rw [List.any_eq_true]
    rintro ⟨receipt, member, same⟩
    exact fresh receipt member (of_decide_eq_true same)
  unfold applyIncoming
  rw [Sys.ofExcept_bind ((raiseIf_eq_ok (u := ())).mpr (not_not.mpr wellFormed)), Sys.ofExcept_bind named,
    Sys.ofExcept_bind (orRaise_eq_ok.mpr acts), Sys.run_get_bind, Sys.ofExcept_bind sender, if_neg unseen]

/-- The receiver takes an upsert in exactly when the last serial of its peer
lets it. -/
theorem upsert_applied {event : IncomingEvent} {peer : Peer} (permitted : Permitted host r event peer zone) (upserts : event.action = some .upsert)
    (valid : validatePayload host.digest zone event.payload = .ok accepted)
    (apex : apexNameservers zone accepted.rrsets ≠ []) (answers : Answers server r) :
    ((applyIncoming host server event).run r).1 = .ok .applied ↔ Admitted (rowOf r peer.id zone) accepted := by
  rw [permitted.run upserts, ← checkSerial_ok]
  have taken : (takeIn host server event peer zone .upsert).run r = (do
      Sys.ofExcept (checkSerial (rowOf r peer.id zone) accepted)
      upsertZone server zone accepted
      Sys.modify fun r => (r.received event peer zone).tookOver peer zone accepted : Receive Unit).run r := by
    unfold takeIn
    rw [Sys.ofExcept_bind valid, Sys.run_get_bind]
    rfl
  cases checked : checkSerial (rowOf r peer.id zone) accepted with
  | ok done =>
    obtain ⟨r', patched⟩ := upsertZone_done answers apex
    rw [checked, Sys.ofExcept_bind rfl, Sys.bind_of_ok patched] at taken
    rw [Sys.bind_of_ok taken]
    exact ⟨fun _ => rfl, fun _ => rfl⟩
  | error reason =>
    have refused : (takeIn host server event peer zone .upsert).run r = (.error reason, r) := by
      rw [taken, checked]
      rfl
    rw [Sys.bind_of_error refused]
    exact ⟨fun ended => (nomatch ended), fun ended => (nomatch ended)⟩

theorem delete_ok {r r' : Receiver} {deletion : IncomingEvent} (deletes : deletion.action = some .delete)
    (named : host.validateDomain deletion.zone = .ok zone)
    (deleted : (applyIncoming host server deletion).run r = (.ok .applied, r')) : r'.zones zone = none := by
  obtain ⟨zone', action, peer, named', acts, _, taken⟩ := applyIncoming_ok deleted
  cases named.symm.trans named'
  cases deletes.symm.trans acts
  obtain ⟨_, mid, gone, written⟩ := Sys.bind_eq_ok.mp taken
  obtain ⟨content, served, rfl⟩ := ask_ok gone
  cases served
  cases written
  exact if_pos rfl

/-- After a delete, whatever happens next, an upsert of the zone is taken in
exactly when the serial kept for its peer lets it: and that is the one from
before the delete, until a turn for the peer and the zone. -/
theorem recreated {r r' : Receiver} {deletion event : IncomingEvent} {peer : Peer} {zone : String}
    {accepted : Accepted} {turns : List ReceiverTurn} (deletes : deletion.action = some .delete)
    (gone : host.validateDomain deletion.zone = .ok zone)
    (deleted : (applyIncoming host server deletion).run r = (.ok .applied, r'))
    (again : Permitted host (turns.foldl (ReceiverTurn.step host server) r') event peer zone)
    (upserts : event.action = some .upsert)
    (valid : validatePayload host.digest zone event.payload = .ok accepted)
    (apex : apexNameservers zone accepted.rrsets ≠ [])
    (answers : Answers server (turns.foldl (ReceiverTurn.step host server) r')) :
    r'.zones zone = none ∧
    (((applyIncoming host server event).run (turns.foldl (ReceiverTurn.step host server) r')).1 = .ok .applied ↔
      Admitted (rowOf (turns.foldl (ReceiverTurn.step host server) r') peer.id zone) accepted) ∧
    ((∀ turn ∈ turns, ¬ turn.Concerns host peer.id zone) →
      rowOf (turns.foldl (ReceiverTurn.step host server) r') peer.id zone = rowOf r peer.id zone) := by
  refine ⟨delete_ok deletes gone deleted, upsert_applied again upserts valid apex answers, fun elsewhere => ?_⟩
  have kept : SameRow peer.id zone r ((applyIncoming host server deletion).run r).2 :=
    applyIncoming_sameRow (fun both => nomatch deletes.symm.trans both.1) r
  rw [deleted] at kept
  exact (turns_sameRow elsewhere r').trans kept

def deletion : IncomingEvent := fromPeer "00000000000000000000000000000001" .delete (addressesPayload 0 [])

def secondEvent (serial : Int) : IncomingEvent :=
  fromPeer "00000000000000000000000000000002" .upsert (addressesPayload serial ["192.0.2.1"])

theorem recreated_unheard : ((applyIncoming mirrorHost answering (secondEvent 3)).run
      ((applyIncoming mirrorHost answering deletion).run listening).2).1 = .ok .applied :=
  (@recreated mirrorHost answering listening _ deletion (secondEvent 3) hiddenPrimary "example.com" _ [] rfl rfl rfl
    ⟨by decide, rfl, rfl, by decide⟩ rfl rfl (by decide) fun _ _ => rfl).2.1.mpr fun _ member => nomatch member

/-- A zone that was deleted and made again with a lower serial is refused as
stale: the delete keeps the serial of the zone it removes. -/
theorem recreated_stale : ¬ ∀ (host : Host) (server : Nameserver) (start r' : Receiver) (history turns : List ReceiverTurn)
    (deletion event : IncomingEvent) (peer : Peer) (zone : String) (accepted : Accepted),
    start.states = [] → start.receipts = [] → deletion.action = some .delete →
    host.validateDomain deletion.zone = .ok zone →
    (applyIncoming host server deletion).run (history.foldl (ReceiverTurn.step host server) start) = (.ok .applied, r') →
    Permitted host (turns.foldl (ReceiverTurn.step host server) r') event peer zone → event.action = some .upsert →
    validatePayload host.digest zone event.payload = .ok accepted → apexNameservers zone accepted.rrsets ≠ [] →
    Answers server (turns.foldl (ReceiverTurn.step host server) r') →
    ((applyIncoming host server event).run (turns.foldl (ReceiverTurn.step host server) r')).1 = .ok .applied := by
  intro always
  have ends := always mirrorHost answering listening _ [.incoming (firstEvent ["192.0.2.1"])] [] deletion (secondEvent 3)
    hiddenPrimary "example.com" _ rfl rfl rfl rfl rfl ⟨by decide, rfl, rfl, by decide⟩ rfl rfl (by decide) fun _ _ => rfl
  cases ends

end Boron.DnsCluster
