import Boron.DnsCluster.Sending

namespace Boron.DnsCluster
open List Sys Rows

/-- A step of a run. `foreign` is somebody else changing a zone. -/
inductive Operation
  | createPeer (params : PeerParams)
  | updatePeer (peerId : Nat) (params : PeerParams)
  | deletePeer (peerId : Nat)
  | enqueueZone (call : Enqueue)
  | processOne (now : Int) (arrivals : List Enqueue)
  | foreign (endpoint zone : String) (copy : Option Copy)

def Cluster.foreign (c : Cluster) (endpoint zone : String) (copy : Option Copy) : Cluster :=
  { c with remotes := fun e z => if e = endpoint ∧ z = zone then copy else c.remotes e z }

/-- The state a step leaves, whether it ends well or with an error. -/
def Operation.step (host : Host) : Operation → Cluster → Cluster
  | .createPeer params, c => ((DnsCluster.createPeer host params).run c).2
  | .updatePeer peerId params, c => ((DnsCluster.updatePeer host peerId params).run c).2
  | .deletePeer peerId, c => ((DnsCluster.deletePeer peerId).run c).2
  | .enqueueZone call, c => ((DnsCluster.enqueueZone host call).run c).2
  | .processOne now arrivals, c => ((DnsCluster.processOne host now arrivals).run c).2
  | .foreign endpoint zone copy, c => c.foreign endpoint zone copy

def Cluster.start (remotes : String → String → Option Copy) : Cluster :=
  { peers := [], outbox := [], states := [], remotes, history := [], calls := 0, events := 0 }

/-- An update that moves a peer to another server finds each zone marked as
owned already created there; others keep to zones Boron has not created. -/
def Careful (host : Host) (c : Cluster) : Operation → Prop
  | .updatePeer peerId params => ∀ peer data, Rows.byKey Peer.id c.peers peerId = some peer →
      validatePeer host (host.generatedKey c.calls) params (some peer) = .ok data → data.endpoint ≠ peer.endpoint →
      ∀ state ∈ c.states, state.peerId = peerId → state.direction = .sentOwned →
        hasCreated c.history data.endpoint state.zone
  | .foreign endpoint zone _ => hasCreated c.history endpoint zone = false
  | _ => True

variable {host : Host} {c : Cluster}

theorem guarded_start (remotes : String → String → Option Copy) : Guarded (Cluster.start remotes) :=
  ⟨rfl, fun _ member => absurd member not_mem_nil, fun _ member => absurd member not_mem_nil⟩

section
variable {R : Cluster → Cluster → Prop} [Std.Refl R] [IsTrans Cluster R]
  (queued : ∀ c now peerId zone change, R c (c.enqueueFor now peerId zone change))
include queued

theorem enqueueChange_keeps (now : Int) (zone : String) (change : Change) :
    Keeps R (enqueueChange now zone change) :=
  Keeps.get.bind fun _ => Keeps.each fun _ _ => Keeps.modify fun c => queued c now _ zone change

theorem enqueueZone_keeps (call : Enqueue) : Keeps R (enqueueZone host call) := by
  refine (Keeps.ofExcept _).bind fun zone => ?_
  split
  · exact enqueueChange_keeps queued _ _ _
  · split
    · exact Keeps.pure ()
    · exact (Keeps.ofExcept _).bind fun payload => enqueueChange_keeps queued _ _ _

theorem arrive_keeps (arrivals : List Enqueue) : Keeps R (arrive host arrivals) :=
  Keeps.each fun call _ => (enqueueZone_keeps queued call).caught.bind fun _ => Keeps.pure ()

end

theorem Guarded.enqueueFor (guarded : Guarded c) (now : Int) (peerId : Nat) (zone : String) (change : Change) :
    Guarded (c.enqueueFor now peerId zone change) := by
  have recorded : Guarded (c.note (.queued peerId zone change)) := guarded.record rfl
  exact ⟨recorded.lawful, recorded.owned, recorded.referenced⟩

theorem enqueueZone_guarded (call : Enqueue) : Keeps (Stays Guarded) (enqueueZone host call) :=
  enqueueZone_keeps (fun _ _ _ _ _ guarded => guarded.enqueueFor _ _ _ _) call

theorem Guarded.withOutbox (guarded : Guarded c) (outbox : List Job) : Guarded { c with outbox } :=
  ⟨guarded.lawful, guarded.owned, guarded.referenced⟩

variable {peer : Peer}

theorem byKey_append_new {peers : List Peer} {id : Nat} (present : (byKey Peer.id peers id).isSome) :
    byKey Peer.id (peers ++ [peer]) id = byKey Peer.id peers id := by
  obtain ⟨found, known⟩ := Option.isSome_iff_exists.mp present
  unfold byKey at known ⊢
  rw [List.find?_append, known, Option.some_or]

theorem createPeer_guarded (params : PeerParams) : Keeps (Stays Guarded) (createPeer host params) := by
  refine Keeps.get.bind fun c => (Keeps.ofExcept _).bind fun data => (Keeps.ofExcept _).bind
    fun _ => Keeps.modify fun c guarded => ⟨guarded.lawful, fun state member marked peer found => ?_,
      fun state member => ?_⟩
  · rw [byKey_append_new (guarded.referenced state member)] at found
    exact guarded.owned state member marked peer found
  · rw [byKey_append_new (guarded.referenced state member)]
    exact guarded.referenced state member

theorem deletePeer_guarded (peerId : Nat) : Keeps (Stays Guarded) (deletePeer peerId) := by
  refine Keeps.modify fun c guarded => ?_
  have kept (state : ZoneState) (member : state ∈ c.states.filter fun state => state.peerId ≠ peerId) :
      byKey Peer.id (c.peers.filter fun peer => peer.id ≠ peerId) state.peerId =
        byKey Peer.id c.peers state.peerId := by
    have other : state.peerId ≠ peerId := by simpa using (mem_filter.mp member).2
    unfold byKey
    rw [List.find?_filter]
    refine congrArg (fun P => List.find? P c.peers) (funext fun peer => ?_)
    by_cases same : peer.id = state.peerId
    · simp [same, other]
    · simp [same]
  refine ⟨guarded.lawful, fun state member marked peer found => ?_, fun state member => ?_⟩
  · rw [kept state member] at found
    exact guarded.owned state (mem_of_mem_filter member) marked peer found
  · rw [kept state member]
    exact guarded.referenced state (mem_of_mem_filter member)

theorem byKey_updated (peers : List Peer) (peerId : Nat) (data : PeerData) (id : Nat) :
    byKey Peer.id (peers.map fun row => if row.id = peerId then row.updated data else row) id =
      (byKey Peer.id peers id).map fun row => if row.id = peerId then row.updated data else row := by
  unfold byKey
  rw [List.find?_map]
  refine congrArg (fun P => Option.map _ (List.find? P peers)) (funext fun row => ?_)
  simp only [Function.comp_apply]
  split <;> rfl

theorem updated_guarded {peerId : Nat} {data : PeerData}
    (guarded : Guarded c) (found : byKey Peer.id c.peers peerId = some peer)
    (careful : data.endpoint ≠ peer.endpoint → ∀ state ∈ c.states, state.peerId = peerId →
      state.direction = .sentOwned → hasCreated c.history data.endpoint state.zone) :
    Guarded { c with peers := c.peers.map fun row => if row.id = peerId then row.updated data else row } := by
  refine ⟨guarded.lawful, fun state member marked other now => ?_, fun state member => ?_⟩
  · rw [byKey_updated] at now
    obtain ⟨before, known, rfl⟩ := Option.map_eq_some_iff.mp now
    have sameId : before.id = state.peerId := (byKey_some known).2
    split
    · rename_i changed
      have atPeer : state.peerId = peerId := sameId.symm.trans changed
      rw [atPeer, found] at known
      cases known
      by_cases moved : data.endpoint = peer.endpoint
      · show hasCreated c.history data.endpoint state.zone
        rw [moved]
        exact guarded.owned state member marked peer (by rw [atPeer, found])
      · exact careful moved state member atPeer marked
    · exact guarded.owned state member marked before known
  · rw [byKey_updated, Option.isSome_map]
    exact guarded.referenced state member

theorem updatePeer_guarded {peerId : Nat} {params : PeerParams} (careful : Careful host c (.updatePeer peerId params))
    (guarded : Guarded c) : Guarded ((updatePeer host peerId params).run c).2 := by
  have triple : Triple (fun now => now = c) (updatePeer host peerId params) (fun _ => Guarded) Guarded := by
    refine Triple.get.bind fun before => ?_
    refine Triple.bind (Q := fun peer now => now = c ∧ byKey Peer.id c.peers peerId = some peer ∧ before = c)
      (Triple.ofExcept ?_ (by rintro _ ⟨rfl, rfl⟩; exact guarded)) fun peer => ?_
    · rintro _ peer ⟨rfl, rfl⟩ found
      exact ⟨rfl, Checks.orRaise_eq_ok.mp found, rfl⟩
    refine Triple.bind (Q := fun data now => now = c ∧ byKey Peer.id c.peers peerId = some peer ∧
      validatePeer host (host.generatedKey c.calls) params (some peer) = .ok data)
      (Triple.ofExcept ?_ (by rintro _ ⟨rfl, -⟩; exact guarded)) fun data => ?_
    · rintro _ data ⟨rfl, found, rfl⟩ valid
      exact ⟨rfl, found, valid⟩
    refine (Triple.ofExcept (fun _ _ known _ => known) (by rintro _ ⟨rfl, -⟩; exact guarded)).bind fun _ =>
      (Triple.ofExcept (fun _ _ known _ => known) (by rintro _ ⟨rfl, -⟩; exact guarded)).bind fun _ =>
        Triple.modify ?_
    rintro _ ⟨rfl, found, valid⟩
    exact updated_guarded guarded found (careful peer data found valid)
  exact triple.always rfl

theorem manages_created (guarded : Guarded c) {zone : String}
    (found : byKey Peer.id c.peers peer.id = some peer) (kind : peer.peerType ≠ .boron)
    (managed : manages c.states peer zone) : hasCreated c.history peer.endpoint zone := by
  unfold manages at managed
  split at managed
  · rename_i state known
    have member : state ∈ c.states := List.mem_of_find?_eq_some known
    have row : state.peerId = peer.id ∧ state.zone = zone := by simpa [zoneState] using List.find?_some known
    rw [if_neg kind] at managed
    have created := guarded.owned state member (of_decide_eq_true managed) peer (by rw [row.1]; exact found)
    rwa [row.2] at created
  · cases managed

theorem Delivered.settled {job : Job} {delivery : Provenance} (atPeer : job.peerId = peer.id)
    (delivered : Delivered peer job.zone delivery c) : Guarded (c.settled job delivery) := by
  have serving := delivered.serving
  have recorded : Guarded { c with states := recordDelivery c.states job delivery } := by
    unfold recordDelivery
    cases job.change with
    | upsert payload =>
      rw [atPeer]
      exact serving.withState (fun _ => rfl) (fun _ => rfl) fun _ => delivered.owned
    | delete =>
      exact serving.guarded.withStates (fun state member => serving.guarded.owned state (mem_of_mem_filter member))
        fun state member => serving.guarded.referenced state (mem_of_mem_filter member)
  unfold Cluster.settled
  cases byKey Peer.id c.peers job.peerId with
  | none => exact serving.guarded.withOutbox _
  | some _ => exact recorded.withOutbox _

/-- Between the end of the sending and its record only events arrive. -/
def Sent (peer : Peer) (zone : String) (result : Except String Provenance) (c : Cluster) : Prop :=
  (∀ delivery, result = .ok delivery → Delivered peer zone delivery c) ∧ ∀ reason, result = .error reason → Serving peer c

theorem Serving.enqueueFor (serving : Serving peer c) (now : Int) (peerId : Nat) (zone : String)
    (change : Change) : Serving peer (c.enqueueFor now peerId zone change) :=
  ⟨serving.guarded.enqueueFor _ _ _ _, serving.found⟩

theorem Sent.enqueueFor {zone : String} {result : Except String Provenance}
    (sent : Sent peer zone result c) (now : Int) (peerId : Nat) (other : String) (change : Change) :
    Sent peer zone result (c.enqueueFor now peerId other change) := by
  constructor
  · intro delivery same
    have delivered := sent.1 delivery same
    exact ⟨delivered.serving.enqueueFor _ _ _ _, fun owned => created_cons _ (delivered.owned owned)⟩
  · exact fun reason same => (sent.2 reason same).enqueueFor _ _ _ _

theorem deliver_guarded {now : Int} {arrivals : List Enqueue} {job : Job} (guarded : Guarded c)
    (atPeer : job.peerId = peer.id) (found : byKey Peer.id c.peers peer.id = some peer) :
    Guarded ((deliver host now arrivals peer job).run c).2 := by
  have ready : Ready peer job.zone (manages c.states peer job.zone) c :=
    ⟨⟨guarded, found⟩, manages_created guarded found⟩
  rw [deliver, run_get_bind]
  refine Triple.always (P := Ready peer job.zone (manages c.states peer job.zone)) ?_ ready
  refine Triple.bind (Q := Sent peer job.zone) (send_triple _ job.change).caught fun result => ?_
  have arrived : Keeps (Stays (Sent peer job.zone result)) (arrive host arrivals) :=
    arrive_keeps (fun c _ _ _ _ sent => sent.enqueueFor _ _ _ _) arrivals
  refine ((Triple.of_keeps arrived).weaken (fun _ sent => sent) (fun _ _ sent => sent) fun c sent => ?_).bind
    fun _ => ?_
  · cases result with
    | ok delivery => exact (sent.1 delivery rfl).serving.guarded
    | error reason => exact (sent.2 reason rfl).guarded
  · cases result with
    | ok delivery => exact Triple.modify fun c sent => (sent.1 delivery rfl).settled atPeer
    | error reason => exact Triple.modify fun c sent => (sent.2 reason rfl).guarded.withOutbox _

theorem processOne_guarded (now : Int) (arrivals : List Enqueue) :
    Keeps (Stays Guarded) (processOne host now arrivals) := by
  intro c guarded
  rw [processOne, run_get_bind]
  cases nextJob now c with
  | none => exact guarded
  | some job =>
    rw [run_modify_bind]
    cases found : (byKey Peer.id c.peers job.peerId).filter Peer.enabled with
    | none => exact guarded.withOutbox _
    | some peer =>
      have known : byKey Peer.id c.peers job.peerId = some peer := Option.eq_some_of_filter_eq_some found
      have atPeer : peer.id = job.peerId := (byKey_some known).2
      have started : Guarded (c.starting job) := guarded.withOutbox _
      have delivered : Guarded ((deliver host now arrivals peer job).run (c.starting job)).2 :=
        deliver_guarded started atPeer.symm (atPeer ▸ known)
      rw [← run_then_pure _ true] at delivered
      exact delivered

theorem Operation.guarded (operation : Operation) (careful : Careful host c operation) (guarded : Guarded c) :
    Guarded (operation.step host c) := by
  cases operation with
  | createPeer params => exact createPeer_guarded params c guarded
  | updatePeer peerId params => exact updatePeer_guarded careful guarded
  | deletePeer peerId => exact deletePeer_guarded peerId c guarded
  | enqueueZone call => exact enqueueZone_guarded call c guarded
  | processOne now arrivals => exact processOne_guarded now arrivals c guarded
  | foreign endpoint zone copy => exact ⟨guarded.lawful, guarded.owned, guarded.referenced⟩

/-- Every call is answered, and texts stand for themselves. -/
def plainHost : Host :=
  { outcome := fun _ => .done, cleanEndpoint := fun raw _ => .ok raw, validateDomain := .ok
    generatedKey := fun _ => "", digest := fun _ => "", template := fun _ _ => [] }

def primary : String := "https://a.example.net:2222"

def secondary : String := "https://b.example.net:2222"

def newPeer : PeerParams :=
  { peerType := some .directadmin, name := some "a", endpoint := some primary, username := some "admin"
    credential := some "key", verifyTls := none, enabled := none, direction := none, zones := none }

def movedPeer : PeerParams :=
  { peerType := none, name := none, endpoint := some secondary, username := none, credential := some "other key"
    verifyTls := none, enabled := none, direction := none, zones := none }

def queueZone (now : Int) (address : String) : Operation :=
  .enqueueZone { zone := "example.org", delete := false, cloudflare := false, now
                 served := [{ name := "example.org.", type := "A", ttl := none, records := [(address, false)] }] }

def foreignZone (endpoint zone : String) : Option Copy :=
  if endpoint = secondary ∧ zone = "example.org" then
    some [{ name := "example.org.", type := "A", ttl := 300, data := [("value", "203.0.113.7")] }]
  else none

def delivered : Cluster :=
  (Operation.processOne 0 []).step plainHost ((queueZone 0 "192.0.2.1").step plainHost
    ((Operation.createPeer newPeer).step plainHost (Cluster.start foreignZone)))

end Boron.DnsCluster
