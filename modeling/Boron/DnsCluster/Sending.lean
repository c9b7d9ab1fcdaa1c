import Boron.DnsCluster.Deliver

namespace Boron.DnsCluster

def Event.creates (endpoint zone : String) : Event → Bool
  | .created e z => e = endpoint && z = zone
  | _ => false

def hasCreated (history : List Event) (endpoint zone : String) : Bool := history.any (Event.creates endpoint zone)

/-- A destructive request is about a zone created earlier on the same server. -/
def Event.permitted (older : List Event) : Event → Bool
  | .requested endpoint zone request existed => !request.destructive existed || hasCreated older endpoint zone
  | _ => true

def lawful : List Event → Bool
  | [] => true
  | event :: older => event.permitted older && lawful older

/-- The marker of ownership is only on zones created on the server of the peer. -/
structure Guarded (c : Cluster) : Prop where
  lawful : lawful c.history
  owned : ∀ state ∈ c.states, state.direction = .sentOwned → ∀ peer,
    Rows.byKey Peer.id c.peers state.peerId = some peer → hasCreated c.history peer.endpoint state.zone
  referenced : ∀ state ∈ c.states, (Rows.byKey Peer.id c.peers state.peerId).isSome

variable {c : Cluster} {endpoint zone : String}

theorem created_cons {history : List Event} (event : Event) (before : hasCreated history endpoint zone) :
    hasCreated (event :: history) endpoint zone := by
  simp only [hasCreated, List.any_cons, Bool.or_eq_true]
  exact .inr before

theorem Guarded.record (guarded : Guarded c) {event : Event} (permitted : event.permitted c.history) :
    Guarded (c.note event) := by
  refine ⟨?_, fun state member marked peer found => ?_, guarded.referenced⟩
  · simp only [Cluster.note, DnsCluster.lawful, permitted, guarded.lawful, Bool.and_self]
  · exact created_cons event (guarded.owned state member marked peer found)

theorem Guarded.ask (guarded : Guarded c) {request : Request}
    (allowed : request.destructive (c.remotes endpoint zone).isSome → hasCreated c.history endpoint zone) :
    Guarded (c.ask endpoint zone request) := by
  have permitted : (Event.requested endpoint zone request (c.remotes endpoint zone).isSome).permitted c.history := by
    simp only [Event.permitted, Bool.or_eq_true, Bool.not_eq_true']
    cases harmless : request.destructive (c.remotes endpoint zone).isSome with
    | true => exact .inr (allowed harmless)
    | false => exact .inl rfl
  have recorded := guarded.record permitted
  exact ⟨recorded.lawful, recorded.owned, recorded.referenced⟩

theorem Guarded.put (guarded : Guarded c) (copy : Option Copy) : Guarded (c.put endpoint zone copy) := by
  unfold Cluster.put
  split
  · have recorded : Guarded (c.note (.created endpoint zone)) := guarded.record rfl
    exact ⟨recorded.lawful, recorded.owned, recorded.referenced⟩
  · exact ⟨guarded.lawful, guarded.owned, guarded.referenced⟩

theorem created_ask {e z : String} (before : hasCreated c.history endpoint zone) (request : Request) :
    hasCreated (c.ask e z request).history endpoint zone := created_cons _ before

theorem created_put {e z : String} (before : hasCreated c.history endpoint zone) (copy : Option Copy) :
    hasCreated (c.put e z copy).history endpoint zone := by
  unfold Cluster.put
  split
  · exact created_cons _ before
  · exact before

theorem created_absent (absent : c.remotes endpoint zone = none) (rows : Copy) :
    hasCreated (c.put endpoint zone (some rows)).history endpoint zone := by
  simp [Cluster.put, absent, hasCreated, Event.creates]

/-- While a delivery to `peer` runs, its row is in the table. -/
structure Serving (peer : Peer) (c : Cluster) : Prop where
  guarded : Guarded c
  found : Rows.byKey Peer.id c.peers peer.id = some peer

structure Owns (peer : Peer) (zone : String) (c : Cluster) : Prop where
  serving : Serving peer c
  created : hasCreated c.history peer.endpoint zone

variable {host : Host} {peer : Peer}

section
variable {α : Type} {serve : Option Copy → Except String (Option Copy × α)} {request : Request}

theorem exchange_triple {P : Cluster → Prop} {Q : α → Cluster → Prop} {E : Cluster → Prop}
    (asked : ∀ c, P c → E (c.ask endpoint zone request))
    (served : ∀ c, P c → ∀ copy answer, serve (c.remotes endpoint zone) = .ok (copy, answer) →
      Q answer ((c.ask endpoint zone request).put endpoint zone copy) ∧
        E ((c.ask endpoint zone request).put endpoint zone copy)) :
    Sys.Triple P (exchange host endpoint zone request serve) Q E := by
  intro c holds
  have refused := asked c holds
  have answered := served c holds
  unfold exchange
  dsimp only
  cases host.outcome c.calls with
  | failed => exact ⟨fun _ _ ended => (nomatch ended), by rintro _ _ ⟨⟩; exact refused⟩
  | done =>
    cases run : serve (c.remotes endpoint zone) with
    | error reason => exact ⟨fun _ _ ended => (nomatch ended), by rintro _ _ ⟨⟩; exact refused⟩
    | ok result =>
      refine ⟨?_, fun _ _ failed => nomatch failed⟩
      rintro _ _ ⟨⟩
      exact (answered _ _ run).1
  | lost =>
    cases run : serve (c.remotes endpoint zone) with
    | error reason => exact ⟨fun _ _ ended => (nomatch ended), by rintro _ _ ⟨⟩; exact refused⟩
    | ok result =>
      refine ⟨fun _ _ ended => (nomatch ended), ?_⟩
      rintro _ _ ⟨⟩
      exact (answered _ _ run).2

theorem Owns.ask (owns : Owns peer zone c) (request : Request) :
    Owns peer zone (c.ask peer.endpoint zone request) :=
  ⟨⟨owns.serving.guarded.ask fun _ => owns.created, owns.serving.found⟩, created_ask owns.created request⟩

theorem Owns.put (owns : Owns peer zone c) (copy : Option Copy) : Owns peer zone (c.put peer.endpoint zone copy) :=
  ⟨⟨owns.serving.guarded.put copy, owns.serving.found⟩, created_put owns.created copy⟩

theorem owned_triple :
    Sys.Triple (Owns peer zone) (exchange host peer.endpoint zone request serve) (fun _ => Owns peer zone)
      (Owns peer zone) :=
  exchange_triple (fun _ owns => owns.ask request) fun _ owns copy _ _ => ⟨(owns.ask request).put copy,
    (owns.ask request).put copy⟩

theorem Serving.ask (serving : Serving peer c) (harmless : ∀ existed, request.destructive existed = false) :
    Serving peer (c.ask endpoint zone request) :=
  ⟨serving.guarded.ask fun harmful => absurd harmful (by simp [harmless]), serving.found⟩

theorem Serving.put (serving : Serving peer c) (copy : Option Copy) : Serving peer (c.put endpoint zone copy) :=
  ⟨serving.guarded.put copy, serving.found⟩

theorem harmless_triple (harmless : ∀ existed, request.destructive existed = false) :
    Sys.Triple (Serving peer) (exchange host endpoint zone request serve) (fun _ => Serving peer) (Serving peer) :=
  exchange_triple (fun _ serving => serving.ask harmless) fun _ serving copy _ _ => ⟨(serving.ask harmless).put copy,
    (serving.ask harmless).put copy⟩

end

end Boron.DnsCluster

namespace Boron.DnsCluster
variable {host : Host} {peer : Peer} {zone : String} {c : Cluster}

theorem put_remotes (endpoint : String) (copy : Option Copy) :
    (c.put endpoint zone copy).remotes endpoint zone = copy := by
  simp [Cluster.put]

/-- Before a delivery: a marker is to be trusted. -/
structure Trusted (peer : Peer) (zone : String) (managed : Bool) (c : Cluster) : Prop where
  serving : Serving peer c
  trusted : managed → hasCreated c.history peer.endpoint zone

/-- After a delivery: the marker may be written. -/
structure Delivered (peer : Peer) (zone : String) (delivery : Provenance) (c : Cluster) : Prop where
  serving : Serving peer c
  owned : delivery = .sentOwned → hasCreated c.history peer.endpoint zone

theorem Owns.delivered (owns : Owns peer zone c) : Delivered peer zone .sentOwned c :=
  ⟨owns.serving, fun _ => owns.created⟩

theorem Trusted.owns (trusted : Trusted peer zone true c) : Owns peer zone c :=
  ⟨trusted.serving, trusted.trusted rfl⟩

theorem Serving.skipped (serving : Serving peer c) {delivery : Provenance} (other : delivery ≠ .sentOwned) :
    Delivered peer zone delivery c := ⟨serving, fun same => absurd same other⟩

/-- A zone that is about to be saved is absent or was created by Boron. -/
structure Savable (peer : Peer) (zone : String) (c : Cluster) : Prop where
  serving : Serving peer c
  fresh : c.remotes peer.endpoint zone = none ∨ hasCreated c.history peer.endpoint zone

theorem directadminRawsave_triple (payload : Payload) :
    Sys.Triple (Savable peer zone) (directadminRawsave host peer zone payload) (fun _ => Owns peer zone)
      (Serving peer) := by
  have asked (c : Cluster) (savable : Savable peer zone c) : Serving peer (c.ask peer.endpoint zone .rawsave) := by
    refine ⟨savable.serving.guarded.ask fun overwrites => ?_, savable.serving.found⟩
    rcases savable.fresh with absent | created
    · simp [Request.destructive, absent] at overwrites
    · exact created
  refine exchange_triple asked fun c savable copy answer served => ?_
  obtain ⟨rfl, -⟩ := Prod.mk.inj (Except.ok.inj served)
  have serving : Serving peer ((c.ask peer.endpoint zone .rawsave).put peer.endpoint zone (some (zoneRows payload))) :=
    (asked c savable).put _
  refine ⟨⟨serving, ?_⟩, serving⟩
  rcases savable.fresh with absent | created
  · exact created_absent (by exact absent) _
  · exact created_put (created_ask created _) _

theorem directadminBlocked_triple (managed : Bool) :
    Sys.Triple (Trusted peer zone managed) (directadminBlocked host peer zone managed)
      (fun blocked c => Serving peer c ∧ (blocked = false → Savable peer zone c)) (Serving peer) := by
  cases managed with
  | true => exact Sys.Triple.pure fun c trusted => ⟨trusted.serving, fun _ => ⟨trusted.serving, .inr (trusted.trusted rfl)⟩⟩
  | false =>
    have asked (c : Cluster) (trusted : Trusted peer zone false c) :
        Serving peer (c.ask peer.endpoint zone .existence) := trusted.serving.ask fun _ => rfl
    show Sys.Triple _ (directadminExists host peer zone) _ _
    refine exchange_triple asked fun c trusted copy answer served => ?_
    obtain ⟨rfl, rfl⟩ := Prod.mk.inj (Except.ok.inj served)
    have serving : Serving peer ((c.ask peer.endpoint zone .existence).put peer.endpoint zone
        (c.remotes peer.endpoint zone)) := (asked c trusted).put _
    refine ⟨⟨serving, fun absent => ⟨serving, .inl ?_⟩⟩, serving⟩
    rw [put_remotes]
    simpa using absent

theorem sendDirectadmin_triple (managed : Bool) (change : Change) :
    Sys.Triple (Trusted peer zone managed) (sendDirectadmin host peer zone managed change)
      (Delivered peer zone) (Serving peer) := by
  cases change with
  | delete =>
    cases managed with
    | true =>
      have deleted : Sys.Triple (Owns peer zone) (directadminDelete host peer zone) (fun _ => Owns peer zone)
          (Owns peer zone) := owned_triple
      refine (deleted.weaken (fun _ trusted => trusted.owns) (fun _ _ owns => owns) fun _ owns => owns.serving).bind
        fun _ => Sys.Triple.pure fun _ owns => owns.delivered
    | false => exact Sys.Triple.pure fun _ trusted => trusted.serving.skipped (by decide)
  | upsert payload =>
    refine (directadminBlocked_triple managed).bind fun blocked => ?_
    cases blocked with
    | true => exact Sys.Triple.pure fun _ checked => checked.1.skipped (by decide)
    | false =>
      refine ((directadminRawsave_triple payload).weaken (fun _ checked => checked.2 rfl) (fun _ _ owns => owns)
        fun _ serving => serving).bind fun _ => Sys.Triple.pure fun _ owns => owns.delivered

theorem cpanelAdddns_triple (address : String) :
    Sys.Triple (Serving peer) (cpanelAdddns host peer zone address) (fun _ => Owns peer zone) (Serving peer) := by
  have asked (c : Cluster) (serving : Serving peer c) : Serving peer (c.ask peer.endpoint zone .adddns) :=
    serving.ask fun _ => rfl
  refine exchange_triple asked fun c serving copy answer served => ?_
  cases absent : c.remotes peer.endpoint zone with
  | some rows => simp [absent] at served
  | none =>
    rw [absent] at served
    obtain ⟨rfl, -⟩ := Prod.mk.inj (Except.ok.inj served)
    have added : Serving peer ((c.ask peer.endpoint zone .adddns).put peer.endpoint zone
        (some (host.template zone address))) := (asked c serving).put _
    exact ⟨⟨added, created_absent (by exact absent) _⟩, added⟩

theorem Guarded.withStates (guarded : Guarded c) {states : List ZoneState}
    (owned : ∀ state ∈ states, state.direction = .sentOwned → ∀ peer,
      Rows.byKey Peer.id c.peers state.peerId = some peer → hasCreated c.history peer.endpoint state.zone)
    (referenced : ∀ state ∈ states, (Rows.byKey Peer.id c.peers state.peerId).isSome) :
    Guarded { c with states } := ⟨guarded.lawful, owned, referenced⟩

theorem mem_withState {states : List ZoneState} {peerId : Nat} {write : ZoneState → ZoneState}
    {direction : Provenance} {state : ZoneState} (member : state ∈ withState states peerId zone write direction) :
    state ∈ states ∨ ∃ before : ZoneState, before.peerId = peerId ∧ before.zone = zone ∧ state = write before := by
  unfold withState at member
  split at member
  · obtain ⟨before, inside, rfl⟩ := List.mem_map.mp member
    split
    · rename_i same
      exact .inr ⟨before, same.1, same.2, rfl⟩
    · exact .inl inside
  · rcases List.mem_append.mp member with inside | added
    · exact .inl inside
    · exact .inr ⟨_, rfl, rfl, List.mem_singleton.mp added⟩

/-- Marking the zone of the delivery keeps the invariant when it is owned, or
when the mark is another one. -/
theorem Serving.withState (serving : Serving peer c) {write : ZoneState → ZoneState} {direction : Provenance}
    (peerId : ∀ state, (write state).peerId = state.peerId) (zoned : ∀ state, (write state).zone = state.zone)
    (owned : ∀ state, (write state).direction = .sentOwned → hasCreated c.history peer.endpoint zone) :
    Guarded { c with states := DnsCluster.withState c.states peer.id zone write direction } := by
  refine serving.guarded.withStates (fun state member marked other found => ?_) fun state member => ?_
  · rcases mem_withState member with inside | ⟨before, atPeer, atZone, rfl⟩
    · exact serving.guarded.owned state inside marked other found
    · rw [peerId, atPeer, serving.found] at found
      cases found
      rw [zoned, atZone]
      exact owned before marked
  · rcases mem_withState member with inside | ⟨before, atPeer, -, rfl⟩
    · exact serving.guarded.referenced state inside
    · rw [peerId, atPeer, serving.found]
      rfl

theorem recordOwnership_triple :
    Sys.Triple (Owns peer zone) (recordOwnership peer zone) (fun _ => Owns peer zone) (Serving peer) :=
  Sys.Triple.modify fun _ owns => ⟨⟨owns.serving.withState (fun _ => rfl) (fun _ => rfl) fun _ _ => owns.created,
    owns.serving.found⟩, owns.created⟩

theorem forgetOwnership_triple :
    Sys.Triple (Serving peer) (forgetOwnership peer zone) (fun _ => Serving peer) (Serving peer) := by
  refine Sys.Triple.modify fun c serving => ⟨serving.guarded.withStates (fun state member marked other found => ?_)
    fun state member => ?_, serving.found⟩
  · obtain ⟨before, inside, rfl⟩ := List.mem_map.mp member
    split at marked
    · cases marked
    · rename_i elsewhere
      rw [if_neg elsewhere] at found ⊢
      exact serving.guarded.owned before inside marked other found
  · obtain ⟨before, inside, rfl⟩ := List.mem_map.mp member
    split
    · exact serving.guarded.referenced before inside
    · exact serving.guarded.referenced before inside

theorem cpanelOwned_triple (managed : Bool) :
    Sys.Triple (Trusted peer zone managed) (cpanelOwned host peer zone managed)
      (fun dump c => Serving peer c ∧ (dump.isSome → Owns peer zone c)) (Serving peer) := by
  cases managed with
  | false => exact Sys.Triple.pure fun _ trusted => ⟨trusted.serving, fun impossible => nomatch impossible⟩
  | true =>
    have dumped : Sys.Triple (Owns peer zone) (cpanelDumpzoneOrAbsent host peer zone) (fun _ => Owns peer zone)
        (Owns peer zone) := owned_triple
    refine Sys.Triple.bind (dumped.weaken (fun _ trusted => trusted.owns) (fun _ _ owns => owns)
      fun _ owns => owns.serving) fun dump => ?_
    cases dump with
    | some rows => exact Sys.Triple.pure fun _ owns => ⟨owns.serving, fun _ => owns⟩
    | none =>
      refine Sys.Triple.bind (forgetOwnership_triple.weaken (fun _ owns => owns.serving) (fun _ _ serving => serving)
        fun _ serving => serving) fun _ => Sys.Triple.pure fun _ serving => ⟨serving, fun impossible => nomatch impossible⟩

theorem cpanelRows_triple (payload : Payload) (dump : Option Copy) :
    Sys.Triple (fun c => Serving peer c ∧ (dump.isSome → Owns peer zone c))
      (cpanelRows host peer zone payload dump) (fun _ => Owns peer zone) (Serving peer) := by
  cases dump with
  | some rows => exact Sys.Triple.pure fun _ known => known.2 rfl
  | none =>
    have dumped : Sys.Triple (Owns peer zone) (cpanelDumpzone host peer zone) (fun _ => Owns peer zone)
        (Owns peer zone) := owned_triple
    refine Sys.Triple.bind ((cpanelAdddns_triple _).weaken (fun _ known => known.1) (fun _ _ owns => owns)
      fun _ serving => serving) fun _ => recordOwnership_triple.bind fun _ => ?_
    exact dumped.weaken (fun _ owns => owns) (fun _ _ owns => owns) fun _ owns => owns.serving

theorem cpanelReplace_triple (payload : Payload) (rows : Copy) :
    Sys.Triple (Owns peer zone) (cpanelReplace host peer zone payload rows) (fun _ => Owns peer zone)
      (Owns peer zone) := by
  refine (Sys.Triple.ofExcept (fun _ _ owns _ => owns) fun _ owns => owns).bind fun _ =>
    (Sys.Triple.ofExcept (fun _ _ owns _ => owns) fun _ owns => owns).bind fun _ =>
      (Sys.Triple.each fun line _ => ?_).bind fun _ => Sys.Triple.each fun item _ => ?_
  · exact owned_triple
  · unfold cpanelAddValue
    split
    · exact owned_triple
    · exact Sys.Triple.fail fun _ owns => owns

theorem sendCpanel_triple (managed : Bool) (change : Change) :
    Sys.Triple (Trusted peer zone managed) (sendCpanel host peer zone managed change)
      (Delivered peer zone) (Serving peer) := by
  cases change with
  | delete =>
    cases managed with
    | true =>
      have killed : Sys.Triple (Owns peer zone) (cpanelKilldns host peer zone) (fun _ => Owns peer zone)
          (Owns peer zone) := owned_triple
      exact (killed.weaken (fun _ trusted => trusted.owns) (fun _ _ owns => owns) fun _ owns => owns.serving).bind
        fun _ => Sys.Triple.pure fun _ owns => owns.delivered
    | false => exact Sys.Triple.pure fun _ trusted => trusted.serving.skipped (by decide)
  | upsert payload =>
    refine (cpanelOwned_triple managed).bind fun dump => (cpanelRows_triple payload dump).bind fun rows => ?_
    exact ((cpanelReplace_triple payload rows).weaken (fun _ owns => owns) (fun _ _ owns => owns)
      fun _ owns => owns.serving).bind fun _ => Sys.Triple.pure fun _ owns => owns.delivered

/-- What a marker has to prove before `_send` is called. -/
structure Ready (peer : Peer) (zone : String) (managed : Bool) (c : Cluster) : Prop where
  serving : Serving peer c
  trusted : peer.peerType ≠ .boron → managed → hasCreated c.history peer.endpoint zone

theorem send_triple (managed : Bool) (change : Change) :
    Sys.Triple (Ready peer zone managed) (send host peer zone managed change) (Delivered peer zone)
      (Serving peer) := by
  unfold send
  cases kind : peer.peerType with
  | boron =>
    have called (request : Request) (harmless : ∀ existed, request.destructive existed = false) :
        Sys.Triple (Serving peer) (exchange host peer.endpoint zone request fun copy => .ok (copy, ()))
          (fun _ => Serving peer) (Serving peer) := harmless_triple harmless
    have ran : Sys.Triple (Serving peer) (sendBoron host peer zone) (fun _ => Serving peer) (Serving peer) :=
      (called .capabilities fun _ => rfl).bind fun _ => called .apply fun _ => rfl
    exact (ran.weaken (fun _ ready => ready.serving) (fun _ _ serving => serving) fun _ serving => serving).bind
      fun _ => Sys.Triple.pure fun _ serving => serving.skipped (by decide)
  | directadmin =>
    exact (sendDirectadmin_triple managed change).weaken (fun _ ready => ⟨ready.serving, ready.trusted (by simp [kind])⟩)
      (fun _ _ delivered => delivered) fun _ serving => serving
  | cpanel =>
    exact (sendCpanel_triple managed change).weaken (fun _ ready => ⟨ready.serving, ready.trusted (by simp [kind])⟩)
      (fun _ _ delivered => delivered) fun _ serving => serving

end Boron.DnsCluster
