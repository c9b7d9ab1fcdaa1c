import Boron.DnsCluster.Queue

namespace Boron.DnsCluster
open List Sys
variable {host : Host} {peers : List Peer} {peer : Peer} {zone : String} {c c' : Cluster} {job : Job}

/-- One of the peers, which pushes to DirectAdmin or cPanel and is alone on its server. -/
structure Alone (peers : List Peer) (peer : Peer) : Prop where
  listed : peer ∈ peers
  unique : Rows.Unique Peer.id peers
  remote : peer.peerType ≠ .boron
  server : ∀ other ∈ peers, other.endpoint = peer.endpoint → other = peer

theorem Alone.byKey (alone : Alone peers peer) : Rows.byKey Peer.id peers peer.id = some peer :=
  Rows.byKey_of_mem alone.unique alone.listed

theorem Tracked.enqueueTarget (alone : Alone peers peer) (tracked : Tracked peers peer zone c) {now : Int} {target : Peer}
    {other : String} {change : Change} (listed : target ∈ peers) (enabled : target.enabled) :
    Tracked peers peer zone (c.enqueueFor now target.id other change) := by
  refine tracked.enqueueFor fun same => ?_
  have sameRow : target = peer := inj_on_of_nodup_map alone.unique listed alone.listed same
  rwa [sameRow] at enabled

section
variable {endpoint other : String} (quiet : Quiet endpoint other c c')
include quiet

theorem Tracked.carried (tracked : Tracked peers peer zone c) : Tracked peers peer zone c' := by
  refine ⟨quiet.peers.trans tracked.fixed, ?_, ?_, ?_, ?_⟩
  · rw [quiet.outbox]
    exact tracked.ids
  · rw [quiet.outbox, quiet.events]
    exact tracked.dated
  · intro job member ours
    rw [quiet.outbox] at member
    rw [quiet.queued]
    exact tracked.latest job member ours
  · rw [quiet.outbox]
    exact tracked.enabled

theorem Underway.carried (underway : Underway job c) : Underway job c' := by
  have old := underway.old
  have still := underway.still
  rw [← quiet.events] at old
  rw [← quiet.outbox] at still
  exact ⟨old, still⟩

theorem Converged.carried (elsewhere : ¬ (peer.endpoint = endpoint ∧ zone = other)) (converged : Converged peer zone c) :
    Converged peer zone c' := by
  intro empty payload queued
  rw [quiet.outbox] at empty
  rw [quiet.queued] at queued
  obtain ⟨copy, held, holds⟩ := converged empty payload queued
  exact ⟨copy, (quiet.elsewhere _ _ elsewhere).trans held, holds⟩

end

/-- A step that only takes a row away or rewrites when it is tried. -/
structure Trimmed (c c' : Cluster) : Prop where
  peers : c'.peers = c.peers
  events : c'.events = c.events
  history : c'.history = c.history
  remotes : c'.remotes = c.remotes
  ids : (c'.outbox.map Job.id).Sublist (c.outbox.map Job.id)
  rows : ∀ job ∈ c'.outbox, ∃ row ∈ c.outbox, row.peerId = job.peerId ∧ row.zone = job.zone ∧
    row.change = job.change ∧ row.eventId = job.eventId

theorem Tracked.trimmed (trimmed : Trimmed c c') (tracked : Tracked peers peer zone c) :
    Tracked peers peer zone c' := by
  refine ⟨trimmed.peers.trans tracked.fixed, tracked.ids.sublist trimmed.ids, fun job member => ?_,
    fun job member ours => ?_, fun job member atPeer => ?_⟩
  · obtain ⟨row, inside, -, -, -, sameEvent⟩ := trimmed.rows job member
    rw [← sameEvent, trimmed.events]
    exact tracked.dated row inside
  · obtain ⟨row, inside, samePeer, sameZone, sameChange, -⟩ := trimmed.rows job member
    rw [← sameChange, trimmed.history]
    exact tracked.latest row inside ⟨samePeer.trans ours.1, sameZone.trans ours.2⟩
  · obtain ⟨row, inside, samePeer, -⟩ := trimmed.rows job member
    exact tracked.enabled row inside (samePeer.trans atPeer)

theorem trimmed_map (write : Job → Job) (same : ∀ row : Job, (write row).id = row.id ∧ row.peerId = (write row).peerId ∧
    row.zone = (write row).zone ∧ row.change = (write row).change ∧ row.eventId = (write row).eventId) :
    Trimmed c { c with outbox := c.outbox.map write } := by
  refine ⟨rfl, rfl, rfl, rfl, ?_, fun job member => ?_⟩
  · have sameIds : (c.outbox.map write).map Job.id = c.outbox.map Job.id := by
      rw [map_map]
      exact map_congr_left fun row _ => (same row).1
    rw [sameIds]
  · obtain ⟨row, inside, rfl⟩ := mem_map.mp member
    exact ⟨row, inside, (same row).2⟩

theorem trimmed_filter (keep : Job → Bool) (states : List ZoneState) :
    Trimmed c { c with outbox := c.outbox.filter keep, states } :=
  ⟨rfl, rfl, rfl, rfl, filter_sublist.map Job.id, fun job member =>
    ⟨job, (mem_filter.mp member).1, rfl, rfl, rfl, rfl⟩⟩

theorem trimmed_starting : Trimmed c (c.starting job) := by
  refine trimmed_map _ fun row => ?_
  split <;> exact ⟨rfl, rfl, rfl, rfl, rfl⟩

theorem trimmed_postponed (now : Int) : Trimmed c (c.postponed now job) := by
  refine trimmed_map _ fun row => ?_
  split <;> exact ⟨rfl, rfl, rfl, rfl, rfl⟩

theorem Converged.trimmed (trimmed : Trimmed c c') (converged : Converged peer zone c)
    (kept : ∀ row ∈ c.outbox, row.isFor peer zone → ∃ job ∈ c'.outbox, job.isFor peer zone) :
    Converged peer zone c' := by
  intro empty payload queued
  rw [trimmed.history] at queued
  have before : ∀ row ∈ c.outbox, ¬ row.isFor peer zone := by
    intro row inside ours
    obtain ⟨job, member, still⟩ := kept row inside ours
    exact empty job member still
  obtain ⟨copy, held, holds⟩ := converged before payload queued
  refine ⟨copy, ?_, holds⟩
  unfold At
  rw [trimmed.remotes]
  exact held

theorem Underway.trimmed_other (underway : Underway job c) (tracked : Tracked peers peer zone c)
    (other : ¬ job.isFor peer zone) {row : Job} (member : row ∈ c.outbox) (ours : row.isFor peer zone) :
    row.id ≠ job.id := by
  intro same
  obtain ⟨still, inside, sameId, samePeer, sameZone, -⟩ := underway.still
  have sameRow : row = still := inj_on_of_nodup_map tracked.ids member inside (same.trans sameId.symm)
  rw [sameRow] at ours
  exact other ⟨samePeer.symm.trans ours.1, sameZone.symm.trans ours.2⟩

theorem kept_map {write : Job → Job} (same : ∀ row : Job, row.peerId = (write row).peerId ∧ row.zone = (write row).zone) :
    ∀ row ∈ c.outbox, row.isFor peer zone → ∃ job ∈ c.outbox.map write, job.isFor peer zone :=
  fun row member ours => ⟨write row, mem_map_of_mem member, (same row).1.symm.trans ours.1,
    (same row).2.symm.trans ours.2⟩

theorem Converged.starting (converged : Converged peer zone c) : Converged peer zone (c.starting job) := by
  refine converged.trimmed trimmed_starting (kept_map fun row => ?_)
  split <;> exact ⟨rfl, rfl⟩

theorem Converged.postponed (converged : Converged peer zone c) (now : Int) :
    Converged peer zone (c.postponed now job) := by
  refine converged.trimmed (trimmed_postponed now) (kept_map fun row => ?_)
  split <;> exact ⟨rfl, rfl⟩

theorem Underway.starting (member : job ∈ c.outbox) (tracked : Tracked peers peer zone c) :
    Underway job (c.starting job) := by
  refine ⟨tracked.dated job member, { job with status := .running, attempts := job.attempts + 1 }, ?_, rfl, rfl, rfl,
    fun _ => rfl⟩
  exact mem_map.mpr ⟨job, member, if_pos rfl⟩

theorem settled_trimmed (delivery : Provenance) : Trimmed c (c.settled job delivery) := trimmed_filter _ _

end Boron.DnsCluster

namespace Boron.DnsCluster
variable {host : Host} {peers : List Peer} {peer : Peer} {zone : String} {c : Cluster} {job : Job}

/-- What holds between two steps. -/
structure Between (peers : List Peer) (peer : Peer) (zone : String) (c : Cluster) : Prop where
  tracked : Tracked peers peer zone c
  converged : Converged peer zone c

/-- What holds while a delivery for another zone or another peer is under way. -/
structure Aside (peers : List Peer) (peer : Peer) (zone : String) (job : Job) (c : Cluster) : Prop where
  tracked : Tracked peers peer zone c
  underway : Underway job c
  converged : Converged peer zone c

variable {arrivals : List Enqueue} {now : Int}

theorem deliver_aside (alone : Alone peers peer) {target : Peer}
    (listed : target ∈ peers) (atTarget : job.peerId = target.id) (other : ¬ job.isFor peer zone)
    (aside : Aside peers peer zone job c) :
    Between peers peer zone ((deliver host now arrivals target job).run c).2 := by
  have elsewhere : ¬ (peer.endpoint = target.endpoint ∧ zone = job.zone) := by
    rintro ⟨sameServer, sameZone⟩
    have samePeer := alone.server target listed sameServer.symm
    exact other ⟨atTarget.trans (congrArg Peer.id samePeer), sameZone.symm⟩
  have sent : Sys.Keeps (Sys.Stays (Aside peers peer zone job))
      (Sys.caught (send host target job.zone (manages c.states target job.zone) job.change)) := by
    intro before holds
    have quiet : Quiet target.endpoint job.zone before
        ((send host target job.zone (manages c.states target job.zone) job.change).run before).2 :=
      send_quiet _ job.change before
    exact ⟨holds.tracked.carried quiet, holds.underway.carried quiet, holds.converged.carried quiet elsewhere⟩
  have arrived : Sys.Keeps (Sys.Stays (Aside peers peer zone job)) (arrive host arrivals) :=
    arrive_stays (fun _ holds => holds.tracked.fixed) (fun c now target z change listed enabled holds =>
      ⟨holds.tracked.enqueueTarget alone listed enabled, holds.underway.enqueueFor, holds.converged.enqueueFor⟩) arrivals
  rw [deliver, Sys.run_get_bind]
  refine Sys.Triple.always (P := Aside peers peer zone job) (R := Between peers peer zone) ?_ aside
  have both (c : Cluster) (holds : Aside peers peer zone job c) : Between peers peer zone c :=
    ⟨holds.tracked, holds.converged⟩
  refine ((Sys.Triple.of_keeps sent).weaken (fun _ holds => holds) (fun _ _ holds => holds) both).bind fun result => ?_
  refine ((Sys.Triple.of_keeps arrived).weaken (fun _ holds => holds) (fun _ _ holds => holds) both).bind fun _ => ?_
  cases result with
  | error reason =>
    exact Sys.Triple.modify fun c holds =>
      ⟨holds.tracked.trimmed (trimmed_postponed now), holds.converged.postponed now⟩
  | ok delivery =>
    refine Sys.Triple.modify fun c holds => ⟨holds.tracked.trimmed (settled_trimmed delivery),
      holds.converged.trimmed (settled_trimmed delivery) fun row member ours => ⟨row, ?_, ours⟩⟩
    have differs := holds.underway.trimmed_other holds.tracked other member ours
    exact List.mem_filter.mpr ⟨member, by simp [differs]⟩

/-- What holds while the row of the zone is delivered. -/
structure Ours (peers : List Peer) (peer : Peer) (zone : String) (job : Job) (result : Except String Provenance)
    (c : Cluster) : Prop where
  tracked : Tracked peers peer zone c
  underway : Underway job c
  holding : ∀ payload delivery, job.change = .upsert payload → result = .ok delivery → Holding peer zone payload c

theorem Underway.converged (underway : Underway job c) (ours : job.isFor peer zone) : Converged peer zone c := by
  intro empty
  obtain ⟨row, inside, -, samePeer, sameZone, -⟩ := underway.still
  exact absurd ⟨samePeer.trans ours.1, sameZone.trans ours.2⟩ (empty row inside)

theorem sendOurs_triple {E : Cluster → Prop} (alone : Alone peers peer) (managed : Bool)
    (settled : ∀ payload, job.change = .upsert payload → peer.peerType = .directadmin →
      Settled peer zone managed payload c)
    (tracked : Tracked peers peer zone c) (underway : Underway job c) :
    Sys.Triple (fun now => now = c) (Sys.caught (send host peer zone managed job.change))
      (fun result => Ours peers peer zone job result) E := by
  intro before same
  rw [same]
  refine ⟨?_, fun _ _ failed => nomatch failed⟩
  rintro _ _ ⟨⟩
  have quiet : Quiet peer.endpoint zone c ((send host peer zone managed job.change).run c).2 :=
    send_quiet managed job.change c
  refine ⟨tracked.carried quiet, underway.carried quiet, fun payload delivery upsert ended => ?_⟩
  rw [upsert] at ended ⊢
  exact send_holds managed payload alone.remote (settled payload upsert) (Prod.ext ended rfl)

theorem Ours.settled {delivery : Provenance} (ours : job.isFor peer zone)
    (sent : Ours peers peer zone job (.ok delivery) c) : Converged peer zone (c.settled job delivery) := by
  intro empty payload queued
  obtain ⟨row, inside, sameId, samePeer, sameZone, current⟩ := sent.underway.still
  have rowOurs : row.isFor peer zone := ⟨samePeer.trans ours.1, sameZone.trans ours.2⟩
  have gone : row.id = job.id ∧ row.eventId = job.eventId := by
    by_contra kept
    exact empty row (List.mem_filter.mpr ⟨inside, decide_eq_true kept⟩) rowOurs
  have latest := sent.tracked.latest row inside rowOurs
  rw [current gone.2] at latest
  have upsert : job.change = .upsert payload := Option.some.inj (latest.symm.trans queued)
  obtain ⟨copy, held, holds⟩ := sent.holding payload delivery upsert rfl
  exact ⟨copy, held, holds⟩

theorem deliver_ours (alone : Alone peers peer) (ours : job.isFor peer zone)
    (settled : ∀ payload, job.change = .upsert payload → peer.peerType = .directadmin →
      Settled peer zone (manages c.states peer zone) payload c)
    (tracked : Tracked peers peer zone c) (underway : Underway job c) :
    Between peers peer zone ((deliver host now arrivals peer job).run c).2 := by
  rw [deliver, Sys.run_get_bind]
  refine Sys.Triple.always (P := fun now => now = c) (R := Between peers peer zone) ?_ rfl
  rw [ours.2]
  refine (sendOurs_triple alone _ settled tracked underway).bind fun result => ?_
  have arrived : Sys.Keeps (Sys.Stays (Ours peers peer zone job result)) (arrive host arrivals) :=
    arrive_stays (fun _ holds => holds.tracked.fixed) (fun c now target z change listed enabled holds =>
      ⟨holds.tracked.enqueueTarget alone listed enabled, holds.underway.enqueueFor, holds.holding⟩) arrivals
  have both (c : Cluster) (holds : Ours peers peer zone job result c) : Between peers peer zone c :=
      ⟨holds.tracked, holds.underway.converged ours⟩
  refine ((Sys.Triple.of_keeps arrived).weaken (fun _ holds => holds) (fun _ _ holds => holds) both).bind fun _ => ?_
  cases result with
  | error reason =>
    exact Sys.Triple.modify fun c holds => ⟨holds.tracked.trimmed (trimmed_postponed now),
      (holds.underway.converged ours).postponed now⟩
  | ok delivery =>
    exact Sys.Triple.modify fun c holds => ⟨holds.tracked.trimmed (settled_trimmed delivery), holds.settled ours⟩

/-- The steps of the queue, and others changing zones elsewhere. A delivery to a
DirectAdmin server that is not known to own the zone finds it absent or as it
would write it. -/
def Recognised (peer : Peer) (zone : String) (c : Cluster) : Operation → Prop
  | .enqueueZone _ => True
  | .processOne now _ => ∀ job payload, nextJob now c = some job → job.isFor peer zone → job.change = .upsert payload →
      peer.peerType = .directadmin → Settled peer zone (manages c.states peer zone) payload c
  | .foreign endpoint z _ => ¬ (endpoint = peer.endpoint ∧ z = zone)
  | _ => False

theorem earliest_mem {jobs : List Job} (found : earliest jobs = some job) : job ∈ jobs := by
  induction jobs with
  | nil => cases found
  | cons first rest ih =>
    unfold earliest at found
    cases later : earliest rest with
    | none =>
      rw [later] at found
      cases found
      exact List.mem_cons_self
    | some other =>
      rw [later] at found ih
      dsimp only at found
      split at found
      · cases found
        exact List.mem_cons_self
      · exact List.mem_cons_of_mem first (ih found)

theorem nextJob_mem (found : nextJob now c = some job) : job ∈ c.outbox :=
  List.mem_of_mem_filter (earliest_mem found)

theorem processOne_between (alone : Alone peers peer) (recognised : Recognised peer zone c (.processOne now arrivals)) (between : Between peers peer zone c) :
    Between peers peer zone ((processOne host now arrivals).run c).2 := by
  have tracked := between.tracked
  rw [processOne, Sys.run_get_bind]
  cases taken : nextJob now c with
  | none => exact between
  | some job =>
    have member := nextJob_mem taken
    rw [Sys.run_modify_bind]
    have started : Tracked peers peer zone (c.starting job) := tracked.trimmed trimmed_starting
    have underway := Underway.starting member tracked
    have still : Converged peer zone (c.starting job) := between.converged.starting
    rw [tracked.fixed]
    cases found : (Rows.byKey Peer.id peers job.peerId).filter Peer.enabled with
    | none =>
      have other : ¬ job.isFor peer zone := by
        intro ours
        rw [ours.1, alone.byKey, Option.filter_some, if_pos (tracked.enabled job member ours.1)] at found
        cases found
      have dropped : Trimmed (c.starting job) ((c.starting job).dropJob job) := trimmed_filter _ _
      refine ⟨started.trimmed dropped, still.trimmed dropped fun row inside ours => ⟨row, ?_, ours⟩⟩
      have differs := underway.trimmed_other started other inside ours
      exact List.mem_filter.mpr ⟨inside, by simpa using differs⟩
    | some target =>
      obtain ⟨listed, atTarget⟩ := Rows.byKey_some (Option.eq_some_of_filter_eq_some found)
      rw [Sys.run_then_pure]
      by_cases ours : job.isFor peer zone
      · have same : target = peer := List.inj_on_of_nodup_map alone.unique listed alone.listed (atTarget.trans ours.1)
        rw [same]
        exact deliver_ours alone ours (fun payload upsert kind => recognised job payload taken ours upsert kind)
          started underway
      · exact deliver_aside alone listed atTarget.symm ours ⟨started, underway, still⟩

theorem Operation.between (alone : Alone peers peer) (operation : Operation) (recognised : Recognised peer zone c operation)
    (between : Between peers peer zone c) : Between peers peer zone (operation.step host c) := by
  cases operation with
  | enqueueZone call =>
    have stays : Sys.Keeps (Sys.Stays (Between peers peer zone)) (DnsCluster.enqueueZone host call) :=
      enqueueZone_stays (fun _ holds => holds.tracked.fixed) (fun c now target z change listed enabled holds =>
        ⟨holds.tracked.enqueueTarget alone listed enabled, holds.converged.enqueueFor⟩) call
    exact stays c between
  | processOne now arrivals => exact processOne_between alone recognised between
  | foreign endpoint z copy =>
    refine ⟨⟨between.tracked.fixed, between.tracked.ids, between.tracked.dated, between.tracked.latest,
      between.tracked.enabled⟩, fun empty payload queued => ?_⟩
    obtain ⟨held, present, holds⟩ := between.converged empty payload queued
    have elsewhere : ¬ (peer.endpoint = endpoint ∧ zone = z) := fun same => recognised ⟨same.1.symm, same.2.symm⟩
    exact ⟨held, (if_neg elsewhere).trans present, holds⟩
  | createPeer params => exact recognised.elim
  | updatePeer peerId params => exact recognised.elim
  | deletePeer peerId => exact recognised.elim

/-- These peers, nothing queued, and any zones on the remote servers. -/
def Cluster.serving (peers : List Peer) (remotes : String → String → Option Copy) : Cluster :=
  { Cluster.start remotes with peers }

def loneServer : Peer :=
  { id := 1, name := "a", peerType := .directadmin, endpoint := primary, username := some "admin", credential := "key"
    verifyTls := true, enabled := true, direction := .push, zones := [] }

theorem loneServer_alone : Alone [loneServer] loneServer :=
  ⟨List.mem_singleton_self _, by decide, by decide, fun _ member _ => List.mem_singleton.mp member⟩

/-- The answer to the second call, the first `rawsave`, is lost. -/
def losingHost : Host := { plainHost with outcome := fun call => if call = 1 then .lost else .done }

def twiceQueued : Cluster :=
  (Operation.processOne 100 []).step losingHost ((queueZone 100 "192.0.2.2").step losingHost
    ((Operation.processOne 0 []).step losingHost ((queueZone 0 "192.0.2.1").step losingHost
      (Cluster.serving [loneServer] fun _ _ => none))))

def lastRows (c : Cluster) (peer : Peer) (zone : String) : Option Copy :=
  match lastQueued c.history peer.id zone with
  | some (.upsert payload) => some (zoneRows payload)
  | _ => none

end Boron.DnsCluster
