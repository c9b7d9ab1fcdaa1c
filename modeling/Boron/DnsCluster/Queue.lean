import Boron.DnsCluster.Histories
import Boron.DnsCluster.Replacing

namespace Boron.DnsCluster
open List Sys
variable {peers : List Peer} {peer : Peer} {zone : String} {c c' : Cluster} {job : Job}

def Job.isFor (job : Job) (peer : Peer) (zone : String) : Prop := job.peerId = peer.id ∧ job.zone = zone

/-- The row of a peer and a zone carries the change queued last, and only an
enabled peer has rows. -/
structure Tracked (peers : List Peer) (peer : Peer) (zone : String) (c : Cluster) : Prop where
  fixed : c.peers = peers
  ids : Rows.Unique Job.id c.outbox
  dated : ∀ job ∈ c.outbox, job.eventId < c.events
  latest : ∀ job ∈ c.outbox, job.isFor peer zone → lastQueued c.history peer.id zone = some job.change
  enabled : ∀ job ∈ c.outbox, job.peerId = peer.id → peer.enabled

theorem le_foldr_max {ids : List Nat} {id : Nat} (member : id ∈ ids) : id ≤ ids.foldr max 0 := by
  induction ids with
  | nil => cases member
  | cons first rest ih =>
    rw [foldr_cons]
    rcases mem_cons.mp member with rfl | member
    · omega
    · have bound := ih member
      omega

theorem nextId_fresh {ids : List Nat} : nextId ids ∉ ids := by
  intro member
  have bound := le_foldr_max member
  unfold nextId at bound
  omega

theorem lastQueued_cons (history : List Event) (peerId id : Nat) (zone other : String) (change : Change) :
    lastQueued (.queued id other change :: history) peerId zone =
      if id = peerId ∧ other = zone then some change else lastQueued history peerId zone := by
  unfold lastQueued
  rw [List.findSome?_cons]
  by_cases same : id = peerId ∧ other = zone
  · simp only [if_pos same]
  · simp only [if_neg same]

def Job.renewed (job : Job) (c : Cluster) (now : Int) (peerId : Nat) (zone : String) (change : Change) : Job :=
  if job.peerId = peerId ∧ job.zone = zone then
    { job with change, eventId := c.events, status := .pending, attempts := 0, nextAttemptAt := now }
  else job

section
variable {now : Int} {peerId : Nat} {other : String} {change : Change}

theorem renewed_id : (job.renewed c now peerId other change).id = job.id := by
  unfold Job.renewed
  split <;> rfl

theorem renewed_isFor : (job.renewed c now peerId other change).isFor peer zone ↔ job.isFor peer zone := by
  unfold Job.renewed
  split
  · exact Iff.rfl
  · exact Iff.rfl

theorem renewed_peerId : (job.renewed c now peerId other change).peerId = job.peerId := by
  unfold Job.renewed
  split <;> rfl

theorem renewed_zone : (job.renewed c now peerId other change).zone = job.zone := by
  unfold Job.renewed
  split <;> rfl

theorem renewed_same (same : job.peerId = peerId ∧ job.zone = other) :
    (job.renewed c now peerId other change).change = change ∧
      (job.renewed c now peerId other change).eventId = c.events := by
  unfold Job.renewed
  rw [if_pos same]
  exact ⟨rfl, rfl⟩

theorem renewed_other (differs : ¬ (job.peerId = peerId ∧ job.zone = other)) :
    job.renewed c now peerId other change = job := if_neg differs

def freshJob (c : Cluster) (now : Int) (peerId : Nat) (zone : String) (change : Change) : Job :=
  { id := nextId (c.outbox.map Job.id), peerId, zone, change, eventId := c.events, status := .pending, attempts := 0
    nextAttemptAt := now }

theorem enqueueFor_outbox : (c.enqueueFor now peerId other change).outbox =
    c.outbox.map (fun job => job.renewed c now peerId other change) ++
      if queuedFor c.outbox peerId other = none then [freshJob c now peerId other change] else [] := by
  unfold Cluster.enqueueFor
  cases found : queuedFor c.outbox peerId other with
  | none =>
    have unchanged : c.outbox.map (fun job => job.renewed c now peerId other change) = c.outbox := by
      have absent := List.find?_eq_none.mp found
      refine (map_congr_left fun job member => ?_).trans c.outbox.map_id
      exact renewed_other (by simpa using absent job member)
    simp only [unchanged, if_true]
    rfl
  | some row =>
    simp only [reduceCtorEq, if_false, append_nil]
    rfl

theorem mem_enqueueFor (member : job ∈ (c.enqueueFor now peerId other change).outbox) :
    (∃ row ∈ c.outbox, row.renewed c now peerId other change = job) ∨ job = freshJob c now peerId other change := by
  rw [enqueueFor_outbox, mem_append, mem_map] at member
  rcases member with renewed | fresh
  · exact .inl renewed
  · split at fresh
    · exact .inr (mem_singleton.mp fresh)
    · cases fresh

theorem Tracked.enqueueFor (tracked : Tracked peers peer zone c) (allowed : peerId = peer.id → peer.enabled) :
    Tracked peers peer zone (c.enqueueFor now peerId other change) := by
  refine ⟨tracked.fixed, ?_, fun job member => ?_, fun job member ours => ?_, fun job member atPeer => ?_⟩
  · have sameIds : (c.outbox.map fun job => job.renewed c now peerId other change).map Job.id = c.outbox.map Job.id := by
      rw [map_map]
      exact map_congr_left fun job _ => renewed_id
    unfold Rows.Unique
    rw [enqueueFor_outbox, map_append, sameIds]
    split
    · refine Nodup.append tracked.ids (nodup_singleton _) fun id member same => ?_
      rw [map_singleton, mem_singleton] at same
      exact nextId_fresh (same ▸ member)
    · rw [map_nil, append_nil]
      exact tracked.ids
  · show job.eventId < c.events + 1
    rcases mem_enqueueFor member with ⟨row, inside, rfl⟩ | rfl
    · by_cases same : row.peerId = peerId ∧ row.zone = other
      · rw [(renewed_same same).2]
        omega
      · have bound := tracked.dated row inside
        rw [renewed_other same]
        omega
    · exact Nat.lt_succ_self c.events
  · show lastQueued (.queued peerId other change :: c.history) peer.id zone = some job.change
    rw [lastQueued_cons]
    rcases mem_enqueueFor member with ⟨row, inside, rfl⟩ | rfl
    · have before := renewed_isFor.mp ours
      by_cases same : row.peerId = peerId ∧ row.zone = other
      · rw [(renewed_same same).1, if_pos ⟨same.1.symm.trans before.1, same.2.symm.trans before.2⟩]
      · have elsewhere : ¬ (peerId = peer.id ∧ other = zone) := by
          rintro ⟨rfl, rfl⟩
          exact same before
        rw [renewed_other same, if_neg elsewhere]
        exact tracked.latest row inside before
    · rw [if_pos ⟨ours.1, ours.2⟩]
      rfl
  · rcases mem_enqueueFor member with ⟨row, inside, rfl⟩ | rfl
    · exact tracked.enabled row inside (renewed_peerId.symm.trans atPeer)
    · exact allowed atPeer

/-- The row that is being delivered is still there. While its event is the
one that is sent, so is its change. -/
structure Underway (job : Job) (c : Cluster) : Prop where
  old : job.eventId < c.events
  still : ∃ row ∈ c.outbox, row.id = job.id ∧ row.peerId = job.peerId ∧ row.zone = job.zone ∧
    (row.eventId = job.eventId → row.change = job.change)

theorem Underway.enqueueFor (underway : Underway job c) : Underway job (c.enqueueFor now peerId other change) := by
  obtain ⟨row, inside, sameId, samePeer, sameZone, current⟩ := underway.still
  have old := underway.old
  refine ⟨Nat.lt_succ_of_lt old, row.renewed c now peerId other change, ?_, renewed_id.trans sameId,
    renewed_peerId.trans samePeer, renewed_zone.trans sameZone, fun same => ?_⟩
  · rw [enqueueFor_outbox]
    exact mem_append_left _ (mem_map_of_mem inside)
  · by_cases renewed : row.peerId = peerId ∧ row.zone = other
    · have later : (row.renewed c now peerId other change).eventId = c.events := (renewed_same renewed).2
      omega
    · rw [renewed_other renewed] at same ⊢
      exact current same

end

/-- Nothing is queued for the zone, so the server of the peer holds what was
queued last. -/
def Converged (peer : Peer) (zone : String) (c : Cluster) : Prop :=
  (∀ job ∈ c.outbox, ¬ job.isFor peer zone) → ∀ payload, lastQueued c.history peer.id zone = some (.upsert payload) →
    Holding peer zone payload c

theorem Converged.enqueueFor {now : Int} {peerId : Nat} {other : String} {change : Change}
    (converged : Converged peer zone c) : Converged peer zone (c.enqueueFor now peerId other change) := by
  intro empty payload queued
  have before : ∀ row ∈ c.outbox, ¬ row.isFor peer zone := by
    intro row inside ours
    refine empty (row.renewed c now peerId other change) ?_ (renewed_isFor.mpr ours)
    rw [enqueueFor_outbox]
    exact mem_append_left _ (mem_map_of_mem inside)
  have queued' : lastQueued (.queued peerId other change :: c.history) peer.id zone = some (.upsert payload) := queued
  rw [lastQueued_cons] at queued'
  by_cases ours : peerId = peer.id ∧ other = zone
  · have absent : queuedFor c.outbox peerId other = none := by
      refine List.find?_eq_none.mpr fun row inside => ?_
      have differs := before row inside
      unfold Job.isFor at differs
      rw [ours.1, ours.2]
      simpa using differs
    have fresh : freshJob c now peerId other change ∈ (c.enqueueFor now peerId other change).outbox := by
      rw [enqueueFor_outbox, if_pos absent]
      exact mem_append_right _ (mem_singleton_self _)
    exact absurd ours (empty _ fresh)
  · rw [if_neg ours] at queued'
    exact converged before payload queued'

section
variable {P : Cluster → Prop} {host : Host} (fixed : ∀ c, P c → c.peers = peers)
  (queued : ∀ c now target zone change, target ∈ peers → target.enabled → P c → P (c.enqueueFor now target.id zone change))
include fixed queued

theorem enqueueChange_stays (now : Int) (zone : String) (change : Change) :
    Keeps (Stays P) (enqueueChange now zone change) := by
  intro before held
  refine Keeps.each (R := Stays P) (fun target member => Keeps.modify fun c holds => ?_) before held
  obtain ⟨listed, pushes⟩ := mem_filter.mp member
  rw [fixed before held] at listed
  simp only [Bool.and_eq_true] at pushes
  exact queued c now target zone change listed pushes.1.1 holds

theorem enqueueZone_stays (call : Enqueue) : Keeps (Stays P) (enqueueZone host call) := by
  refine (Keeps.ofExcept _).bind fun zone => ?_
  split
  · exact enqueueChange_stays fixed queued _ _ _
  · split
    · exact Keeps.pure ()
    · exact (Keeps.ofExcept _).bind fun payload => enqueueChange_stays fixed queued _ _ _

theorem arrive_stays (arrivals : List Enqueue) : Keeps (Stays P) (arrive host arrivals) :=
  Keeps.each fun call _ => (enqueueZone_stays fixed queued call).caught.bind fun _ => Keeps.pure ()

end

end Boron.DnsCluster
